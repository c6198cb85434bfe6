import ScriptFiles.Error
import ScriptFiles.Proofs.Registry
import Mathlib.Data.List.Induction
import Mathlib.Data.List.Nodup
import Mathlib.Data.List.Perm.Basic
import Mathlib.Logic.Function.Basic

/-!
# Parties sharing a registry

Any number of parties store and take at the same time. A store call draws its handle in one
atomic step and puts its values in in another, a take call has one step, and steps of different
calls fall between each other in any order. `Shared` is a registry with the store calls that are
between their two steps and the record of everything done, `Act` is one atomic step, and `after`
runs any sequence of steps on any number of registries.

`Kept` is what every step preserves: the drawn ids count up from one, each drawn entry either is
still to be put in or was put in, and each entry put in either waits or was handed out. Because
both are permutations of lists whose handles differ, no list is lost, altered or handed out
twice, and a take finds an entry exactly when it was put in and not handed out yet.
-/

namespace ScriptFiles.Sharing

/-- One atomic step of a call: drawing a handle for values, putting the values of a store call
that has drawn in, or taking. -/
inductive Act
  | draw (values : List Value)
  | insert (call : Nat)
  | take (h : Handle)
deriving DecidableEq

/-- What a step did. -/
inductive Deed
  | drew (entry : Handle × List Value)
  | inserted (entry : Handle × List Value)
  | took (h : Handle) (result : Except ScriptError (List Value))

/-- A registry, the entries of the store calls between their two steps, and all deeds so far,
oldest first. -/
structure Shared where
  registry : Registry := {}
  storing : List (Handle × List Value) := []
  deeds : List Deed := []

/-- One atomic step. Putting in does nothing when there is no such store call. -/
def Shared.step (s : Shared) : Act → Shared
  | .draw values =>
    let drawn := s.registry.draw
    { registry := drawn.2
      storing := s.storing ++ [(drawn.1, values)]
      deeds := s.deeds ++ [.drew (drawn.1, values)] }
  | .insert call =>
    match s.storing[call]? with
    | some entry =>
      { registry := s.registry.insert entry.1 entry.2
        storing := s.storing.eraseIdx call
        deeds := s.deeds ++ [.inserted entry] }
    | none => s
  | .take h =>
    match s.registry.take h with
    | some (values, rest) =>
      { s with registry := rest, deeds := s.deeds ++ [.took h (.ok values)] }
    | none => { s with deeds := s.deeds ++ [.took h (.error (.handleNotFound h))] }

/-- Any number of registries after steps, each on one of them, all empty at first. -/
def after (acts : List (Nat × Act)) : Nat → Shared :=
  acts.foldl (fun shared act => Function.update shared act.1 ((shared act.1).step act.2))
    fun _ => {}

/-- The entries drawn, in the order of the drawing. -/
def draws (deeds : List Deed) : List (Handle × List Value) :=
  deeds.filterMap fun
    | .drew entry => some entry
    | _ => none

/-- The entries put in. -/
def inserts (deeds : List Deed) : List (Handle × List Value) :=
  deeds.filterMap fun
    | .inserted entry => some entry
    | _ => none

/-- The entries handed out by a take. -/
def handed (deeds : List Deed) : List (Handle × List Value) :=
  deeds.filterMap fun
    | .took h (.ok values) => some (h, values)
    | _ => none

section Deeds

variable (deeds : List Deed) (entry : Handle × List Value) (h : Handle)

/-- A draw is one more draw. -/
@[simp] theorem draws_drew : draws (deeds ++ [.drew entry]) = draws deeds ++ [entry] := by
  simp [draws]

@[simp] theorem draws_inserted : draws (deeds ++ [.inserted entry]) = draws deeds := by
  simp [draws]

@[simp] theorem draws_took (result : Except ScriptError (List Value)) :
    draws (deeds ++ [.took h result]) = draws deeds := by
  simp [draws]

@[simp] theorem inserts_drew : inserts (deeds ++ [.drew entry]) = inserts deeds := by
  simp [inserts]

/-- An insertion is one more insertion. -/
@[simp] theorem inserts_inserted :
    inserts (deeds ++ [.inserted entry]) = inserts deeds ++ [entry] := by
  simp [inserts]

@[simp] theorem inserts_took (result : Except ScriptError (List Value)) :
    inserts (deeds ++ [.took h result]) = inserts deeds := by
  simp [inserts]

@[simp] theorem handed_drew : handed (deeds ++ [.drew entry]) = handed deeds := by
  simp [handed]

@[simp] theorem handed_inserted : handed (deeds ++ [.inserted entry]) = handed deeds := by
  simp [handed]

/-- Taking values hands them out. -/
@[simp] theorem handed_took_ok (values : List Value) :
    handed (deeds ++ [.took h (.ok values)]) = handed deeds ++ [(h, values)] := by
  simp [handed]

/-- A failed take hands nothing out. -/
@[simp] theorem handed_took_error (error : ScriptError) :
    handed (deeds ++ [.took h (.error error)]) = handed deeds := by
  simp [handed]

end Deeds

/-- A step on another registry changes nothing here, a step here is one step. -/
theorem after_concat (acts : List (Nat × Act)) (place : Nat) (act : Act) :
    after (acts ++ [(place, act)]) =
      Function.update (after acts) place ((after acts place).step act) := by
  simp [after]

/-- A store call that is not interrupted stores. -/
theorem Shared.registry_draw_insert (s : Shared) (values : List Value) :
    ((s.step (.draw values)).step (.insert s.storing.length)).registry =
      (s.registry.store values).2 := by
  simp [Shared.step, Registry.store]

/-- The drawn ids count up from one, each drawn entry either is still to be put in or was put in,
and each entry put in either waits or was handed out. -/
structure Kept (s : Shared) : Prop where
  counted : (draws s.deeds).map (·.1.id.toNat) = List.range' 1 s.registry.lastId.toNat
  started : (draws s.deeds).Perm (s.storing ++ inserts s.deeds)
  stored : (inserts s.deeds).Perm (s.registry.entries ++ handed s.deeds)

/-- The books are kept from the start. -/
theorem kept_empty : Kept {} where
  counted := rfl
  started := List.Perm.nil
  stored := List.Perm.nil

namespace Kept

variable {s : Shared}

/-- The counter has counted the handles drawn. -/
theorem lastId_eq (hkept : Kept s) : s.registry.lastId.toNat = (draws s.deeds).length := by
  have hlength := congrArg List.length hkept.counted
  rw [List.length_map, List.length_range'] at hlength
  exact hlength.symm

/-- The handles drawn are strictly increasing. -/
theorem increasing (hkept : Kept s) :
    ((draws s.deeds).map Prod.fst).Pairwise fun a b => a.id < b.id := by
  have hids : ((draws s.deeds).map (·.1.id.toNat)).Pairwise (· < ·) := by
    rw [hkept.counted]
    exact List.pairwise_lt_range'
  rw [List.pairwise_map] at hids ⊢
  exact hids.imp UInt64.lt_iff_toNat_lt.mpr

/-- The handles drawn differ. -/
theorem nodup_draws (hkept : Kept s) : ((draws s.deeds).map Prod.fst).Nodup :=
  hkept.increasing.imp fun hlt heq => by
    rw [heq] at hlt
    exact UInt64.lt_irrefl _ hlt

/-- No handle drawn is zero. -/
theorem ne_zero (hkept : Kept s) : ∀ h ∈ (draws s.deeds).map Prod.fst, h.id ≠ 0 := by
  intro h hdrawn hzero
  obtain ⟨entry, hentry, rfl⟩ := List.mem_map.mp hdrawn
  have hid : entry.1.id.toNat ∈ List.range' 1 s.registry.lastId.toNat :=
    hkept.counted ▸ List.mem_map.mpr ⟨entry, hentry, rfl⟩
  rw [hzero, List.mem_range'_1] at hid
  exact absurd hid.1 (by decide)

/-- Entries put in or still to be put in have handles that differ. -/
theorem nodup_started (hkept : Kept s) :
    ((s.storing ++ inserts s.deeds).map Prod.fst).Nodup :=
  (hkept.started.map Prod.fst).nodup_iff.mp hkept.nodup_draws

/-- Entries that wait or were handed out have handles that differ. -/
theorem nodup_stored (hkept : Kept s) :
    ((s.registry.entries ++ handed s.deeds).map Prod.fst).Nodup := by
  refine (hkept.stored.map Prod.fst).nodup_iff.mp ?_
  exact hkept.nodup_started.sublist ((List.sublist_append_right _ _).map _)

/-- Entries that wait have handles that differ. -/
theorem distinct (hkept : Kept s) : (s.registry.entries.map Prod.fst).Nodup :=
  hkept.nodup_stored.sublist ((List.sublist_append_left _ _).map _)

/-- No handle was handed out twice. -/
theorem nodup_handed (hkept : Kept s) : ((handed s.deeds).map Prod.fst).Nodup :=
  hkept.nodup_stored.sublist ((List.sublist_append_right _ _).map _)

/-- Nothing waits under a handle whose values are still to be put in. -/
theorem notMem_of_storing (hkept : Kept s) {entry : Handle × List Value}
    (hentry : entry ∈ s.storing) : entry.1 ∉ s.registry.entries.map Prod.fst := by
  intro hwaiting
  have hinserted : entry.1 ∈ (inserts s.deeds).map Prod.fst := by
    rw [(hkept.stored.map Prod.fst).mem_iff, List.map_append]
    exact List.mem_append_left _ hwaiting
  have hapart := hkept.nodup_started
  rw [List.map_append, List.nodup_append'] at hapart
  exact hapart.2.2 (List.mem_map_of_mem hentry) hinserted

/-- Values wait exactly where they were put in and not handed out. -/
theorem get?_eq_some_iff (hkept : Kept s) {h : Handle} {values : List Value} :
    s.registry.get? h = some values ↔
      (h, values) ∈ inserts s.deeds ∧ h ∉ (handed s.deeds).map Prod.fst := by
  rw [Registry.get?, Entries.lookup_eq_some_iff_mem hkept.distinct, hkept.stored.mem_iff,
    List.mem_append]
  have hapart := hkept.nodup_stored
  rw [List.map_append, List.nodup_append'] at hapart
  constructor
  · intro hwaiting
    exact ⟨.inl hwaiting, hapart.2.2 (List.mem_map_of_mem hwaiting)⟩
  · rintro ⟨hwaiting | hhanded, hnot⟩
    · exact hwaiting
    · exact absurd (List.mem_map_of_mem hhanded) hnot

/-- Drawing below the limit of the counter keeps the books. -/
theorem draw (hkept : Kept s) (hroom : s.registry.lastId.toNat + 1 < UInt64.size)
    (values : List Value) : Kept (s.step (.draw values)) where
  counted := by
    have hnext := Registry.toNat_nextHandle hroom
    have hlast : (s.step (.draw values)).registry.lastId.toNat = s.registry.lastId.toNat + 1 :=
      hnext
    rw [hlast, List.range'_1_concat, ← hkept.counted]
    simp only [Shared.step, draws_drew, List.map_append, List.map_cons, List.map_nil]
    congr 2
    exact hnext.trans (Nat.add_comm _ _)
  started := by
    simp only [Shared.step, draws_drew, inserts_drew]
    refine (hkept.started.append_right _).trans ?_
    rw [List.append_assoc, List.append_assoc]
    exact List.perm_append_comm.append_left _
  stored := by
    simpa only [Shared.step, Registry.draw, inserts_drew, handed_drew] using hkept.stored

/-- Putting values in keeps the books. -/
theorem insert (hkept : Kept s) (call : Nat) : Kept (s.step (.insert call)) := by
  cases hcall : s.storing[call]? with
  | none => simpa [Shared.step, hcall] using hkept
  | some entry =>
    obtain ⟨hlt, heq⟩ := List.getElem?_eq_some_iff.mp hcall
    have hentry : entry ∈ s.storing := heq ▸ List.getElem_mem hlt
    have hmoved : s.storing.Perm (entry :: s.storing.eraseIdx call) :=
      heq ▸ (List.getElem_cons_eraseIdx_perm hlt).symm
    have hkeep := Entries.filter_ne_of_notMem (hkept.notMem_of_storing hentry)
    simp only [Shared.step, hcall]
    constructor
    · simpa only [draws_inserted, Registry.insert] using hkept.counted
    · simp only [draws_inserted, inserts_inserted]
      refine hkept.started.trans ((hmoved.append_right _).trans ?_)
      rw [← List.append_assoc]
      exact (List.perm_append_singleton _ _).symm
    · simp only [inserts_inserted, handed_inserted, Registry.insert, hkeep]
      exact (List.perm_append_singleton _ _).trans (hkept.stored.cons _)

/-- Taking keeps the books. -/
theorem take (hkept : Kept s) (h : Handle) : Kept (s.step (.take h)) := by
  cases hget : s.registry.get? h with
  | none =>
    simp only [Shared.step, Registry.take_eq, hget, Option.map_none]
    exact ⟨by simpa using hkept.counted, by simpa using hkept.started, by simpa using hkept.stored⟩
  | some values =>
    have hentry := Registry.exists_mem_of_get? hget
    have hremoved := Entries.perm_cons_filter_ne hkept.distinct hentry
    simp only [Shared.step, Registry.take_eq, hget, Option.map_some]
    constructor
    · simpa using hkept.counted
    · simpa using hkept.started
    · simp only [inserts_took, handed_took_ok, Registry.without]
      refine hkept.stored.trans ((hremoved.append_right _).trans ?_)
      rw [← List.append_assoc]
      exact (List.perm_append_singleton _ _).symm

end Kept

/-- What a take gives, from the books: exactly the values put in and not handed out yet, and
otherwise the error that names the handle. -/
theorem Kept.take_result {s : Shared} (hkept : Kept s) (h : Handle) :
    ∃ result, (s.step (.take h)).deeds = s.deeds ++ [.took h result] ∧
      (s.step (.take h)).storing = s.storing ∧
      (∀ values, result = .ok values ↔
        (h, values) ∈ inserts s.deeds ∧ h ∉ (handed s.deeds).map Prod.fst) ∧
      ((¬ ∃ values, result = .ok values) →
        result = .error (.handleNotFound h) ∧ (s.step (.take h)).registry = s.registry) := by
  simp only [← hkept.get?_eq_some_iff]
  cases hget : s.registry.get? h with
  | none =>
    simp only [Shared.step, Registry.take_eq, hget, Option.map_none]
    exact ⟨.error (.handleNotFound h), by simp⟩
  | some values =>
    simp only [Shared.step, Registry.take_eq, hget, Option.map_some]
    exact ⟨.ok values, by simp⟩

/-- Steps only add to what was drawn. -/
theorem length_draws_step (s : Shared) (act : Act) :
    (draws s.deeds).length ≤ (draws (s.step act).deeds).length := by
  cases act with
  | draw values => simp [Shared.step]
  | insert call =>
    simp only [Shared.step]
    split <;> simp
  | take h =>
    simp only [Shared.step]
    split <;> simp

/-- A step keeps the books as long as fewer than `2 ^ 64` handles were drawn. -/
theorem Kept.step {s : Shared} (hkept : Kept s) (act : Act)
    (hfew : (draws (s.step act).deeds).length < UInt64.size) : Kept (s.step act) := by
  cases act with
  | draw values =>
    refine hkept.draw ?_ values
    simpa [Shared.step, hkept.lastId_eq] using hfew
  | insert call => exact hkept.insert call
  | take h => exact hkept.take h

/-- A run only adds to what was drawn. -/
theorem length_draws_after (before later : List (Nat × Act)) (place : Nat) :
    (draws (after before place).deeds).length ≤
      (draws (after (before ++ later) place).deeds).length := by
  induction later using List.reverseRecOn with
  | nil => simp
  | append_singleton later act ih =>
    rw [← List.append_assoc, after_concat]
    by_cases hplace : place = act.1
    · subst hplace
      rw [Function.update_self]
      exact Nat.le_trans ih (length_draws_step _ _)
    · rwa [Function.update_of_ne hplace]

/-- Every run keeps the books of a registry on which fewer than `2 ^ 64` handles were drawn. -/
theorem kept_after (acts : List (Nat × Act)) (place : Nat)
    (hfew : (draws (after acts place).deeds).length < UInt64.size) : Kept (after acts place) := by
  induction acts using List.reverseRecOn with
  | nil => exact kept_empty
  | append_singleton acts act ih =>
    have hbefore := ih (Nat.lt_of_le_of_lt (length_draws_after acts [act] place) hfew)
    rw [after_concat] at hfew ⊢
    by_cases hplace : place = act.1
    · subst hplace
      rw [Function.update_self] at hfew ⊢
      exact hbefore.step act.2 hfew
    · rwa [Function.update_of_ne hplace]

/-- Under any interleaving of atomic steps on any number of registries, on a registry with fewer
than `2 ^ 64` store calls started: the handles issued are strictly increasing in the order of
their drawing, distinct and never zero. At every point of the run the entries drawn are those
still to be put in and those put in, and the entries put in are those that wait and those handed
out, none twice, so the size is what was put in less what was handed out. A take of a handle,
whichever registry issued it, gives exactly the values put in under it here if it was not handed
out before, and otherwise the error that names it, with the registry unchanged. A step on one
registry changes nothing on another. -/
theorem interleaved_store_take (acts : List (Nat × Act)) (place : Nat)
    (hfew : (draws (after acts place).deeds).length < UInt64.size) :
    let issued := (draws (after acts place).deeds).map Prod.fst
    issued.Pairwise (fun a b => a.id < b.id) ∧ issued.Nodup ∧ (∀ h ∈ issued, h.id ≠ 0) ∧
    ∀ before later, acts = before ++ later →
      let s := after before place
      (draws s.deeds).Perm (s.storing ++ inserts s.deeds) ∧
      (inserts s.deeds).Perm (s.registry.entries ++ handed s.deeds) ∧
      ((handed s.deeds).map Prod.fst).Nodup ∧
      s.registry.size = (inserts s.deeds).length - (handed s.deeds).length ∧
      (handed s.deeds).length ≤ (inserts s.deeds).length ∧
      (s.registry.isEmpty = true ↔ (inserts s.deeds).length - (handed s.deeds).length = 0) ∧
      (∀ h, ∃ result,
        let taken := after (before ++ [(place, .take h)]) place
        taken.deeds = s.deeds ++ [.took h result] ∧ taken.storing = s.storing ∧
        (∀ values, result = .ok values ↔
          (h, values) ∈ inserts s.deeds ∧ h ∉ (handed s.deeds).map Prod.fst) ∧
        ((¬ ∃ values, result = .ok values) →
          result = .error (.handleNotFound h) ∧ taken.registry = s.registry)) ∧
      ∀ other act, other ≠ place →
        after (before ++ [(other, act)]) place = s ∧
        after (before ++ [(place, act)]) other = after before other := by
  have hkept := kept_after acts place hfew
  refine ⟨hkept.increasing, hkept.nodup_draws, hkept.ne_zero, ?_⟩
  rintro before later rfl
  have hbefore := kept_after before place
    (Nat.lt_of_le_of_lt (length_draws_after before later place) hfew)
  have hlength : (inserts (after before place).deeds).length =
      (after before place).registry.size + (handed (after before place).deeds).length := by
    rw [hbefore.stored.length_eq, List.length_append, Registry.size]
  refine ⟨hbefore.started, hbefore.stored, hbefore.nodup_handed, by omega, by omega, ?_,
    fun h => ?_, fun other act hother => ?_⟩
  · rw [hlength, Nat.add_sub_cancel]
    exact List.isEmpty_iff_length_eq_zero
  · simp only [after_concat, Function.update_self]
    exact hbefore.take_result h
  · simp only [after_concat]
    exact ⟨Function.update_of_ne (Ne.symm hother) _ _, Function.update_of_ne hother _ _⟩

/-- The later of two store calls puts its values in first, a take before the earlier one has put
its in fails, and a handle of another registry takes this registry's own entry. -/
theorem interleaved_store_take_overtaking :
    let acts : List (Nat × Act) :=
      [(0, .draw [.bool true]), (0, .draw [.null]), (1, .draw [.bool false]), (0, .insert 1),
        (0, .take ⟨1⟩), (1, .insert 0), (0, .insert 0)]
    (draws (after acts 0).deeds).length < UInt64.size ∧
    (after acts 0).deeds =
      [.drew (⟨1⟩, [.bool true]), .drew (⟨2⟩, [.null]), .inserted (⟨2⟩, [.null]),
        .took ⟨1⟩ (.error (.handleNotFound ⟨1⟩)), .inserted (⟨1⟩, [.bool true])] ∧
    (draws (after acts 1).deeds).map Prod.fst = [⟨1⟩] ∧
    (after (acts ++ [(0, .take ⟨1⟩)]) 0).deeds =
      (after acts 0).deeds ++ [.took ⟨1⟩ (.ok [.bool true])] := by
  intro acts
  have hfew : (draws (after acts 0).deeds).length < UInt64.size := by decide
  obtain ⟨-, -, -, hpoints⟩ := interleaved_store_take acts 0 hfew
  obtain ⟨-, -, -, -, -, -, htakes, -⟩ := hpoints acts [] (List.append_nil acts).symm
  obtain ⟨result, hdeeds, -, hvalues, -⟩ := htakes ⟨1⟩
  have hresult : result = .ok [.bool true] := (hvalues _).mpr ⟨by decide, by decide⟩
  exact ⟨hfew, rfl, rfl, hresult ▸ hdeeds⟩

end ScriptFiles.Sharing
