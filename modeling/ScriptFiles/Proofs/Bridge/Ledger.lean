import ScriptFiles.Proofs.Bridge.Registrations

/-!
# The count of pending operations

The tickets that a run opened on an engine and whose completion it has not started are counted by
the registry of the engine, as long as the engine lives: an engine without registrations has none
of them, and every move changes both numbers alike (`Ledger`). A completion that finds its engine
gone leaves the registry alone, but then nobody can ask that engine for its number any more.
-/

namespace ScriptFiles.Bridge

/-! ## Histories -/

/-- The moves of a run with their turns. -/
def turns (s : State) (moves : List Move) : List (Move × Turn) :=
  moves.zip (run s moves)

/-- No moves have no turns. -/
@[simp] theorem turns_nil (s : State) : turns s [] = [] := rfl

/-- The turns of a run begin with that of its first move. -/
@[simp] theorem turns_cons (s : State) (m : Move) (rest : List Move) :
    turns s (m :: rest) = (m, step s m) :: turns (step s m).state rest := rfl

/-- No moves have no events. -/
@[simp] theorem trace_nil (s : State) : trace s [] = [] := rfl

/-- The events of a run begin with those of its first move. -/
@[simp] theorem trace_cons (s : State) (m : Move) (rest : List Move) :
    trace s (m :: rest) = (step s m).events ++ trace (step s m).state rest := rfl

/-- The events of a run in two parts. -/
theorem trace_append (s : State) (first second : List Move) :
    trace s (first ++ second) = trace s first ++ trace (after s first) second := by
  induction first generalizing s with
  | nil => rfl
  | cons m rest ih =>
    rw [List.cons_append, trace_cons, trace_cons, after_cons, ih, List.append_assoc]

/-- The tickets that a run opens on an engine, in order. -/
def openings (e : EngineId) (s : State) (moves : List Move) : List Nat :=
  (turns s moves).flatMap fun turn => opened e turn.1 turn.2

/-- The tickets whose completions a run starts, in order. -/
def starts (s : State) (moves : List Move) : List Nat :=
  (turns s moves).filterMap fun turn => started? turn.1 turn.2

/-- No moves open nothing. -/
@[simp] theorem openings_nil (e : EngineId) (s : State) : openings e s [] = [] := rfl

/-- What a run opens begins with what its first move opens. -/
@[simp] theorem openings_cons (e : EngineId) (s : State) (m : Move) (rest : List Move) :
    openings e s (m :: rest) = opened e m (step s m) ++ openings e (step s m).state rest := rfl

/-- No moves start nothing. -/
@[simp] theorem starts_nil (s : State) : starts s [] = [] := rfl

/-- The starts of a run begin with that of its first move. -/
@[simp] theorem starts_cons (s : State) (m : Move) (rest : List Move) :
    starts s (m :: rest) = (started? m (step s m)).toList ++ starts (step s m).state rest := by
  rw [starts, turns_cons, List.filterMap_cons]
  cases started? m (step s m) <;> rfl

/-! ## Tickets that were not started -/

/-- The opened tickets whose completions were not started. -/
def unstarted (opened started : List Nat) : List Nat :=
  opened.filter (· ∉ started)

/-- A start of another ticket changes nothing. -/
theorem unstarted_of_not_mem {opened started : List Nat} {id : Nat} (hid : id ∉ opened) :
    unstarted opened (started ++ [id]) = unstarted opened started := by
  refine List.filter_congr fun other hother => ?_
  have hne : other ≠ id := fun heq => hid (heq ▸ hother)
  simp [hne]

/-- A first start takes one ticket away. -/
theorem length_unstarted_of_mem {opened started : List Nat} {id : Nat} (hdistinct : opened.Nodup)
    (hopened : id ∈ opened) (hnew : id ∉ started) :
    (unstarted opened (started ++ [id])).length + 1 = (unstarted opened started).length := by
  have hsplit : unstarted opened (started ++ [id]) = (unstarted opened started).erase id := by
    rw [unstarted, unstarted, List.Nodup.erase_eq_filter (hdistinct.filter _),
      List.filter_filter]
    refine List.filter_congr fun other _ => ?_
    rw [Bool.eq_iff_iff]
    simp [and_comm]
  have hmem : id ∈ unstarted opened started := by simp [unstarted, hopened, hnew]
  have hpos := List.length_pos_of_mem hmem
  rw [hsplit, List.length_erase_of_mem hmem]
  omega

/-- A new ticket is not started. -/
theorem unstarted_append {opened started : List Nat} {id : Nat} (hnew : id ∉ started) :
    unstarted (opened ++ [id]) started = unstarted opened started ++ [id] := by
  simp [unstarted, List.filter_append, hnew]

/-! ## The ledger -/

/-- What is known of an engine when these tickets were opened on it and those were started: the
numbers were handed out, the waiting tickets of the engine are among the opened ones and not
started, and the registry counts the opened ones that were not started unless the engine is dead. -/
structure Ledger (s : State) (e : EngineId) (opened started : List Nat) : Prop where
  distinct : opened.Nodup
  known : ∀ id, id ∈ opened ∨ id ∈ started → id < s.ticketCount
  waiting : ∀ t ∈ s.tickets, t.id ∉ started ∧ (t.engine = e ↔ t.id ∈ opened)
  pending : ¬s.IsDead e → s.pending e = (unstarted opened started).length

/-- Nothing is opened at first. -/
theorem ledger_empty (e : EngineId) : Ledger {} e [] [] :=
  ⟨List.nodup_nil, by simp, by simp, fun _ => rfl⟩

variable {s s' : State} {e : EngineId} {opened started : List Nat}

/-- The same books have the same ledger. -/
theorem Ledger.of_sameBooks (hledger : Ledger s e opened started) (hbooks : SameBooks s s')
    (hdead : s.IsDead e → s'.IsDead e) : Ledger s' e opened started where
  distinct := hledger.distinct
  known id hid := by
    rw [hbooks.ticketCount]
    exact hledger.known id hid
  waiting t ht := by
    rw [hbooks.tickets] at ht
    exact hledger.waiting t ht
  pending hlive := by
    rw [State.pending, hbooks.registry]
    exact hledger.pending fun h => hlive (hdead h)

/-- Registering opens a ticket on the engine it is done on. -/
theorem Ledger.enter (hledger : Ledger s e opened started) (hformed : Formed s)
    (hregistered : Registered s) (hfew : s.ticketCount + 1 < UInt64.size) {e' : EngineId}
    {values : List Value} {purpose : Purpose} (he : e' < s.engines.length)
    (hbooks : SameBooks (s.register e' values purpose).2 s') (hdead : s.IsDead e → s'.IsDead e) :
    Ledger s' e (opened ++ if e' = e then [s.ticketCount] else []) started := by
  have hcount : s'.ticketCount = s.ticketCount + 1 := hbooks.ticketCount
  have hfresh : s.ticketCount ∉ opened ∧ s.ticketCount ∉ started :=
    ⟨fun h => Nat.lt_irrefl _ (hledger.known _ (Or.inl h)),
      fun h => Nat.lt_irrefl _ (hledger.known _ (Or.inr h))⟩
  constructor
  · split
    · rw [List.nodup_append]
      refine ⟨hledger.distinct, by simp, fun id hid other hother heq => hfresh.1 ?_⟩
      rwa [← List.mem_singleton.mp hother, ← heq]
    · rw [List.append_nil]
      exact hledger.distinct
  · intro id hid
    rw [hcount]
    have hold : (id ∈ opened ∨ id ∈ started) ∨ id = s.ticketCount := by
      split at hid <;> simp only [List.mem_append, List.mem_singleton, List.not_mem_nil] at hid
      · rcases hid with (h | h) | h
        · exact Or.inl (Or.inl h)
        · exact Or.inr h
        · exact Or.inl (Or.inr h)
      · exact Or.inl (by simpa using hid)
    rcases hold with hold | rfl
    · exact Nat.lt_succ_of_lt (hledger.known id hold)
    · exact Nat.lt_succ_self _
  · intro t ht
    rw [hbooks.tickets, State.tickets_register] at ht
    rcases List.mem_append.mp ht with hold | hnew
    · have hne : t.id ≠ s.ticketCount := Nat.ne_of_lt (hformed.tickets t hold).2
      obtain ⟨hstarted, hopened⟩ := hledger.waiting t hold
      refine ⟨hstarted, ?_⟩
      split <;> simp [hopened, hne]
    · obtain rfl := List.mem_singleton.mp hnew
      refine ⟨hfresh.2, ?_⟩
      change e' = e ↔ s.ticketCount ∈ _
      split <;> simp [*]
  · intro hlive
    have hpending := hledger.pending fun h => hlive (hdead h)
    rw [State.pending, hbooks.registry]
    split
    · next heq =>
      subst heq
      rw [State.registry_register_self s values purpose he,
        (hregistered.sound e').size_store (hregistered.room hfew e'), unstarted_append hfresh.2,
        List.length_append]
      exact congrArg (· + 1) hpending
    · next hne =>
      rw [State.registry_register_of_ne s values purpose (Ne.symm hne), List.append_nil]
      exact hpending

/-- Redeeming a ticket starts its completion. -/
theorem Ledger.redeem (hledger : Ledger s e opened started) {t : Ticket}
    (hid : t.id < s.ticketCount) (htickets : s'.tickets = (s.spend t).tickets)
    (hcount : s'.ticketCount = s.ticketCount)
    (hpending : ¬s'.IsDead e → s'.pending e = (unstarted opened (started ++ [t.id])).length) :
    Ledger s' e opened (started ++ [t.id]) where
  distinct := hledger.distinct
  known id hknown := by
    rw [hcount]
    rcases hknown with hopened | hstarted
    · exact hledger.known id (Or.inl hopened)
    · rcases List.mem_append.mp hstarted with hold | hnew
      · exact hledger.known id (Or.inr hold)
      · rwa [List.mem_singleton.mp hnew]
  waiting u hu := by
    rw [htickets] at hu
    obtain ⟨hu, hne⟩ := State.mem_tickets_spend.mp hu
    obtain ⟨hstarted, hopened⟩ := hledger.waiting u hu
    exact ⟨by simp [hstarted, hne], hopened⟩
  pending := hpending

/-- Taking the registration of a ticket out starts its completion. -/
theorem Ledger.settle (hledger : Ledger s e opened started) (hformed : Formed s)
    (hregistered : Registered s) {t : Ticket} (ht : t ∈ s.tickets)
    (hbooks : SameBooks (s.settle t) s') (hdead : s.IsDead e → s'.IsDead e) :
    Ledger s' e opened (started ++ [t.id]) := by
  refine hledger.redeem (hformed.tickets t ht).2 hbooks.tickets hbooks.ticketCount fun hlive => ?_
  have hpending := hledger.pending fun h => hlive (hdead h)
  obtain ⟨hnew, hopened⟩ := hledger.waiting t ht
  rw [State.pending, hbooks.registry]
  by_cases heq : t.engine = e
  · obtain ⟨values, hget, -⟩ := hregistered.stored t ht
    have hsize := (hregistered.sound t.engine).size_without hget
    have hlength := length_unstarted_of_mem hledger.distinct (hopened.mp heq) hnew
    subst heq
    rw [s.registry_settle_self (hformed.tickets t ht).1]
    rw [State.pending] at hpending
    omega
  · rw [s.registry_settle_of_ne (Ne.symm heq),
      unstarted_of_not_mem fun hmem => heq (hopened.mpr hmem)]
    exact hpending

/-- A completion that finds its engine dead is started all the same. -/
theorem Ledger.lose (hledger : Ledger s e opened started) (hformed : Formed s) {t : Ticket}
    (ht : t ∈ s.tickets) (hgone : s.isAlive t.engine = false)
    (hbooks : SameBooks (s.spend t) s') (hdead : s.IsDead e → s'.IsDead e) :
    Ledger s' e opened (started ++ [t.id]) := by
  refine hledger.redeem (hformed.tickets t ht).2 hbooks.tickets hbooks.ticketCount fun hlive => ?_
  have hpending := hledger.pending fun h => hlive (hdead h)
  have hne : t.engine ≠ e := by
    rintro rfl
    exact hlive (hdead ⟨(hformed.tickets t ht).1, hgone⟩)
  rw [unstarted_of_not_mem fun hmem => hne ((hledger.waiting t ht).2.mpr hmem), State.pending,
    hbooks.registry]
  exact hpending

/-- A ticket that was given up is never started, and stays counted. -/
theorem Ledger.abandon (hledger : Ledger s e opened started) {t : Ticket}
    (hbooks : SameBooks (s.spend t) s') (hdead : s.IsDead e → s'.IsDead e) :
    Ledger s' e opened started where
  distinct := hledger.distinct
  known id hid := by
    rw [hbooks.ticketCount]
    exact hledger.known id hid
  waiting u hu := by
    rw [hbooks.tickets] at hu
    exact hledger.waiting u (State.mem_tickets_spend.mp hu).1
  pending hlive := by
    rw [State.pending, hbooks.registry]
    exact hledger.pending fun h => hlive (hdead h)

/-- One move keeps the ledger, with what its turn opens and starts. -/
theorem Ledger.step (hledger : Ledger s e opened started) (hformed : Formed s)
    (hregistered : Registered s) {m : Move}
    (hfew : (Bridge.step s m).state.ticketCount < UInt64.size) :
    Ledger (Bridge.step s m).state e (opened ++ Bridge.opened e m (Bridge.step s m))
      (started ++ (started? m (Bridge.step s m)).toList) := by
  have hanswers := answers_step hformed.seated m
  have hdead : s.IsDead e → (Bridge.step s m).state.IsDead e := hanswers.isDead
  cases hanswers.booked with
  | kept hbooks hopened hstarted =>
    rw [hopened, hstarted, List.append_nil, Option.toList_none, List.append_nil]
    exact hledger.of_sameBooks hbooks hdead
  | entered halive _ hbooks hopened hstarted =>
    rw [hbooks.ticketCount, State.ticketCount_register] at hfew
    rw [hopened, hstarted, Option.toList_none, List.append_nil]
    exact hledger.enter hformed hregistered hfew (hformed.lt_of_isAlive halive) hbooks hdead
  | settled hredeems hbooks hopened hstarted =>
    rw [hopened, hstarted, List.append_nil, Option.toList_some]
    exact hledger.settle hformed hregistered hredeems.mem hbooks hdead
  | lost hredeems hlost hbooks hopened hstarted =>
    rw [hopened, hstarted, List.append_nil, Option.toList_some]
    rcases hlost with hgone | hnone
    · exact hledger.lose hformed hredeems.mem hgone hbooks hdead
    · obtain ⟨values, hget, -⟩ := hregistered.stored _ hredeems.mem
      rw [hnone] at hget
      contradiction
  | abandoned _ hbooks hopened hstarted =>
    rw [hopened, hstarted, List.append_nil, Option.toList_none, List.append_nil]
    exact hledger.abandon hbooks hdead

/-- Every run keeps the ledger, with all that its turns open and start. -/
theorem Ledger.after (hledger : Ledger s e opened started) (hformed : Formed s)
    (hregistered : Registered s) (moves : List Move)
    (hfew : (Bridge.after s moves).ticketCount < UInt64.size) :
    Ledger (Bridge.after s moves) e (opened ++ openings e s moves) (started ++ starts s moves) := by
  induction moves generalizing s opened started with
  | nil =>
    rw [openings_nil, starts_nil, List.append_nil, List.append_nil]
    exact hledger
  | cons m rest ih =>
    have hfewStep := (hformed.step m).few hfew
    rw [openings_cons, starts_cons, ← List.append_assoc, ← List.append_assoc]
    exact ih (hledger.step hformed hregistered hfewStep) (hformed.step m)
      (hregistered.step hformed hfewStep) hfew

end ScriptFiles.Bridge
