import ScriptFiles.Entries
import ScriptFiles.Registry

/-!
# Storing and taking

What the registry holds after storing and taking, handle by handle. A registry is sound when no
handle has two entries and every entry has a handle that was drawn. Storing keeps a sound
registry sound as long as the counter does not run over, because only then is the handle fresh.
-/

namespace ScriptFiles.Registry

/-- No handle has two entries, and every handle with an entry was drawn. -/
structure Sound (r : Registry) : Prop where
  distinct : (r.entries.map Prod.fst).Nodup
  drawn : ∀ entry ∈ r.entries, entry.1.id.toNat ≤ r.lastId.toNat

/-- An empty registry is sound. -/
theorem sound_empty : Sound {} := ⟨List.nodup_nil, by simp⟩

/-- A handle with values waiting has an entry. -/
theorem exists_mem_of_get? {r : Registry} {h : Handle} {values : List Value}
    (hget : r.get? h = some values) : (h, values) ∈ r.entries := by
  obtain ⟨l₁, l₂, heq, -⟩ := List.lookup_eq_some_iff.mp hget
  rw [heq]
  simp

/-- In a sound registry values wait only under drawn handles. -/
theorem Sound.le_lastId {r : Registry} (hsound : r.Sound) {h : Handle} {values : List Value}
    (hget : r.get? h = some values) : h.id.toNat ≤ r.lastId.toNat :=
  hsound.drawn _ (exists_mem_of_get? hget)

/-- The handle that the next storing issues. -/
def nextHandle (r : Registry) : Handle := ⟨r.lastId + 1⟩

/-- Values are stored under the next handle. -/
@[simp] theorem store_fst (r : Registry) (values : List Value) :
    (r.store values).1 = r.nextHandle := rfl

/-- Storing values moves on to the next handle. -/
@[simp] theorem lastId_store (r : Registry) (values : List Value) :
    (r.store values).2.lastId = r.lastId + 1 := rfl

/-- Below the limit of the counter the next handle is one more than the last. -/
theorem toNat_nextHandle {r : Registry} (hroom : r.lastId.toNat + 1 < UInt64.size) :
    r.nextHandle.id.toNat = r.lastId.toNat + 1 := by
  simp only [nextHandle, UInt64.toNat_add, UInt64.toNat_one]
  exact Nat.mod_eq_of_lt hroom

/-- The stored values wait under the new handle. -/
@[simp] theorem get?_store_self (r : Registry) (values : List Value) :
    (r.store values).2.get? r.nextHandle = some values := by
  simp [store, draw, insert, get?, nextHandle]

/-- Storing leaves every other handle alone. -/
theorem get?_store_of_ne (r : Registry) {h : Handle} (values : List Value)
    (hne : h ≠ r.nextHandle) : (r.store values).2.get? h = r.get? h := by
  have hother : (h == r.nextHandle) = false := by simpa using hne
  change List.lookup h ((r.nextHandle, values) :: r.entries.filter (·.1 != r.nextHandle)) = _
  rw [List.lookup_cons, hother]
  exact Entries.lookup_filter_ne _ hne

/-- Without an entry under the next handle, storing puts one entry in front. -/
theorem Sound.entries_store {r : Registry} (hsound : r.Sound)
    (hroom : r.lastId.toNat + 1 < UInt64.size) (values : List Value) :
    (r.store values).2.entries = (r.nextHandle, values) :: r.entries := by
  have habsent : r.nextHandle ∉ r.entries.map Prod.fst := by
    intro hmem
    obtain ⟨entry, hentry, heq⟩ := List.mem_map.mp hmem
    have hle := hsound.drawn entry hentry
    rw [heq, toNat_nextHandle hroom] at hle
    omega
  change (r.nextHandle, values) :: r.entries.filter (·.1 != r.nextHandle) = _
  rw [Entries.filter_ne_of_notMem habsent]

/-- Storing keeps a registry sound below the limit of the counter. -/
theorem Sound.store {r : Registry} (hsound : r.Sound) (hroom : r.lastId.toNat + 1 < UInt64.size)
    (values : List Value) : (r.store values).2.Sound := by
  have hnext := toNat_nextHandle hroom
  have hlast : (r.store values).2.lastId.toNat = r.lastId.toNat + 1 := hnext
  constructor
  · rw [hsound.entries_store hroom, List.map_cons, List.nodup_cons]
    refine ⟨fun hmem => ?_, hsound.distinct⟩
    obtain ⟨entry, hentry, heq⟩ := List.mem_map.mp hmem
    have hle := hsound.drawn entry hentry
    rw [heq, hnext] at hle
    omega
  · rw [hsound.entries_store hroom, hlast]
    intro entry hentry
    rcases List.mem_cons.mp hentry with rfl | hold
    · exact Nat.le_of_eq hnext
    · exact Nat.le_succ_of_le (hsound.drawn entry hold)

/-- Storing adds one entry below the limit of the counter. -/
theorem Sound.size_store {r : Registry} (hsound : r.Sound)
    (hroom : r.lastId.toNat + 1 < UInt64.size) (values : List Value) :
    (r.store values).2.size = r.size + 1 := by
  rw [size, hsound.entries_store hroom]
  rfl

/-- The registry without the entry of a handle. -/
def without (r : Registry) (h : Handle) : Registry :=
  { r with entries := r.entries.filter (·.1 != h) }

/-- Taking gives the waiting values and removes their entry. -/
theorem take_eq (r : Registry) (h : Handle) :
    r.take h = (r.get? h).map fun values => (values, r.without h) := by
  unfold take
  split <;> simp_all [without]

/-- Removing values draws no handle. -/
@[simp] theorem lastId_without (r : Registry) (h : Handle) :
    (r.without h).lastId = r.lastId := rfl

/-- A taken handle has no values waiting any more. -/
@[simp] theorem get?_without_self (r : Registry) (h : Handle) : (r.without h).get? h = none :=
  Entries.lookup_filter_self _ _

/-- Taking leaves every other handle alone. -/
theorem get?_without_of_ne (r : Registry) {h other : Handle} (hne : other ≠ h) :
    (r.without h).get? other = r.get? other :=
  Entries.lookup_filter_ne _ hne

/-- Entries are taken out in either order. -/
theorem without_comm (r : Registry) (h other : Handle) :
    (r.without h).without other = (r.without other).without h := by
  simp only [without, List.filter_filter, Bool.and_comm]

/-- Taking keeps a registry sound. -/
theorem Sound.without {r : Registry} (hsound : r.Sound) (h : Handle) : (r.without h).Sound where
  distinct := hsound.distinct.sublist (List.filter_sublist.map _)
  drawn entry hentry := hsound.drawn entry (List.mem_filter.mp hentry).1

/-- Taking removes exactly one entry. -/
theorem Sound.size_without {r : Registry} (hsound : r.Sound) {h : Handle} {values : List Value}
    (hget : r.get? h = some values) : (r.without h).size + 1 = r.size := by
  exact (Entries.perm_cons_filter_ne hsound.distinct (exists_mem_of_get? hget)).length_eq.symm

end ScriptFiles.Registry
