/-!
# Lists of entries

Disks and registries are lists of entries under keys, and an entry is taken out by filtering its
key away. The lemmas say what a look-up finds afterwards and, for entries whose keys differ, that
exactly one of them went.
-/

namespace ScriptFiles.Entries

variable {κ α : Type}

/-- Where the keys differ, no other entry has the key of an entry. -/
theorem key_notMem_of_distinct {left right : List (κ × α)} {entry : κ × α}
    (hdistinct : ((left ++ entry :: right).map Prod.fst).Nodup) :
    entry.1 ∉ (left ++ right).map Prod.fst := by
  have hfront := (List.perm_middle.map Prod.fst).nodup_iff.mp hdistinct
  rw [List.map_cons, List.nodup_cons] at hfront
  exact hfront.1

variable [BEq κ] [LawfulBEq κ]

/-- Filtering one key away leaves every other key alone. -/
theorem lookup_filter_ne (entries : List (κ × α)) {key other : κ} (h : other ≠ key) :
    (entries.filter (·.1 != key)).lookup other = entries.lookup other := by
  induction entries with
  | nil => rfl
  | cons e rest ih =>
    obtain ⟨k, value⟩ := e
    by_cases same : k = key
    · have different : (other == k) = false := by simpa [same] using h
      rw [List.filter_cons_of_neg (by simp [same]), ih, List.lookup_cons, different]
    · rw [List.filter_cons_of_pos (by simpa using same), List.lookup_cons, List.lookup_cons, ih]

/-- A key that was filtered away is not found. -/
theorem lookup_filter_self (entries : List (κ × α)) (key : κ) :
    (entries.filter (·.1 != key)).lookup key = none := by
  induction entries with
  | nil => rfl
  | cons e rest ih =>
    obtain ⟨k, value⟩ := e
    by_cases same : k = key
    · rw [List.filter_cons_of_neg (by simp [same]), ih]
    · have different : (key == k) = false := by simpa using Ne.symm same
      rw [List.filter_cons_of_pos (by simpa using same), List.lookup_cons, different, ih]

/-- Filtering a key away that no entry has changes nothing. -/
theorem filter_ne_of_notMem {entries : List (κ × α)} {key : κ}
    (h : key ∉ entries.map Prod.fst) : entries.filter (·.1 != key) = entries := by
  rw [List.filter_eq_self]
  intro entry hentry
  rw [bne_iff_ne]
  rintro rfl
  exact h (List.mem_map_of_mem hentry)

/-- Among entries whose keys differ, filtering a key away removes its entry and no other. -/
theorem perm_cons_filter_ne {entries : List (κ × α)} (hdistinct : (entries.map Prod.fst).Nodup)
    {entry : κ × α} (hentry : entry ∈ entries) :
    entries.Perm (entry :: entries.filter (·.1 != entry.1)) := by
  obtain ⟨left, right, rfl⟩ := List.append_of_mem hentry
  have hrest : (left ++ entry :: right).filter (·.1 != entry.1) = left ++ right := by
    rw [List.filter_append, List.filter_cons_of_neg (by simp), ← List.filter_append]
    exact filter_ne_of_notMem (key_notMem_of_distinct hdistinct)
  rw [hrest]
  exact List.perm_middle

/-- Among entries whose keys differ, a look-up finds exactly the entries. -/
theorem lookup_eq_some_iff_mem {entries : List (κ × α)}
    (hdistinct : (entries.map Prod.fst).Nodup) {key : κ} {value : α} :
    entries.lookup key = some value ↔ (key, value) ∈ entries := by
  constructor
  · intro hfound
    obtain ⟨left, right, rfl, -⟩ := List.lookup_eq_some_iff.mp hfound
    simp
  · intro hmem
    obtain ⟨left, right, rfl⟩ := List.append_of_mem hmem
    have hapart := key_notMem_of_distinct hdistinct
    refine List.lookup_eq_some_iff.mpr ⟨left, right, rfl, fun entry hentry => ?_⟩
    rw [bne_iff_ne]
    rintro rfl
    exact hapart (List.mem_map.mpr ⟨entry, List.mem_append_left _ hentry, rfl⟩)

end ScriptFiles.Entries
