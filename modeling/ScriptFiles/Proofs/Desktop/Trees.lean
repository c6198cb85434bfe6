import Mathlib.Data.List.Infix
import ScriptFiles.Desktop.Disk

/-!
# Trees

In a tree what is above an entry is a directory, so that there is a directory or nothing at a place
unless a regular file is in the way. New entries in directories and new times keep a tree a tree.
-/

namespace ScriptFiles.Desktop.Disk

/-- Whether there is a regular file at a place. -/
def hasFile (d : Disk) (place : Place) : Bool :=
  (d.get? place).any fun entry => !entry.isDirectory

/-- A regular file is in the way of names from a place on: it has some of the names, or all. -/
def Obstructed (d : Disk) (place : Place) (names : List String) : Prop :=
  ∃ upper ∈ names.inits, d.hasFile (place ++ upper) = true

instance (d : Disk) (place : Place) (names : List String) : Decidable (d.Obstructed place names) :=
  inferInstanceAs (Decidable (∃ upper ∈ names.inits, d.hasFile (place ++ upper) = true))

variable {d : Disk} {place : Place} {names : List String} {last : String}

/-! ## What is at a place -/

/-- A directory is at a place exactly when the entry there is one. -/
theorem hasDirectory_iff :
    d.hasDirectory place = true ↔ ∃ entry, d.get? place = some entry ∧ entry.isDirectory = true := by
  rw [hasDirectory, Option.any_eq_true]

/-- A file is at a place exactly when the entry there is no directory. -/
theorem hasFile_iff :
    d.hasFile place = true ↔ ∃ entry, d.get? place = some entry ∧ entry.isDirectory = false := by
  simp only [hasFile, Option.any_eq_true, Bool.not_eq_true']

/-- A directory is no file. -/
theorem hasFile_of_hasDirectory (h : d.hasDirectory place = true) : d.hasFile place = false := by
  obtain ⟨entry, hentry, hdirectory⟩ := hasDirectory_iff.mp h
  simp [hasFile, hentry, hdirectory]

/-- Where neither a directory nor a file is, there is nothing. -/
theorem get?_eq_none_of_not (hdirectory : ¬ d.hasDirectory place = true)
    (hfile : ¬ d.hasFile place = true) : d.get? place = none := by
  by_contra hsome
  obtain ⟨entry, hentry⟩ := Option.ne_none_iff_exists'.mp hsome
  cases hkind : entry.isDirectory with
  | true => exact hdirectory (hasDirectory_iff.mpr ⟨entry, hentry, hkind⟩)
  | false => exact hfile (hasFile_iff.mpr ⟨entry, hentry, hkind⟩)

/-- What is above an entry of a tree is a directory. -/
theorem IsTree.hasDirectory_above (htree : d.IsTree) {more : List String} (hne : more ≠ [])
    (hsome : (d.get? (place ++ more)).isSome) : d.hasDirectory place = true := by
  induction more using List.reverseRecOn with
  | nil => exact absurd rfl hne
  | append_singleton front name ih =>
    rw [← List.append_assoc] at hsome
    have hfront := htree.inDirectory (place ++ front) name hsome
    by_cases hnil : front = []
    · simpa [hnil] using hfront
    · obtain ⟨entry, hentry, -⟩ := hasDirectory_iff.mp hfront
      exact ih hnil (by rw [hentry, Option.isSome_some])

/-- Nothing is in what is not a directory. -/
theorem IsTree.get?_eq_none (htree : d.IsTree) (h : ¬ d.hasDirectory place = true) :
    d.get? (place ++ [last]) = none := by
  by_contra hsome
  exact h (htree.inDirectory place last (Option.isSome_iff_ne_none.mpr hsome))

/-- What is above a directory of a tree is one too. -/
theorem IsTree.hasDirectory_of_append (htree : d.IsTree) {more : List String}
    (h : d.hasDirectory (place ++ more) = true) : d.hasDirectory place = true := by
  by_cases hnil : more = []
  · simpa [hnil] using h
  · obtain ⟨entry, hentry, -⟩ := hasDirectory_iff.mp h
    exact htree.hasDirectory_above hnil (by rw [hentry, Option.isSome_some])

/-- A way is obstructed at its beginning or further on. -/
theorem obstructed_cons {name : String} :
    d.Obstructed place (name :: names) ↔
      d.hasFile place = true ∨ d.Obstructed (place ++ [name]) names := by
  simp [Obstructed]

/-- A way is obstructed before its end or at its end. -/
theorem obstructed_concat :
    d.Obstructed place (names ++ [last]) ↔
      d.Obstructed place names ∨ d.hasFile (place ++ (names ++ [last])) = true := by
  simp only [Obstructed, List.mem_inits, List.prefix_concat_iff]
  constructor
  · rintro ⟨upper, rfl | hupper, hfile⟩
    · exact .inr hfile
    · exact .inl ⟨upper, hupper, hfile⟩
  · rintro (⟨upper, hupper, hfile⟩ | hfile)
    · exact ⟨upper, .inr hupper, hfile⟩
    · exact ⟨_, .inl rfl, hfile⟩

/-- A way to a free place is obstructed before its end. -/
theorem obstructed_concat_of_none (h : d.get? (place ++ names ++ [last]) = none) :
    d.Obstructed place (names ++ [last]) ↔ d.Obstructed place names := by
  rw [List.append_assoc] at h
  rw [obstructed_concat, hasFile, h]
  simp

/-- No file is in the way to a directory. -/
theorem IsTree.not_obstructed (htree : d.IsTree) (h : d.hasDirectory (place ++ names) = true) :
    ¬ d.Obstructed place names := by
  rintro ⟨upper, hupper, hfile⟩
  obtain ⟨more, rfl⟩ := (List.mem_inits _ _).mp hupper
  rw [← List.append_assoc] at h
  rw [hasFile_of_hasDirectory (htree.hasDirectory_of_append h)] at hfile
  contradiction

/-! ## New entries and new times -/

/-- Putting an entry at a place changes what is at that place only. -/
theorem get?_put (d : Disk) (place other : Place) (entry : Entry) :
    (d.put place entry).get? other = if other = place then some entry else d.get? other := by
  split
  · next heq => rw [heq, get?_put_self]
  · next hne => exact get?_put_of_ne d entry hne

/-- A new entry in a directory where there is none yet, or in place of a regular file. -/
theorem IsTree.put (htree : d.IsTree) (directory : Place) (name : String) (entry : Entry)
    (hdirectory : d.hasDirectory directory = true)
    (hfree : d.hasDirectory (directory ++ [name]) = false) :
    (d.put (directory ++ [name]) entry).IsTree := by
  have hkept : ∀ place, d.hasDirectory place = true →
      (d.put (directory ++ [name]) entry).hasDirectory place = true := by
    intro place hplace
    have hne : place ≠ directory ++ [name] := by
      rintro rfl
      rw [hfree] at hplace
      contradiction
    rwa [hasDirectory, get?_put_of_ne d entry hne]
  refine ⟨hkept [] htree.root, ?_, fun place last hsome => ?_⟩
  · rw [Disk.put, List.map_cons, List.nodup_cons]
    refine ⟨by simp, htree.distinct.sublist ?_⟩
    exact List.Sublist.map Prod.fst List.filter_sublist
  · by_cases hnew : place ++ [last] = directory ++ [name]
    · obtain rfl := (List.append_inj' hnew rfl).1
      exact hkept place hdirectory
    · rw [get?_put_of_ne d entry hnew] at hsome
      exact hkept place (htree.inDirectory place last hsome)

/-- Setting a time takes no directory away and makes none. -/
theorem hasDirectory_setTime (d : Disk) (place other : Place) (time : FileTime) :
    (d.setTime place time).hasDirectory other = d.hasDirectory other := by
  rw [hasDirectory, hasDirectory, get?_setTime]
  cases d.get? other with
  | none => rfl
  | some entry => by_cases hsame : other = place <;> simp [hsame, Entry.isDirectory]

/-- New times leave a tree as it is. -/
theorem IsTree.setTime (htree : d.IsTree) (place : Place) (time : FileTime) :
    (d.setTime place time).IsTree := by
  refine ⟨?_, ?_, fun other last hsome => ?_⟩
  · rw [hasDirectory_setTime]
    exact htree.root
  · have hkeys : (d.setTime place time).entries.map Prod.fst = d.entries.map Prod.fst := by
      rw [Disk.setTime, List.map_map]
      refine List.map_congr_left fun e _ => ?_
      by_cases hsame : e.1 = place <;> simp [hsame]
    rw [hkeys]
    exact htree.distinct
  · rw [get?_setTime, Option.isSome_map] at hsome
    rw [hasDirectory_setTime]
    exact htree.inDirectory other last hsome

/-- The empty disk is a tree. -/
theorem isTree_empty (clock : FileTime) : (empty clock).IsTree := by
  refine ⟨rfl, by simp [empty], fun place name hsome => ?_⟩
  have hother : (place ++ [name] == ([] : Place)) = false := by simp
  have hnone : (empty clock).get? (place ++ [name]) = none := by
    rw [empty, get?, List.lookup_cons, hother]
    rfl
  rw [hnone] at hsome
  contradiction

end ScriptFiles.Desktop.Disk
