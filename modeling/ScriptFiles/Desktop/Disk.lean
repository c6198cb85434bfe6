import ScriptFiles.Desktop.FileTime
import ScriptFiles.Entries
import ScriptFiles.Text.Utf8

/-!
# A disk

A tree of directories and regular files without links, as a finite map from places to entries. A
place is the list of names from the root on. Changing a directory's entries gives it the time of
the clock, and so does writing to a file.
-/

namespace ScriptFiles.Desktop

/-- The names that lead from the root to an entry. -/
abbrev Place := List String

/-- What an entry holds. -/
inductive Content
  | file (bytes : Bytes)
  | directory
deriving DecidableEq, Repr

/-- An entry and its modification time. -/
structure Entry where
  content : Content
  modified : Option FileTime
deriving DecidableEq, Repr

/-- Whether an entry is a directory. -/
def Entry.isDirectory (entry : Entry) : Bool :=
  entry.content = .directory

/-- The entries of a disk by place, and the time of its clock. -/
structure Disk where
  entries : List (Place × Entry)
  clock : FileTime
deriving DecidableEq, Repr

namespace Disk

/-- A disk that holds nothing but its root. -/
def empty (clock : FileTime) : Disk :=
  ⟨[([], ⟨.directory, some clock⟩)], clock⟩

/-- The entry at a place. -/
def get? (d : Disk) (place : Place) : Option Entry :=
  d.entries.lookup place

/-- Whether there is a directory at a place. -/
def hasDirectory (d : Disk) (place : Place) : Bool :=
  (d.get? place).any Entry.isDirectory

/-- Whether a directory has entries. -/
def hasChildren (d : Disk) (place : Place) : Bool :=
  d.entries.any fun e => place.isPrefixOf e.1 && e.1 != place

/-- Puts an entry at a place, over an older one. -/
def put (d : Disk) (place : Place) (entry : Entry) : Disk :=
  { d with entries := (place, entry) :: d.entries.filter (·.1 != place) }

/-- Takes the entry of a place away. -/
def erase (d : Disk) (place : Place) : Disk :=
  { d with entries := d.entries.filter (·.1 != place) }

/-- Gives the entry of a place a modification time. -/
def setTime (d : Disk) (place : Place) (time : FileTime) : Disk :=
  { d with entries := d.entries.map fun e =>
      if e.1 = place then (e.1, { e.2 with modified := some time }) else e }

/-- Gives the entry of a place the time of the clock. -/
def stamp (d : Disk) (place : Place) : Disk :=
  d.setTime place d.clock

/-- What is put at a place is there. -/
@[simp] theorem get?_put_self (d : Disk) (place : Place) (entry : Entry) :
    (d.put place entry).get? place = some entry := by
  simp [get?, put]

/-- Putting an entry somewhere leaves every other place alone. -/
theorem get?_put_of_ne (d : Disk) {place other : Place} (entry : Entry) (h : other ≠ place) :
    (d.put place entry).get? other = d.get? other := by
  have different : (other == place) = false := by simpa using h
  simp [get?, put, List.lookup_cons, different, Entries.lookup_filter_ne _ h]

/-- Only the time of one entry changes. -/
theorem get?_setTime (d : Disk) (place other : Place) (time : FileTime) :
    (d.setTime place time).get? other =
      (d.get? other).map fun e => if other = place then { e with modified := some time } else e := by
  unfold get? setTime
  simp only
  induction d.entries with
  | nil => rfl
  | cons e rest ih =>
    obtain ⟨key, entry⟩ := e
    by_cases here : other = key
    · subst here
      by_cases same : other = place <;> simp [same]
    · have different : (other == key) = false := by simpa using here
      by_cases same : key = place
      · rw [List.map_cons, if_pos same, List.lookup_cons, List.lookup_cons, different, ih]
      · rw [List.map_cons, if_neg same, List.lookup_cons, List.lookup_cons, different, ih]

/-- The place of an entry when another place takes the role of one above it. -/
def relocate (source target place : Place) : Place :=
  if source.isPrefixOf place then target ++ place.drop source.length else place

/-- Moves an entry and all below it to another place, where nothing is left. -/
def transfer (d : Disk) (source target : Place) : Disk :=
  let cleared := d.erase target
  { cleared with entries := cleared.entries.map fun e => (relocate source target e.1, e.2) }

/-- The entries below a place by the text of the names from there on, in the order of that
text. -/
def listing (d : Disk) (place : Place) : List (String × Content) :=
  let below := d.entries.filterMap fun e =>
    if place.isPrefixOf e.1 && e.1 != place then
      some ("/".intercalate (e.1.drop place.length), e.2.content)
    else none
  below.mergeSort fun a b => decide (a.1 ≤ b.1)

/-- A tree: the root is a directory, no place occurs twice and every entry is in a directory. -/
structure IsTree (d : Disk) : Prop where
  root : d.hasDirectory [] = true
  distinct : (d.entries.map Prod.fst).Nodup
  inDirectory : ∀ place name, (d.get? (place ++ [name])).isSome → d.hasDirectory place = true

end Disk
end ScriptFiles.Desktop
