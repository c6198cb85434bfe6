import ScriptFiles.Text.Pieces

/-!
# Paths of the operating system

An absolute path is the list of the names between its slashes. Empty names stand for doubled and
trailing slashes and are kept, so that a path and its text say the same. A script's path is taken
from a base directory unless it starts with a slash.

Only absolute base directories are covered. Calls read a relative one from the working directory of
the process, so it names the directory of that name below the working directory; what differs is the
text of the paths that are made with it, and that such a path may have an empty parent.
-/

namespace ScriptFiles.Desktop

/-- An absolute path. -/
structure Path where
  names : List String
deriving DecidableEq, Repr, Inhabited

/-- The names of a text between slashes. -/
def namesOf (text : List Char) : List String :=
  (Text.pieces (· == '/') text).map String.ofList

namespace Path

/-- The path of an absolute text. -/
def ofText? (text : String) : Option Path :=
  match text.toList with
  | '/' :: rest => some ⟨namesOf rest⟩
  | _ => none

/-- The text of a path. -/
def text (p : Path) : String :=
  "/" ++ "/".intercalate p.names

/-- The names that further names can follow: those before a trailing slash. -/
def openNames (p : Path) : List String :=
  if p.names.getLast? = some "" then p.names.dropLast else p.names

/-- The path that a text means when read from a base directory: an absolute text is taken as it
is. -/
def resolve (base : Path) (text : String) : Path :=
  (ofText? text).getD ⟨base.openNames ++ namesOf text.toList⟩

/-- A name that leads nowhere: an empty one or a single dot. -/
def isIdle (name : String) : Bool :=
  name == "" || name == "."

/-- The path without its last name that leads somewhere. Idle names at the end are dropped, before
and after. -/
def parent? (p : Path) : Option Path :=
  match p.names.reverse.dropWhile isIdle with
  | [] => none
  | _ :: above => some ⟨(above.dropWhile isIdle).reverse⟩

/-- A parent has fewer names. -/
theorem length_names_parent? {p q : Path} (h : p.parent? = some q) :
    q.names.length < p.names.length := by
  unfold parent? at h
  split at h
  · contradiction
  · next name above drop =>
    obtain rfl := Option.some.inj h
    have whole : (p.names.reverse.dropWhile isIdle).length ≤ p.names.reverse.length :=
      (List.dropWhile_sublist isIdle).length_le
    have inner : (above.dropWhile isIdle).length ≤ above.length :=
      (List.dropWhile_sublist isIdle).length_le
    rw [drop, List.length_cons, List.length_reverse] at whole
    simp only [List.length_reverse]
    omega

/-- A path and the paths above it, up to the root. -/
def lineage (p : Path) : List Path :=
  p :: match _h : p.parent? with
    | none => []
    | some q => q.lineage
termination_by p.names.length
decreasing_by exact length_names_parent? _h

/-- Whether a NUL occurs in a path, which no call of the operating system takes. -/
def hasNul (p : Path) : Bool :=
  p.names.any fun name => name.toList.contains '\x00'

end Path
end ScriptFiles.Desktop
