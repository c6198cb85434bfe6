/-!
# The last part of a path text

`basename` keeps what follows the last separator, a slash or a backslash. Logs show paths this
way, so that no directory name leaves the program.
-/

namespace ScriptFiles

/-- A slash or a backslash. -/
def isSeparator (c : Char) : Bool :=
  c == '/' || c == '\\'

/-- The characters after the last separator: read from the end up to the first one. -/
def basenameChars (path : List Char) : List Char :=
  (path.reverse.takeWhile (!isSeparator ·)).reverse

/-- The part of a path text after its last separator, or the whole text without one. -/
def basename (path : String) : String :=
  String.ofList (basenameChars path.toList)

/-- The characters of a basename. -/
@[simp]
theorem toList_basename (path : String) :
    (basename path).toList = basenameChars path.toList :=
  String.toList_ofList

/-- A basename holds no separator. -/
theorem not_isSeparator_of_mem_basenameChars {c : Char} {path : List Char}
    (h : c ∈ basenameChars path) : isSeparator c = false := by
  have hkept := List.all_eq_true.mp List.all_takeWhile c (List.mem_reverse.mp h)
  simpa using hkept

end ScriptFiles
