import ScriptFiles.Text.Alphanumeric
import ScriptFiles.Text.Blank
import ScriptFiles.Text.Pieces

/-!
# The text of a filter

A filter is written as directives between commas. A directive names a target, a span in square
brackets, perhaps with fields in braces, or both, and a level after an equals sign; a level or a
target may stand alone. `checkFilter` says why a text cannot be read. Patterns of field values are
not looked into.
-/

namespace ScriptFiles.Log

/-- Why a filter cannot be read. -/
inductive FilterError
  | directive
  | level
deriving DecidableEq, Repr

/-- The text of a filter error. -/
def FilterError.message : FilterError → String
  | directive => "invalid filter directive"
  | level => "error parsing level filter: expected one of " ++
      "\"off\", \"error\", \"warn\", \"info\", \"debug\", \"trace\", or a number 0-5"

/-- The words for levels in a filter. -/
def levelWords : List String :=
  ["off", "error", "warn", "info", "debug", "trace"]

/-- Whether a text is a number of at most five, perhaps after a plus sign. -/
def isLevelNumber (text : List Char) : Bool :=
  let digits :=
    match text with
    | '+' :: rest => rest
    | text => text
  !digits.isEmpty && digits.all Char.isDigit &&
    digits.foldl (fun n c => n * 10 + (c.toNat - 48)) 0 ≤ 5

/-- Whether a text is a level: a word in either case or a number. -/
def isLevelText (text : List Char) : Bool :=
  levelWords.contains (String.ofList (text.map Char.toLower)) || isLevelNumber text

/-- The part of a directive that is being read. -/
inductive DirectivePart
  | start
  /-- A target, or a level that stands alone. -/
  | target
  | span
  /-- A field of a span, and whether nothing of it was read. -/
  | field ( isEmpty : Bool)
  /-- After the fields of a span. -/
  | fields
  /-- After a span. -/
  | closed
  /-- A level and what was read of it. -/
  | level (text : List Char)
deriving DecidableEq, Repr

/-- Whether a target can start with a character. -/
def isTargetStart (c : Char) : Bool :=
  c == '-' || c == ':' || c == '_' || Text.isAlphanumeric c

/-- Reads one character of a directive. -/
def DirectivePart.read : DirectivePart → Char → Option DirectivePart
  | start, c => if c = '[' then some span else if isTargetStart c then some target else none
  | target, c => some (if c = '=' then level [] else if c = '[' then span else target)
  | span, c => some (if c = ']' then closed else if c = '\x7b' then field true else span)
  | field nothing, c =>
    if c = '\x7d' then (if nothing then none else some fields) else some (field false)
  | fields, c => if c = ']' then some closed else none
  | closed, c => if c = '=' then some (level []) else none
  | level text, c => some (level (text ++ [c]))

/-- A directive without the blanks around it. -/
def withoutBlanks (directive : List Char) : List Char :=
  ((directive.dropWhile Text.isBlank).reverse.dropWhile Text.isBlank).reverse

/-- Why a directive cannot be read. Blanks around it are passed over, but spoil a level after an
equals sign; without blanks that level may be empty. -/
def checkDirective (directive : List Char) : Option FilterError :=
  let trimmed := withoutBlanks directive
  match trimmed.foldlM DirectivePart.read .start with
  | some .target | some .closed => none
  | some (.level text) =>
    if trimmed = directive ∧ (text.isEmpty ∨ isLevelText text) then none else some .level
  | _ => some .directive

/-- Why a filter cannot be read: for the first of its directives that cannot be. Empty directives
are passed over. -/
def checkFilter (text : String) : Option FilterError :=
  ((Text.pieces (· == ',') text.toList).filter (!·.isEmpty)).findSome? checkDirective

end ScriptFiles.Log
