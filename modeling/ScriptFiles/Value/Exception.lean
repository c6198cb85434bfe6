import ScriptFiles.Number.Text

/-!
# Exceptions

What script code throws or has thrown at it: a kind, a message and perhaps the place in a script
file.
-/

namespace ScriptFiles

/-- The kind of an exception. -/
inductive ExceptionKind
  | error
  | typeError
deriving DecidableEq, Repr

/-- The name of a kind. -/
def ExceptionKind.text : ExceptionKind → String
  | error => "Error"
  | typeError => "TypeError"

/-- A place in a script file. -/
structure SourceLocation where
  file : String
  line : UInt32
deriving DecidableEq, Repr

/-- A thrown exception. -/
structure ScriptException where
  kind : ExceptionKind
  message : String
  location : Option SourceLocation := none
deriving DecidableEq, Repr

/-- The text of an exception: kind, message and, if known, the place. -/
def ScriptException.text (e : ScriptException) : String :=
  e.kind.text ++ ": " ++ e.message ++
    match e.location with
    | some place => " at " ++ place.file ++ ":" ++ natText place.line.toNat
    | none => ""

end ScriptFiles
