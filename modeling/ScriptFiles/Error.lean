import ScriptFiles.Registry
import ScriptFiles.Text.Quoted

/-!
# Errors of the bridge itself

`SetupError` says why a bridge cannot be set up, `ScriptError` what can go wrong inside it.
Neither ever reaches script code.
-/

namespace ScriptFiles

/-- Why a bridge cannot be set up. -/
inductive SetupError
  | config (message : String)
  | capabilityMissing (capability message : String)
  | internal (message : String)
deriving DecidableEq, Repr

namespace SetupError

/-- The text of a setup error. -/
def text : SetupError → String
  | config message => "Invalid bridge configuration: " ++ message
  | capabilityMissing capability message =>
    "Host capability '" ++ capability ++ "' missing: " ++ message
  | internal message => "Bridge internal error: " ++ message

/-- The debug text of a setup error. -/
def debugText : SetupError → String
  | config message => "Config(" ++ Quoted.text message ++ ")"
  | capabilityMissing capability message =>
    "CapabilityMissing \x7b capability: " ++ Quoted.text capability ++ ", message: " ++
      Quoted.text message ++ " \x7d"
  | internal message => "Internal(" ++ Quoted.text message ++ ")"

end SetupError

/-- What can go wrong inside the bridge. -/
inductive ScriptError
  | invalidContext (message : String)
  | handleNotFound (handle : Handle)
  | storedValueMismatch (handle : Handle) (expected found : Nat)
  | notCallable (handle : Handle) (index : Nat)
  | setup (error : SetupError)
deriving DecidableEq, Repr

namespace ScriptError

/-- The text of an error. -/
def text : ScriptError → String
  | invalidContext message => "Invalid execution context: " ++ message
  | handleNotFound h => "Unknown or already consumed operation handle " ++ h.text
  | storedValueMismatch h expected found =>
    "Operation " ++ h.text ++ " stored " ++ natText found ++ " values, expected " ++
      natText expected
  | notCallable h index =>
    "Operation " ++ h.text ++ " stored a non-function value at position " ++ natText index
  | setup e => e.text

/-- The debug text of an error. -/
def debugText : ScriptError → String
  | invalidContext message => "InvalidContext(" ++ Quoted.text message ++ ")"
  | handleNotFound h => "HandleNotFound(" ++ h.debugText ++ ")"
  | storedValueMismatch h expected found =>
    "StoredValueMismatch \x7b handle: " ++ h.debugText ++ ", expected: " ++ natText expected ++
      ", found: " ++ natText found ++ " \x7d"
  | notCallable h index =>
    "NotCallable \x7b handle: " ++ h.debugText ++ ", index: " ++ natText index ++ " \x7d"
  | setup e => "Runtime(" ++ e.debugText ++ ")"

end ScriptError
end ScriptFiles
