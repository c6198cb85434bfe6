import ScriptFiles.Log.Level
import ScriptFiles.Native.Error

/-!
# Log events and spans

What the library records while it works: a level, the module it comes from, a name and fields.
The message is the field of that name. A field's value is a text, a failure, or anything else by
its debug text. Events happen in spans, which go on inside each other.
-/

namespace ScriptFiles.Log

/-- The value of a field. -/
inductive FieldValue
  | text (value : String)
  | failure (error : NativeError)
  | other (debugText : String)
deriving DecidableEq, Repr

/-- The text of a field: texts and failures by their text, all else by its debug text. -/
def FieldValue.shown : FieldValue → String
  | text value => value
  | failure error => error.text
  | other debugText => debugText

/-- A recorded event. -/
structure Event where
  level : Level
  target : String
  name : String
  fields : List (String × FieldValue)
deriving DecidableEq, Repr

/-- What is known of an event before its fields are recorded. -/
structure Metadata where
  level : Level
  target : String
  name : String
deriving DecidableEq, Repr

/-- The metadata of an event. -/
def Event.metadata (event : Event) : Metadata :=
  ⟨event.level, event.target, event.name⟩

/-- A span, with the fields it was started with. -/
structure Span where
  level : Level
  target : String
  name : String
  fields : List (String × FieldValue) := []
deriving DecidableEq, Repr

/-- The name of the field that holds the message. -/
def messageField : String := "message"

/-- An event with a message. -/
def Event.say (level : Level) (target message : String) (fields : List (String × FieldValue)) :
    Event :=
  { level, target, name := "event", fields := (messageField, .other message) :: fields }

end ScriptFiles.Log
