/-!
# Log levels

Five levels from the most talkative to the most severe.
-/

namespace ScriptFiles.Log

/-- How severe an event is. -/
inductive Level
  | trace | debug | info | warn | error
deriving DecidableEq, Repr, Inhabited

namespace Level

/-- All levels by increasing severity. -/
def all : List Level :=
  [trace, debug, info, warn, error]

/-- The severity as a number. -/
def severity : Level → Nat
  | trace => 0
  | debug => 1
  | info => 2
  | warn => 3
  | error => 4

/-- The lower-case name. -/
def text : Level → String
  | trace => "trace"
  | debug => "debug"
  | info => "info"
  | warn => "warn"
  | error => "error"

/-- The name in serialized entries and debug text. -/
def serialName : Level → String
  | trace => "Trace"
  | debug => "Debug"
  | info => "Info"
  | warn => "Warn"
  | error => "Error"

/-- The level with a serialized name. -/
def ofSerialName? (name : String) : Option Level :=
  all.find? (·.serialName == name)

instance : LE Level := ⟨fun a b => a.severity ≤ b.severity⟩

instance : LT Level := ⟨fun a b => a.severity < b.severity⟩

instance (a b : Level) : Decidable (a ≤ b) := inferInstanceAs (Decidable (a.severity ≤ b.severity))

instance (a b : Level) : Decidable (a < b) := inferInstanceAs (Decidable (a.severity < b.severity))

end Level
end ScriptFiles.Log
