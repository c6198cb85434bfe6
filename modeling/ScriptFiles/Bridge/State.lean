import ScriptFiles.Bridge.Entry
import ScriptFiles.Error
import ScriptFiles.Lines
import ScriptFiles.Value.Heap

/-!
# The state of the bridge

Engines, the native requests that have not completed, and the activities going on inside each
other. An engine lives while the host holds it or an activity inside it goes on; completions do
not keep it alive. Nothing of a dead engine can be seen any more.
-/

namespace ScriptFiles.Bridge

/-- The number of an engine, in the order of creation. -/
abbrev EngineId := Nat

/-- The number of a fatal hook, chosen by the host. -/
abbrev HookId := Nat

/-- A script engine. -/
structure Engine where
  held : Bool
  global : Value
  registry : Registry
  hook : Option HookId
deriving DecidableEq, Repr

/-- What a registration waits for: a native operation, or the host's own doing. -/
inductive Purpose
  | operation (operation : Operation)
  | embedder
deriving DecidableEq, Repr

/-- The right to complete one registration once. -/
structure Ticket where
  id : Nat
  engine : EngineId
  handle : Handle
  purpose : Purpose
deriving DecidableEq, Repr

/-- The delivery of lines: who hears them, what is left and how many were heard. -/
structure LineDelivery where
  this : Value
  listener : FunctionRef
  done : FunctionRef
  rest : Cursor
  delivered : Nat
deriving DecidableEq, Repr

/-- An activity inside an engine that waits for the host. -/
inductive Activity
  /-- A function called by the host runs. -/
  | call
  /-- The native service was asked and has not returned from that. -/
  | asking
  /-- A line listener runs. -/
  | listening (handle : Handle) (lines : LineDelivery)
  /-- The last callback of an operation runs. -/
  | concluding (operation : Operation) (handle : Handle) (callback : FunctionRef)
  /-- The host's code for a resumed registration runs. -/
  | delivering (handle : Handle)
  /-- A fatal hook runs. -/
  | reporting
deriving DecidableEq, Repr

/-- An activity and its engine. -/
structure Frame where
  engine : EngineId
  activity : Activity
deriving DecidableEq, Repr

/-- The state of the bridge; the innermost activity comes first. -/
structure State where
  heap : Heap := {}
  engines : List Engine := []
  tickets : List Ticket := []
  ticketCount : Nat := 0
  frames : List Frame := []
deriving DecidableEq, Repr, Inhabited

namespace State

/-- The engine of a number. -/
def engine? (s : State) (e : EngineId) : Option Engine :=
  s.engines[e]?

/-- Whether the host holds an engine. -/
def isHeld (s : State) (e : EngineId) : Bool :=
  (s.engine? e).any Engine.held

/-- Whether an activity goes on inside an engine. -/
def isBusy (s : State) (e : EngineId) : Bool :=
  s.frames.any (·.engine == e)

/-- Whether an engine lives. -/
def isAlive (s : State) (e : EngineId) : Bool :=
  s.isHeld e || s.isBusy e

/-- Changes an engine. -/
def modifyEngine (s : State) (e : EngineId) (change : Engine → Engine) : State :=
  { s with engines := s.engines.modify e change }

/-- The ambient global of an engine. -/
def global (s : State) (e : EngineId) : Value :=
  ((s.engine? e).map Engine.global).getD .undefined

/-- The registry of an engine. -/
def registry (s : State) (e : EngineId) : Registry :=
  ((s.engine? e).map Engine.registry).getD {}

/-- The fatal hook of an engine. -/
def hook (s : State) (e : EngineId) : Option HookId :=
  (s.engine? e).bind Engine.hook

/-- The number of operations of an engine that have not completed. -/
def pending (s : State) (e : EngineId) : Nat :=
  (s.registry e).size

/-- The ticket of a number. -/
def ticket? (s : State) (id : Nat) : Option Ticket :=
  s.tickets.find? (·.id == id)

/-- Starts an activity. -/
def enter (s : State) (e : EngineId) (activity : Activity) : State :=
  { s with frames := ⟨e, activity⟩ :: s.frames }

/-- The debug text of an engine. -/
def engineDebugText (s : State) (e : EngineId) : String :=
  "ScriptEngine \x7b pending_operations: " ++ natText (s.pending e) ++
    ", file_system: \"FileSystem \x7b ... \x7d\", .. \x7d"

end State

/-- The debug text of a registration that the host can resume. -/
def Ticket.debugText (t : Ticket) : String :=
  "PendingCallbacks \x7b handle: " ++ t.handle.debugText ++ ", engine: (Weak) \x7d"

end ScriptFiles.Bridge
