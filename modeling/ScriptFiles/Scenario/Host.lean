import ScriptFiles.Bridge.Step
import ScriptFiles.Desktop.Posix
import ScriptFiles.Desktop.Service
import ScriptFiles.Scenario.Program
import ScriptFiles.Scenario.Report

/-!
# The state of a host

A host runs a program on one bridge. It remembers named values, what its functions and fatal
hooks do, the native requests that wait and the registrations it may resume. A host with a desk
has its requests served from a disk, after the step that made them.
-/

namespace ScriptFiles.Scenario

open Bridge (EngineId Move Prompt)

/-- What a function of the host does, and how often it was called. -/
structure Body where
  function : Nat
  acts : List Act
  calls : Nat

/-- A native request that waits to be completed. -/
structure Parked where
  index : Nat
  ticket : Nat
  request : Request

/-- A fatal hook of the host. -/
structure Hook where
  name : String
  steps : List Step

/-- A disk with the desktop service on it: the directory the service starts from, the place that
listings start from and the requests that wait to be served. -/
structure Desk where
  disk : Desktop.Disk
  base : Desktop.Path
  scratch : Desktop.Path
  queue : List (Nat × Request) := []

/-- Sets the modification time of a path below the place of listings. -/
def Desk.touch (desk : Desk) (path : String) (nanoseconds : Int) : Desk :=
  match desk.disk.existing (desk.scratch.resolve path) with
  | .ok (place, _) =>
    { desk with disk := desk.disk.setTime place (Desktop.FileTime.ofNanoseconds nanoseconds) }
  | .error _ => desk

/-- The state of a host. -/
structure Host where
  bridge : Bridge.State := {}
  engine : Option EngineId := none
  bindings : List (String × Value) := []
  bodies : List Body := []
  hooks : List Hook := []
  inline : List Reply := []
  parked : List Parked := []
  parkedCount : Nat := 0
  /-- The tickets of the registrations that the host may resume, by index. -/
  pendings : List (Option Nat) := []
  desk : Option Desk := none
  notes : List Note := []
  logs : List Log.Event := []
  /-- Whether a step was cut short because it took too many turns. -/
  exhausted : Bool := false
  /-- Whether a task of the desktop service ended before it answered its request. -/
  taskEnded : Bool := false

/-- Something done by a host. -/
abbrev HostM := StateM Host

namespace Host

/-- Notes something that happened. -/
def note (n : Note) : HostM Unit :=
  modify fun h => { h with notes := h.notes ++ [n] }

/-- Records log events. -/
def record (events : List Log.Event) : HostM Unit :=
  modify fun h => { h with logs := h.logs ++ events }

/-- The log event in an event of the bridge. -/
def logOf? : Bridge.Event → Option Log.Event
  | .logged event => some event
  | _ => none

/-- Makes a move and records what the bridge logs. -/
def move (m : Move) : HostM Prompt := do
  let turn := Bridge.step (← get).bridge m
  modify fun h => { h with bridge := turn.state }
  record (turn.events.filterMap logOf?)
  return turn.prompt

/-- The tree below a value at this moment. -/
def see (value : Value) : HostM Snapshot := do
  return (← get).bridge.heap.snapshot value

/-- The names of the properties of an object. -/
def keys (object : ObjectRef) : HostM (List String) := do
  return ((← get).bridge.heap.properties object).keys

/-- A new object. -/
def newObject : HostM ObjectRef := do
  match ← move .createObject with
  | .object object => return object
  | _ => return default

/-- A new function that does something when called. -/
def newFunction (name : String) (acts : List Act) : HostM FunctionRef := do
  match ← move (.createFunction name) with
  | .function f =>
    modify fun h => { h with bodies := ⟨f.id, acts, 0⟩ :: h.bodies }
    return f
  | _ => return default

/-- The value of a property of the global of the host's engine. -/
def globalAt (path : List String) : HostM Value := do
  let h ← get
  match h.engine with
  | none => return .undefined
  | some e => return h.bridge.heap.follow (h.bridge.global e) path

mutual

/-- Evaluates an expression. -/
def eval : Expr → HostM Value
  | .undefined => return .undefined
  | .null => return .null
  | .bool b => return .bool b
  | .number n => return .number n
  | .integer i => return .ofInt64 i
  | .string s => return .string s
  | .buffer bytes => return .buffer bytes
  | .object properties => do
    let object ← newObject
    setAll object properties
    return .object object
  | .function name acts => return .function (← newFunction name acts)
  | .variable name => return ((← get).bindings.lookup name).getD .undefined
  | .global path => globalAt path

/-- Evaluates expressions and sets them as properties, one after another. -/
def setAll (object : ObjectRef) : List (String × Expr) → HostM Unit
  | [] => return ()
  | (key, e) :: rest => do
    let value ← eval e
    let _ ← move (.setProperty object key value)
    setAll object rest

end

/-- Acts on an object or asks about it. -/
def actOn (object : ObjectRef) (action : ObjectAction) : HostM Answer := do
  match action with
  | .set key e =>
    let value ← eval e
    let _ ← move (.setProperty object key value)
    return .nothing
  | .get key => return .value (← see ((← get).bridge.heap.get object key))
  | .has key => return .truth (((← get).bridge.heap.properties object).contains key)
  | .remove key =>
    match ((← get).bridge.heap.properties object).get? key with
    | none => return .nothing
    | some value =>
      let _ ← move (.removeProperty object key)
      return .value (← see value)
  | .keys => return .names (← keys object)
  | .size => return .size (← keys object).length

/-- Counts a call of a function and gives what it does and the number of the call. -/
def countCall (function : FunctionRef) : HostM (List Act × Nat) := do
  match (← get).bodies.find? (·.function == function.id) with
  | none => return ([], 1)
  | some body =>
    modify fun h => { h with bodies := h.bodies.map fun b =>
      if b.function == function.id then { b with calls := b.calls + 1 } else b }
    return (body.acts, body.calls + 1)

/-- Notes a call of a function. -/
def noteCall (invocation : Bridge.Invocation) (count : Nat) : HostM Unit := do
  let global := (← get).bridge.global invocation.engine
  let this ←
    if invocation.this.isObject && invocation.this.same global then pure none
    else some <$> see invocation.this
  note (.call invocation.function.name count this (← invocation.arguments.mapM see))

/-- Takes a parked request out: the one of an index, or the oldest. -/
def takeParked (index : Option Nat) : HostM (Option Parked) := do
  let h ← get
  let found :=
    match index with
    | none => h.parked.head?
    | some i => h.parked.find? (·.index == i)
  if let some p := found then
    modify fun h => { h with parked := h.parked.filter (·.index != p.index) }
  return found

/-- Takes a registration that can be resumed out. -/
def takePending (index : Nat) : HostM (Option Nat) := do
  let found := ((← get).pendings[index]?).join
  modify fun h => { h with pendings := h.pendings.set index none }
  return found

/-- Has a request served by the desktop service, with the dates of the calendar. -/
def serveNow (desk : Desk) (request : Request) : HostM (Option NativeResult) := do
  let (service, disk) := Desktop.Disk.system.serve .calendar desk.base request desk.disk
  modify fun h => { h with
    desk := h.desk.map fun d => { d with disk := disk }
    taskEnded := h.taskEnded || service.result.isNone }
  record service.events
  return service.result

/-- Keeps a request until it is completed. -/
def park (ticket : Nat) (request : Request) : HostM Unit :=
  modify fun h => { h with
    parked := h.parked ++ [⟨h.parkedCount, ticket, request⟩]
    parkedCount := h.parkedCount + 1 }

/-- Lets a request wait for the end of the step. -/
def enqueue (ticket : Nat) (request : Request) : HostM Unit :=
  modify fun h => { h with desk := h.desk.map fun d =>
    { d with queue := d.queue ++ [(ticket, request)] } }

/-- The next request that waits for the end of the step. -/
def dequeue : HostM (Option (Desk × Nat × Request)) := do
  match (← get).desk with
  | none => return none
  | some desk =>
    match desk.queue with
    | [] => return none
    | (ticket, request) :: rest =>
      modify fun h => { h with desk := some { desk with queue := rest } }
      return some (desk, ticket, request)

end Host
end ScriptFiles.Scenario
