import ScriptFiles.Bridge.Move
import ScriptFiles.Delivery
import ScriptFiles.Text.Basename

/-!
# How the bridge answers a move

`step` answers one move and `run` a list of them. A call of an operation is checked, its
callbacks are registered and the native service is asked. A completion takes the callbacks out
again and applies them: for reading by lines the listener once per line with the global of that
moment as `this`, then the last callback; otherwise only the last callback. An exception of a
callback ends in the log or, for a listener, with the last callback, never in the completion.
-/

namespace ScriptFiles.Bridge

open Log (FieldValue Level)

/-! ## Log entries -/

/-- The module name of events about operations. -/
def operationTarget : String := "core_script::filesystem"

/-- The module name of events about engines. -/
def engineTarget : String := "core_script::engine"

/-- A log event about an operation. -/
def sayOperation (level : Level) (message : String) (fields : List (String × FieldValue)) : Event :=
  .logged (Log.Event.say level operationTarget message fields)

/-- A log event about an engine. -/
def sayEngine (level : Level) (message : String) (fields : List (String × FieldValue)) : Event :=
  .logged (Log.Event.say level engineTarget message fields)

/-- A path as logs show it. -/
def pathField (path : String) : FieldValue :=
  .other (basename path)

/-- What the log shows of a request, paths by their basename only. -/
def requestFields : Request → List (String × FieldValue)
  | .read path | .remove path | .stat path => [("file", pathField path)]
  | .write path data =>
    [("file", pathField path), ("bytes", .other (natText data.length))]
  | .move source target => [("from", pathField source), ("to", pathField target)]

/-- The log entry of an accepted call. -/
def issuedEvent (operation : Operation) (handle : Handle) (request : Request) : Event :=
  sayOperation .debug operation.name (("handle", .other handle.text) :: requestFields request)

/-- The log entry of a completion without its engine. -/
def goneEvent (handle : Handle) : Event :=
  sayEngine .debug "Script engine gone, dropping completion" [("handle", .other handle.text)]

/-- The log entry of a completion without its registration. -/
def unstoredEvent (handle : Handle) : Event :=
  sayEngine .warn "Completion without stored values"
    [("handle", .other handle.text), ("error", .other (ScriptError.handleNotFound handle).text)]

/-- The log entry of a fatal error without a hook. -/
def fatalEvent (error : ScriptError) : Event :=
  sayEngine .error "Fatal error in script embedding" [("error", .other error.text)]

/-- The log entry of a last callback that threw. -/
def threwEvent (operation : Operation) (callback : FunctionRef) (exception : ScriptException) :
    Event :=
  sayOperation .warn "Script callback threw"
    [("op", .text operation.name), ("callback", .text callback.name),
      ("exception", .other exception.text)]

/-- The log entry of a listener that threw. -/
def stoppedEvent (handle : Handle) (exception : ScriptException) : Event :=
  sayOperation .debug "Line listener threw, stopping"
    [("handle", .other handle.text), ("exception", .other exception.text)]

/-- The log entry of a complete delivery of lines. -/
def allLinesEvent (handle : Handle) (count : Nat) : Event :=
  sayOperation .trace "All lines delivered"
    [("handle", .other handle.text), ("lines", .other (natText count))]

/-- The log entry of an installed namespace. -/
def installedEvent (name : String) : Event :=
  sayOperation .debug "Installed file system entry points" [("name", .text name)]

/-! ## Applying functions -/

/-- What comes of applying a function: an operation refuses its arguments, or the host's turn
comes. -/
inductive Applied
  | threw (exception : ScriptException)
  | awaiting (turn : Turn)

namespace State

/-- Stores values in the registry of an engine and makes the ticket that completes them. -/
def register (s : State) (e : EngineId) (values : List Value) (purpose : Purpose) :
    Ticket × State :=
  let stored := (s.registry e).store values
  let ticket : Ticket := ⟨s.ticketCount, e, stored.1, purpose⟩
  (ticket,
    { s with
      engines := s.engines.modify e fun engine => { engine with registry := stored.2 }
      tickets := s.tickets ++ [ticket]
      ticketCount := s.ticketCount + 1 })

/-- Registers the callbacks of an accepted call and asks the native service. -/
def issue (s : State) (e : EngineId) (operation : Operation) (arguments : List Value) : Turn :=
  let request := operation.request arguments
  let (ticket, s) := s.register e (operation.callbacks arguments) (.operation operation)
  ⟨s.enter e .asking,
    [issuedEvent operation ticket.handle request, .requested e ticket.id ticket.handle request],
    .serve ticket.id request⟩

/-- Applies a function. -/
def apply (s : State) (invocation : Invocation) : Applied :=
  match invocation.function.body with
  | .host => .awaiting ⟨s, [], .run invocation⟩
  | .entry label operation =>
    match operation.rejection label invocation.arguments with
    | some exception => .threw exception
    | none => .awaiting (s.issue invocation.engine operation invocation.arguments)

/-! ## Fatal errors -/

/-- Reports a fatal error to the hook of this moment, or to the log without one. -/
def reportFatal (s : State) (e : EngineId) (error : ScriptError) : Turn :=
  match s.hook e with
  | some hook => ⟨s.enter e .reporting, [.fatal e (some hook) error], .report e hook error⟩
  | none => ⟨s, [.fatal e none error, fatalEvent error], .finished⟩

/-! ## Completions -/

/-- Ends the last callback of an operation, which ends the completion. -/
def conclude (s : State) (operation : Operation) (callback : FunctionRef) (outcome : Outcome) :
    Turn :=
  match outcome with
  | .value _ => ⟨s, [], .finished⟩
  | .thrown exception => ⟨s, [threwEvent operation callback exception], .finished⟩

/-- Applies the last callback of an operation; its `this` is `undefined`. -/
def applyLast (s : State) (e : EngineId) (handle : Handle) (operation : Operation)
    (callback : FunctionRef) (arguments : List Value) : Turn :=
  let invocation : Invocation :=
    ⟨e, callback, .undefined, arguments, .last operation handle⟩
  match (s.enter e (.concluding operation handle callback)).apply invocation with
  | .threw exception =>
    (s.conclude operation callback (.thrown exception)).after [.applied invocation]
  | .awaiting turn => turn.after [.applied invocation]

/-- Ends a delivery of lines at an exception of the listener. -/
def stopLines (s : State) (e : EngineId) (handle : Handle) (lines : LineDelivery)
    (exception : ScriptException) : Turn :=
  (s.applyLast e handle .readFromFile lines.done [exception.value]).after
    [stoppedEvent handle exception]

/-- Applies the listener to the next line, or the last callback when no line is left. -/
def nextLine (s : State) (e : EngineId) (handle : Handle) (lines : LineDelivery) : Turn :=
  match lines.rest.next? with
  | none =>
    (s.applyLast e handle .readFromFile lines.done []).after
      [allLinesEvent handle lines.delivered]
  | some (line, rest) =>
    let invocation : Invocation :=
      ⟨e, lines.listener, lines.this, [lineValue line], .listener handle⟩
    let listening := { lines with rest := rest, delivered := lines.delivered + 1 }
    match (s.enter e (.listening handle listening)).apply invocation with
    | .threw exception => (s.stopLines e handle lines exception).after [.applied invocation]
    | .awaiting turn => turn.after [.applied invocation]

/-- Hands the result of a native operation to its callbacks. -/
def complete (s : State) (e : EngineId) (handle : Handle) (operation : Operation)
    (callbacks : Callbacks) (result : NativeResult) : Turn :=
  match callbacks.listener, result with
  | some listener, .ok answer =>
    if (s.global e).isObject then
      s.nextLine e handle ⟨s.global e, listener, callbacks.last, ⟨answer.bytes⟩, 0⟩
    else s.reportFatal e (.invalidContext "`this` pointer has to be an object")
  | _, _ =>
    let made := lastArguments operation result s.heap
    { s with heap := made.2 }.applyLast e handle operation callbacks.last made.1

/-- Removes the registration of a handle. -/
def takeStored (s : State) (e : EngineId) (handle : Handle) : Option (List Value × State) :=
  ((s.registry e).take handle).map fun taken =>
    (taken.1, s.modifyEngine e fun engine => { engine with registry := taken.2 })

/-- Gives a ticket up. -/
def spend (s : State) (ticket : Ticket) : State :=
  { s with tickets := s.tickets.filter (·.id != ticket.id) }

/-- Completes a native operation. -/
def fire (s : State) (ticket : Ticket) (operation : Operation) (result : NativeResult) : Turn :=
  let s := s.spend ticket
  if s.isAlive ticket.engine then
    match s.takeStored ticket.engine ticket.handle with
    | none => ⟨s, [unstoredEvent ticket.handle], .finished⟩
    | some (values, s) =>
      match operation.callbacks? ticket.handle values with
      | .error error => s.reportFatal ticket.engine error
      | .ok callbacks => s.complete ticket.engine ticket.handle operation callbacks result
  else ⟨s, [goneEvent ticket.handle], .finished⟩

/-- Resumes a registration of the host. -/
def resume (s : State) (ticket : Ticket) : Turn :=
  let s := s.spend ticket
  if s.isAlive ticket.engine then
    match s.takeStored ticket.engine ticket.handle with
    | none => ⟨s, [unstoredEvent ticket.handle], .finished⟩
    | some (values, s) =>
      ⟨s.enter ticket.engine (.delivering ticket.handle),
        [.delivered ticket.engine ticket.handle values],
        .deliver ticket.engine ticket.handle values⟩
  else ⟨s, [goneEvent ticket.handle], .finished⟩

/-- Ends the function that runs innermost. -/
def return_ (s : State) (outcome : Outcome) : Option Turn :=
  match s.frames with
  | ⟨_, .call⟩ :: outer => some ⟨{ s with frames := outer }, [], .returned outcome⟩
  | ⟨e, .listening handle lines⟩ :: outer =>
    let s := { s with frames := outer }
    match outcome with
    | .value _ => some (s.nextLine e handle lines)
    | .thrown exception => some (s.stopLines e handle lines exception)
  | ⟨_, .concluding operation _ callback⟩ :: outer =>
    some ({ s with frames := outer }.conclude operation callback outcome)
  | _ => none

/-! ## Engines and namespaces -/

/-- Binds the operations on an object, each as a new function. -/
def bindOperations (heap : Heap) (label : String) (object : ObjectRef) : Heap :=
  Operation.all.foldl (fun heap operation =>
    let made := heap.newFunction operation.name (.entry label operation)
    made.2.set object operation.name (.function made.1)) heap

/-- Publishes the operations on the global. -/
def install (s : State) (e : EngineId) (name : String) : Turn :=
  match s.global e with
  | .object global =>
    let made := s.heap.newObject []
    let heap := bindOperations made.2 name made.1
    ⟨{ s with heap := heap.set global name (.object made.1) }, [installedEvent name],
      .object made.1⟩
  | _ =>
    ⟨s, [], .failed (.invalidContext "global has to be an object to install the file system")⟩

/-- Makes an engine whose global is a new object. -/
def createEngine (s : State) : Turn :=
  let made := s.heap.newObject []
  ⟨{ s with
      heap := made.2
      engines := s.engines ++ [⟨true, .object made.1, {}, none⟩] }, [],
    .engine s.engines.length⟩

/-- Calls a function for the host. -/
def call (s : State) (invocation : Invocation) : Turn :=
  match (s.enter invocation.engine .call).apply invocation with
  | .threw exception => ⟨s, [.applied invocation], .returned (.thrown exception)⟩
  | .awaiting turn => turn.after [.applied invocation]

/-- Registers values of the host. -/
def store (s : State) (e : EngineId) (values : List Value) : Turn :=
  let (ticket, s) := s.register e values .embedder
  ⟨s, [], .stored ticket.id ticket.handle⟩

end State

/-- A move that cannot be made. -/
def refuse (s : State) : Turn :=
  ⟨s, [], .refused⟩

/-- A turn if a condition holds. -/
def guarded (s : State) (condition : Bool) (turn : Turn) : Turn :=
  if condition then turn else refuse s

/-- Answers a move. -/
def step (s : State) : Move → Turn
  | .createEngine => s.createEngine
  | .dropEngine e =>
    guarded s (s.isHeld e)
      ⟨s.modifyEngine e fun engine => { engine with held := false }, [], .done⟩
  | .createObject =>
    let made := s.heap.newObject []
    ⟨{ s with heap := made.2 }, [], .object made.1⟩
  | .createFunction name =>
    let made := s.heap.newFunction name .host
    ⟨{ s with heap := made.2 }, [], .function made.1⟩
  | .setProperty object key value =>
    ⟨{ s with heap := s.heap.set object key value }, [], .done⟩
  | .removeProperty object key =>
    ⟨{ s with heap := s.heap.remove object key }, [], .done⟩
  | .setGlobal e value =>
    guarded s (s.isAlive e)
      ⟨s.modifyEngine e fun engine => { engine with global := value }, [], .done⟩
  | .setHook e hook =>
    guarded s (s.isAlive e)
      ⟨s.modifyEngine e fun engine => { engine with hook := some hook }, [], .done⟩
  | .install e name => guarded s (s.isAlive e) (s.install e name)
  | .bind label object =>
    ⟨{ s with heap := State.bindOperations s.heap label object }, [], .done⟩
  | .call e function this arguments =>
    guarded s (s.isAlive e) (s.call ⟨e, function, this, arguments, .host⟩)
  | .store e values => guarded s (s.isAlive e) (s.store e values)
  | .fire id result =>
    match s.ticket? id with
    | some ticket =>
      match ticket.purpose with
      | .operation operation =>
        guarded s (operation.accepts result) (s.fire ticket operation result)
      | .embedder => refuse s
    | none => refuse s
  | .resume id =>
    match s.ticket? id with
    | some ticket => guarded s (ticket.purpose = .embedder) (s.resume ticket)
    | none => refuse s
  | .abandon id =>
    match s.ticket? id with
    | some ticket => ⟨s.spend ticket, [], .done⟩
    | none => refuse s
  | .return_ outcome => (s.return_ outcome).getD (refuse s)
  | .acknowledge =>
    match s.frames with
    | ⟨_, .asking⟩ :: outer =>
      let s' := { s with frames := outer }
      (s'.return_ (.value .undefined)).getD (refuse s)
    | _ => refuse s
  | .delivered error =>
    match s.frames with
    | ⟨e, .delivering _⟩ :: outer =>
      let s := { s with frames := outer }
      match error with
      | none => ⟨s, [], .finished⟩
      | some error => s.reportFatal e error
    | _ => refuse s
  | .reported =>
    match s.frames with
    | ⟨_, .reporting⟩ :: outer => ⟨{ s with frames := outer }, [], .finished⟩
    | _ => refuse s

/-- The turns of a list of moves. -/
def run (s : State) : List Move → List Turn
  | [] => []
  | move :: rest =>
    let turn := step s move
    turn :: run turn.state rest

/-- The state after a list of moves. -/
def after (s : State) (moves : List Move) : State :=
  moves.foldl (fun s move => (step s move).state) s

/-- The events of a list of moves. -/
def trace (s : State) (moves : List Move) : List Event :=
  (run s moves).flatMap Turn.events

end ScriptFiles.Bridge
