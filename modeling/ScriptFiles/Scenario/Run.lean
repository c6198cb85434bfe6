import ScriptFiles.Scenario.Host
import ScriptFiles.Value.DebugText

/-!
# Running a program

A host takes a step by making moves and does what the bridge prompts it to until the activity it
started is over. A step may be endless, when a function calls itself without end, so a step has a
number of turns after which it is cut short.
-/

namespace ScriptFiles.Scenario.Host

open Bridge (EngineId Move Prompt)

/-- Cuts a step short. -/
def exhaust : HostM Unit :=
  modify fun h => { h with exhausted := true }

/-- The answer of a step that needs the host's engine. -/
def withEngine (take : EngineId → HostM Answer) : HostM Answer := do
  match (← get).engine with
  | none => return .refused .noEngine
  | some e => take e

/-- The answer of a step that needs an object. -/
def withObject (target : Expr) (act : ObjectRef → HostM Answer) : HostM Answer := do
  match ← eval target with
  | .object object => act object
  | _ => return .refused .notAnObject

/-- What a call is made on. -/
def calleeOf : Callee → HostM Value
  | .value e => eval e
  | .entry namespaceName function => globalAt [namespaceName, function]

/-- Takes a step that starts no activity; none if it does start one. -/
def takePlainStep : Step → Option (HostM Answer)
  | .bind name e => some do
    let value ← eval e
    modify fun h => { h with bindings := (name, value) :: h.bindings }
    return .value (← see value)
  | .same left right => some do
    let a ← eval left
    let b ← eval right
    return .truth (a.same b)
  | .debugValue e => some do
    let value ← eval e
    return .text ((← get).bridge.heap.debugText value)
  | .object target action => some (withObject target (actOn · action))
  | .answerInline replies => some do
    modify fun h => { h with inline := h.inline ++ replies }
    return .nothing
  | .dropParked index => some do
    match ← takeParked index with
    | none => return .refused .noParked
    | some parked =>
      let _ ← move (.abandon parked.ticket)
      return .text "dropped"
  | .dropPending index => some do
    match ← takePending index with
    | none => return .truth false
    | some ticket =>
      let _ ← move (.abandon ticket)
      return .truth true
  | .debugPending index => some do
    let h ← get
    match ((h.pendings[index]?).join).bind h.bridge.ticket? with
    | none => return .nothing
    | some ticket => return .pending ticket.debugText ticket.handle.text
  | .dropEngine => some <| withEngine fun e => do
    let _ ← move (.dropEngine e)
    modify fun h => { h with engine := none }
    return .alive ((← get).bridge.isAlive e)
  | .setGlobal e => some <| withEngine fun engine => do
    let value ← eval e
    let _ ← move (.setGlobal engine value)
    return .nothing
  | .global => some <| withEngine fun e => do
    return .value (← see ((← get).bridge.global e))
  | .install name => some <| withEngine fun e => do
    match ← move (.install e name) with
    | .object object => return .installed (← keys object)
    | .failed error => return .failed error
    | _ => return .nothing
  | .bindOperations label target => some <| withEngine fun _ =>
    withObject target fun object => do
      let _ ← move (.bind label object)
      return .installed (← keys object)
  | .store values => some <| withEngine fun e => do
    let values ← values.mapM eval
    match ← move (.store e values) with
    | .stored ticket handle =>
      let index := (← get).pendings.length
      modify fun h => { h with pendings := h.pendings ++ [some ticket] }
      return .stored handle index
    | _ => return .nothing
  | .onFatal name steps => some <| withEngine fun e => do
    let hook := (← get).hooks.length
    modify fun h => { h with hooks := h.hooks ++ [⟨name, steps⟩] }
    let _ ← move (.setHook e hook)
    return .nothing
  | .debugEngine => some <| withEngine fun e => do
    return .text ((← get).bridge.engineDebugText e)
  | .native request => some do
    match (← get).desk with
    | none => return .nothing
    | some desk =>
      match ← serveNow desk request with
      | none => return .nothing
      | some result => return .native result
  | .listing => some do
    match (← get).desk with
    | none => return .listing []
    | some desk => return .listing (desk.disk.listing desk.scratch.names)
  | .touch path nanoseconds => some do
    modify fun h => { h with desk := h.desk.map (·.touch path nanoseconds) }
    return .nothing
  | .complete .. | .resume .. | .call .. => none

mutual

/-- Does what the bridge prompts until the activity is over. -/
def settle : Nat → Prompt → HostM Prompt
  | 0, prompt => do
    exhaust
    return prompt
  | turns + 1, prompt =>
    match prompt with
    | .run invocation => do
      let (acts, count) ← countCall invocation.function
      noteCall invocation count
      let outcome ← runActs turns invocation count acts
      settle turns (← move (.return_ outcome))
    | .serve ticket request => do
      serve turns ticket request
      settle turns (← move .acknowledge)
    | .report _ hook error => do
      report turns hook error
      settle turns (← move .reported)
    | prompt => return prompt

/-- Runs what a function does. -/
def runActs : Nat → Bridge.Invocation → Nat → List Act → HostM Outcome
  | 0, _, _, _ => do
    exhaust
    return .value .undefined
  | _ + 1, _, _, [] => return .value .undefined
  | turns + 1, invocation, count, ⟨on, doing⟩ :: rest =>
    if on.getD count ≠ count then runActs turns invocation count rest
    else
      match doing with
      | .throw exception => return .thrown exception
      | .give e => return .value (← eval e)
      | .giveArgument index => return .value (Value.argument invocation.arguments index)
      | .giveThis => return .value invocation.this
      | .giveArgumentCount => return .value (.ofNat invocation.arguments.length)
      | .giveIsEmpty => return .value (.bool invocation.arguments.isEmpty)
      | .perform step => do
        nest turns step
        runActs turns invocation count rest

/-- Serves a native request: now, at the end of the step, or when the program says so. -/
def serve : Nat → Nat → Request → HostM Unit
  | 0, _, _ => exhaust
  | turns + 1, ticket, request => do
    if (← get).desk.isSome then enqueue ticket request
    else
      note (.native request)
      match (← get).inline with
      | [] => park ticket request
      | reply :: rest =>
        modify fun h => { h with inline := rest }
        fire turns ticket (reply.result request)

/-- Completes a native request. -/
def fire : Nat → Nat → NativeResult → HostM Unit
  | 0, _, _ => exhaust
  | turns + 1, ticket, result => do
    let _ ← settle turns (← move (.fire ticket result))

/-- Runs a fatal hook. -/
def report : Nat → Bridge.HookId → ScriptError → HostM Unit
  | 0, _, _ => exhaust
  | turns + 1, id, error => do
    if let some hook := (← get).hooks[id]? then
      note (.fatal hook.name error)
      nestAll turns hook.steps

/-- Takes a step during another one. -/
def nest : Nat → Step → HostM Unit
  | 0, _ => exhaust
  | turns + 1, step => do
    let answer ← takeStep turns step
    note (.nested answer)

/-- Takes steps during another one. -/
def nestAll : Nat → List Step → HostM Unit
  | 0, _ => exhaust
  | _ + 1, [] => return ()
  | turns + 1, step :: rest => do
    nest turns step
    nestAll turns rest

/-- Takes a step. -/
def takeStep : Nat → Step → HostM Answer
  | 0, _ => do
    exhaust
    return .refused .outOfTurns
  | turns + 1, step =>
    match step with
    | .complete index reply => do
      match ← takeParked index with
      | none => return .refused .noParked
      | some parked =>
        fire turns parked.ticket (reply.result parked.request)
        return .text "fired"
    | .resume index error steps => do
      match ← takePending index with
      | none => return .refused .noPending
      | some ticket =>
        match ← move (.resume ticket) with
        | .deliver e _ values =>
          note (.deliver (← values.mapM see) ((← get).bridge.pending e))
          nestAll turns steps
          let _ ← settle turns (← move (.delivered error))
        | _ => pure ()
        return .text "resumed"
    | .call callee this arguments =>
      withEngine fun e => do
        let callee ← calleeOf callee
        let arguments ← arguments.mapM eval
        let this ← (this.map eval).getD (pure .undefined)
        match callee with
        | .function f =>
          match ← settle turns (← move (.call e f this arguments)) with
          | .returned (.value value) => return .returned (← see value)
          | .returned (.thrown exception) => return .threw exception
          | _ => return .refused .outOfTurns
        | _ => return .refused .notAFunction
    | step => (takePlainStep step).getD (return .nothing)

end

/-- Serves the requests that wait for the end of a step, and those made meanwhile. -/
def drain : Nat → HostM Unit
  | 0 => exhaust
  | turns + 1 => do
    match ← dequeue with
    | none => return ()
    | some (desk, ticket, request) =>
      if let some result ← serveNow desk request then fire turns ticket result
      drain turns

end ScriptFiles.Scenario.Host
