import ScriptFiles.Proofs.Bridge.LineProtocol
import ScriptFiles.Proofs.Bridge.Validation
import ScriptFiles.Proofs.Delivery

/-!
# Success and failure on the way to script code

The last callback of an accepted call is the only place where script code learns whether the native
service failed. Whatever the operation, the result and the host do, that callback is called with
arguments that tell the result (`Tells`), so a failure never looks like success.
-/

namespace ScriptFiles.Bridge

variable {s : State} {e : EngineId} {h : Handle}

/-- A result that is no content to deliver by lines goes to the last callback at once. -/
theorem complete_of_told {operation : Operation} {callbacks : Callbacks} {result : NativeResult}
    (htold : callbacks.listener.isSome → result.error?.isSome) :
    s.complete e h operation callbacks result =
      State.applyLast { s with heap := (lastArguments operation result s.heap).2 } e h operation
        callbacks.last (lastArguments operation result s.heap).1 := by
  unfold State.complete
  split
  · next listener answer hlistener =>
    rw [hlistener] at htold
    have := htold rfl
    contradiction
  · rfl

/-- Such a result is told in the only call that its completion makes. -/
theorem complete_told_effects {operation : Operation} {callbacks : Callbacks}
    {result : NativeResult} (htold : callbacks.listener.isSome → result.error?.isSome)
    (haccepts : operation.accepts result = true) (later : List Move)
    (hformed : Formed (s.complete e h operation callbacks result).state) :
    let turn := s.complete e h operation callbacks result
    ∃ arguments, Tells turn.state.heap operation result arguments ∧
      effects turn.events ++ turnEffects (ownTurns s.frames.length turn.state later) =
        [.applied (lastInvocation e h operation callbacks.last arguments)] := by
  rw [complete_of_told htold] at hformed ⊢
  have hshort := length_lastArguments operation result s.heap
  obtain ⟨heffects, hframes⟩ := applyLast_effects
    { s with heap := (lastArguments operation result s.heap).2 } e h operation callbacks.last
    (lastArguments operation result s.heap).1 hshort
  refine ⟨(lastArguments operation result s.heap).1, ?_, ?_⟩
  · rw [State.heap_applyLast]
    exact tells_lastArguments s.heap haccepts
  · rw [heffects]
    have hrest := turnEffects_of_rest hformed later hframes rfl
    exact congrArg _ hrest

/-! ## The last calls of a run -/

/-- The calls of a last callback are among the calls of callbacks. -/
theorem lastCalls_calls (events : List Event) :
    lastCalls e h (calls e h events) = lastCalls e h events := by
  rw [lastCalls, calls, List.filter_filter]
  refine List.filter_congr fun event _ => ?_
  rcases event with _ | ⟨e', function, this, arguments, role⟩ | _ | _ | _
  case applied => cases role <;> simp [Event.isLastOf, Event.isCallOf]
  all_goals rfl

/-- The call of a last callback is one. -/
theorem lastCalls_lastInvocation (operation : Operation) (last : FunctionRef)
    (arguments : List Value) :
    lastCalls e h [.applied (lastInvocation e h operation last arguments)] =
      [.applied (lastInvocation e h operation last arguments)] := by
  simp [lastCalls, lastInvocation, Event.isLastOf]

/-- When the listener throws at no line, the last callback is called once all lines were heard. -/
theorem lastCalls_lineEffects {this : Value} {listener done : FunctionRef} {lines : List Bytes}
    {outcomes : List Outcome}
    (hlistens : ∀ line ∈ lines, refusal listener [lineValue line] = none)
    (hvalues : ∀ outcome ∈ outcomes.take lines.length, ∃ value, outcome = .value value) :
    lastCalls e h (lineEffects e h this listener done lines outcomes) =
      if lines.length ≤ outcomes.length then [doneCall e h done []] else [] := by
  have hlines : lastCalls e h ((lines.take (outcomes.length + 1)).map fun line =>
      .applied ⟨e, listener, this, [lineValue line], .listener h⟩) = [] := by
    rw [lastCalls, List.filter_eq_nil_iff]
    intro event hevent
    obtain ⟨line, -, rfl⟩ := List.mem_map.mp hevent
    simp [Event.isLastOf]
  rw [lineEffects_of_values e h hlistens hvalues, lastCalls_append, hlines, List.nil_append]
  split
  · exact lastCalls_lastInvocation .readFromFile done []
  · rfl

variable {before later : List Move} {t : Ticket} {operation : Operation} {callbacks : Callbacks}
  {result : NativeResult}

/-- In a whole run, the completion of an operation tells its result in one call of the last
callback, unless it has content to deliver by lines. -/
theorem Redeems.told (hredeems : Redeems (after {} before) (.fire t.id result) t)
    (hpurpose : t.purpose = .operation operation)
    (halive : (after {} before).isAlive t.engine = true)
    (hlength : callbacks.functions.length = operation.callbackCount)
    (hstored : ((after {} before).registry t.engine).get? t.handle =
      some (callbacks.functions.map Value.function))
    (hfew : (after {} (before ++ .fire t.id result :: later)).ticketCount < UInt64.size)
    (htold : operation = .readFromFile → result.error?.isSome) :
    ∃ arguments,
      Tells (step (after {} before) (.fire t.id result)).state.heap operation result arguments ∧
      lastCalls t.engine t.handle (trace {} (before ++ .fire t.id result :: later)) =
        [.applied (lastInvocation t.engine t.handle operation callbacks.last arguments)] := by
  obtain ⟨-, operation', hpurpose', haccepts⟩ := hredeems.of_fire
  obtain rfl : operation = operation' := by simpa [hpurpose] using hpurpose'
  have hturn := hredeems.step_complete hpurpose halive hstored hlength
  have hafter := (formed_empty.after before).step (.fire t.id result)
  have hcalls := calls_of_completion callbacks hredeems hpurpose hlength hstored hfew
  rw [hturn] at hafter hcalls ⊢
  obtain ⟨arguments, htells, heffects⟩ := complete_told_effects
    (fun hsome => htold ((Callbacks.isSome_listener_iff hlength).mp hsome)) haccepts later hafter
  refine ⟨arguments, htells, ?_⟩
  rw [← lastCalls_calls, hcalls, lastCalls_calls]
  exact (congrArg _ heffects).trans (lastCalls_lastInvocation operation callbacks.last arguments)

/-- In a whole run, content that is delivered by lines to a listener that throws at none of them is
told in one call of the last callback without arguments, after all lines were heard. -/
theorem Redeems.read_told {answer : Answer} {listener done : FunctionRef}
    (hredeems : Redeems (after {} before) (.fire t.id (.ok answer)) t)
    (hpurpose : t.purpose = .operation .readFromFile)
    (halive : (after {} before).isAlive t.engine = true)
    (hobject : ((after {} before).global t.engine).isObject = true)
    (hstored : ((after {} before).registry t.engine).get? t.handle =
      some [.function listener, .function done])
    (hfew : (after {} (before ++ .fire t.id (.ok answer) :: later)).ticketCount < UInt64.size)
    (hlistens : ∀ line ∈ linesOf answer.bytes, refusal listener [lineValue line] = none) :
    let outcomes := turnOutcomes (ownTurns (after {} before).frames.length
      (step (after {} before) (.fire t.id (.ok answer))).state later)
    (∀ outcome ∈ outcomes.take (linesOf answer.bytes).length, ∃ value, outcome = .value value) →
    lastCalls t.engine t.handle (trace {} (before ++ .fire t.id (.ok answer) :: later)) =
      if (linesOf answer.bytes).length ≤ outcomes.length then
        [.applied (lastInvocation t.engine t.handle .readFromFile done [])]
      else [] := by
  intro outcomes hvalues
  have heffects := hredeems.read_effects (formed_empty.after before) hpurpose halive hstored later
  have hcalls := calls_of_completion ⟨some listener, done⟩ hredeems hpurpose rfl hstored hfew
  rw [← lastCalls_calls, hcalls, lastCalls_calls, heffects]
  simp only [readEffects, hobject, if_true]
  exact lastCalls_lineEffects hlistens hvalues

/-- A completion of the request of an accepted call redeems the ticket of the call and finds its
callbacks. -/
theorem redeems_of_call {before waiting : List Move} {e : EngineId} {function : FunctionRef}
    {this : Value} {arguments : List Value} {label : String} {operation : Operation}
    {result : NativeResult} (halive : (after {} before).isAlive e = true)
    (hbody : function.body = .entry label operation)
    (haccepted : operation.rejection label arguments = none)
    (hfew : (after {} (before ++ .call e function this arguments :: waiting)).ticketCount <
      UInt64.size) :
    let t := (after {} before).nextTicket e (.operation operation)
    let s := after {} (before ++ .call e function this arguments :: waiting)
    (step s (.fire t.id result)).prompt ≠ .refused →
    Redeems s (.fire t.id result) t ∧
      ∃ callbacks : Callbacks, callbacks.functions.length = operation.callbackCount ∧
        (s.registry t.engine).get? t.handle = some (callbacks.functions.map Value.function) ∧
        operation.callbacks arguments = callbacks.functions.map Value.function ∧
        arguments.getLast? = some (.function callbacks.last) := by
  intro t s hprompt
  have hturn : step (after {} before) (.call e function this arguments) =
      issuing (after {} before) ⟨e, function, this, arguments, .host⟩ operation :=
    step_call_of_accepted halive hbody haccepted
  have hformed := formed_empty.after before
  have hregistered := registered_after before (formed_empty.few_append hfew)
  have hroom := few_step hfew
  rw [hturn] at hroom
  obtain ⟨callbacks, hissued⟩ : ∃ callbacks, Issued (issuing (after {} before)
      ⟨e, function, this, arguments, .host⟩ operation) _ operation t callbacks :=
    hregistered.issued_issuing hformed hroom halive haccepted
  have hreserved : Reserved s t (callbacks.functions.map Value.function) :=
    Issued.reserved_run (hturn ▸ hissued) hfew
  have hredeems := hreserved.redeems hprompt
  exact ⟨hredeems, callbacks, hissued.length, hreserved.stored hredeems.mem, hissued.values,
    hissued.last⟩

/-- Success and failure are never confused. Take a call with accepted arguments and the completion
of its request with a result while the engine lives. In the whole run the last argument of the call
is applied once, to arguments that tell the result with all its details, and that script code reads
as a failure exactly when the result is one. Only content that is read by lines is told in pieces:
when the global is an object and the listener throws at no line, the last argument is applied to
nothing, which reads as success, as soon as all lines were heard, and never otherwise. -/
theorem outcomes_never_confused (before waiting later : List Move) {e : EngineId}
    {function : FunctionRef} (this : Value) (arguments : List Value) {label : String}
    {operation : Operation} (result : NativeResult)
    (halive : (after {} before).isAlive e = true)
    (hbody : function.body = .entry label operation)
    (haccepted : operation.rejection label arguments = none) :
    let call : Move := .call e function this arguments
    let fire : Move := .fire (after {} before).ticketCount result
    let h : Handle := ⟨((after {} before).registry e).lastId + 1⟩
    let moves := before ++ call :: waiting
    let s := after {} moves
    let fired := step s fire
    let outcomes := turnOutcomes (ownTurns s.frames.length fired.state later)
    let calls := lastCalls e h (trace {} (moves ++ fire :: later))
    fired.prompt ≠ .refused → s.isAlive e = true →
    (after {} (moves ++ fire :: later)).ticketCount < UInt64.size →
    ∃ last, arguments.getLast? = some (.function last) ∧
      ((operation = .readFromFile → result.error?.isSome) →
        ∃ told, calls = [.applied (lastInvocation e h operation last told)] ∧
          Tells fired.state.heap operation result told ∧
          readsAsFailure fired.state.heap operation told = result.error?.isSome) ∧
      ∀ answer listener path, arguments = [path, .function listener, .function last] →
        operation = .readFromFile → result = .ok answer → (s.global e).isObject = true →
        (∀ line ∈ linesOf answer.bytes, refusal listener [lineValue line] = none) →
        (∀ outcome ∈ outcomes.take (linesOf answer.bytes).length,
          ∃ value, outcome = .value value) →
        calls =
          if (linesOf answer.bytes).length ≤ outcomes.length then
            [.applied (lastInvocation e h .readFromFile last [])]
          else [] := by
  intro call fire h moves s fired outcomes calls hprompt halive' hfew
  have hfewFired : s.ticketCount < UInt64.size := formed_empty.few_append hfew
  obtain ⟨hredeems, callbacks, hlength, hstored, hvalues, hlast⟩ :=
    redeems_of_call halive hbody haccepted hfewFired hprompt
  refine ⟨callbacks.last, hlast, fun htold => ?_, ?_⟩
  · obtain ⟨told, htells, hcalls⟩ :=
      hredeems.told rfl halive' hlength hstored hfew htold
    exact ⟨told, hcalls, htells, htells.readsAsFailure⟩
  · rintro answer listener path rfl rfl rfl hobject hlistens houtcomes
    rw [← hvalues] at hstored
    exact hredeems.read_told rfl halive' hobject hstored hfew hlistens houtcomes

/-- The status of a path fails with an empty message. The callback is told so in an object that has
an error, and that reads as a failure. -/
theorem outcomes_never_confused_empty_message :
    let stat : FunctionRef := ⟨0, "stat", .entry "fs" .stat⟩
    let callback : FunctionRef := ⟨1, "callback", .host⟩
    let arguments : List Value := [.string "notes.txt", .function callback]
    let moves : List Move := [.createEngine, .call 0 stat .undefined arguments, .acknowledge]
    let fire : Move := .fire 0 (.failed (.failed ""))
    let heap := (step (after {} moves) fire).state.heap
    Operation.rejection .stat "fs" arguments = none ∧ (after {} moves).isAlive 0 = true ∧
      ∃ object,
        lastCalls 0 ⟨1⟩ (trace {} (moves ++ [fire, .return_ (.value .undefined)])) =
          [.applied (lastInvocation 0 ⟨1⟩ .stat callback [.object object])] ∧
        heap.properties object =
          [("error", .string "Unknown error"), ("exists", .bool false),
            ("lastModified", .number ⟨0⟩)] ∧
        readsAsFailure heap .stat [.object object] = true := by
  intro stat callback arguments moves fire heap
  have haccepted : Operation.rejection .stat "fs" arguments = none := by decide
  have halive : (after {} moves).isAlive 0 = true := by decide
  have hbody : stat.body = .entry "fs" .stat := rfl
  obtain ⟨last, hlast, htold, -⟩ := outcomes_never_confused [.createEngine] [.acknowledge]
    [.return_ (.value .undefined)] .undefined arguments (.failed (.failed "")) (by decide) hbody
    haccepted (by decide) halive (by decide)
  obtain rfl : callback = last := by simpa [arguments] using hlast
  obtain ⟨told, hcalls, htells, hreads⟩ := htold nofun
  cases htells with
  | noStatus htext hobject =>
    rw [htext.unknown rfl] at hobject
    exact ⟨haccepted, halive, _, hcalls, hobject, hreads⟩
  | failure _ hstat _ => exact absurd rfl hstat

end ScriptFiles.Bridge
