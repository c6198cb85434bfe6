import ScriptFiles.Proofs.Bridge.Changes

/-!
# Handing results to callbacks

`Delivery` lists the turns that hand something to the callbacks of an operation, and every
function of the bridge that goes on with a completion gives one of them.

A callback never receives more than one argument and every operation wants at least two. So an
operation that is used as a callback refuses at once, and no completion asks the native service.
-/

namespace ScriptFiles.Bridge

/-! ## Functions that refuse -/

/-- What a function refuses at once: an operation the arguments it rejects, a function of the
host nothing. -/
def refusal (function : FunctionRef) (arguments : List Value) : Option ScriptException :=
  match function.body with
  | .host => none
  | .entry label operation => operation.rejection label arguments

/-- Every operation rejects fewer than two arguments. -/
theorem rejection_of_short (operation : Operation) (label : String) {arguments : List Value}
    (hshort : arguments.length ≤ 1) :
    operation.rejection label arguments = some (operation.countException label) := by
  have hcount : arguments.length ≠ operation.argumentCount := by
    cases operation <;> simp only [Operation.argumentCount] <;> omega
  rw [Operation.rejection, if_pos hcount]

/-- A function that gets fewer than two arguments refuses them or belongs to the host. -/
theorem refusal_or_host (function : FunctionRef) (arguments : List Value)
    (hshort : arguments.length ≤ 1) :
    (∃ exception, refusal function arguments = some exception) ∨ function.body = .host := by
  cases hbody : function.body with
  | host => exact Or.inr rfl
  | entry label operation =>
    refine Or.inl ⟨operation.countException label, ?_⟩
    simp only [refusal, hbody]
    exact rejection_of_short operation label hshort

/-- A function of the host refuses nothing. -/
theorem refusal_of_host {function : FunctionRef} (hhost : function.body = .host)
    (arguments : List Value) : refusal function arguments = none := by
  simp only [refusal, hhost]

/-- A refusing function throws without anything else happening. -/
theorem apply_of_refusal {s : State} {invocation : Invocation} {exception : ScriptException}
    (hrefusal : refusal invocation.function invocation.arguments = some exception) :
    s.apply invocation = .threw exception := by
  cases hbody : invocation.function.body with
  | host =>
    rw [refusal_of_host hbody] at hrefusal
    contradiction
  | entry label operation =>
    simp only [refusal, hbody] at hrefusal
    simp only [State.apply, hbody, hrefusal]

/-- A function of the host is left to the host. -/
theorem apply_of_host {s : State} {invocation : Invocation}
    (hhost : invocation.function.body = .host) :
    s.apply invocation = .awaiting ⟨s, [], .run invocation⟩ := by
  simp only [State.apply, hhost]

/-- The operation that an invocation starts, when its function is one and accepts the arguments. -/
def Invocation.accepted? (invocation : Invocation) : Option Operation :=
  match invocation.function.body with
  | .host => none
  | .entry label operation =>
    if operation.rejection label invocation.arguments = none then some operation else none

/-- A refusing function starts no operation. -/
theorem accepted?_of_refusal {invocation : Invocation} {exception : ScriptException}
    (hrefusal : refusal invocation.function invocation.arguments = some exception) :
    invocation.accepted? = none := by
  unfold refusal at hrefusal
  unfold Invocation.accepted?
  split at hrefusal
  · contradiction
  · simp only [hrefusal, reduceCtorEq, if_false]

/-- A function of the host starts no operation. -/
theorem accepted?_of_host {invocation : Invocation} (hhost : invocation.function.body = .host) :
    invocation.accepted? = none := by
  simp only [Invocation.accepted?, hhost]

/-! ## Deliveries -/

/-- The last callback of an operation applied to its arguments. -/
def lastInvocation (e : EngineId) (h : Handle) (operation : Operation) (last : FunctionRef)
    (arguments : List Value) : Invocation :=
  ⟨e, last, .undefined, arguments, .last operation h⟩

/-- A listener applied to a line. -/
def lineInvocation (e : EngineId) (h : Handle) (lines : LineDelivery) (line : Bytes) : Invocation :=
  ⟨e, lines.listener, lines.this, [lineValue line], .listener h⟩

/-- The turns that hand something to the callbacks of an operation: the last callback refuses or
is awaited, or a listener is awaited. Log entries and lines that the listener refuses come
before that. -/
inductive Delivery (s : State) (e : EngineId) (h : Handle) (operation : Operation)
    (last : FunctionRef) : Turn → Prop
  | concluded {arguments : List Value} {exception : ScriptException}
      (hrefusal : refusal last arguments = some exception) :
      Delivery s e h operation last
        ⟨s, [.applied (lastInvocation e h operation last arguments),
          threwEvent operation last exception], .finished⟩
  | concluding {arguments : List Value} (hhost : last.body = .host) :
      Delivery s e h operation last
        ⟨s.enter e (.concluding operation h last),
          [.applied (lastInvocation e h operation last arguments)],
          .run (lastInvocation e h operation last arguments)⟩
  | listening {lines : LineDelivery} {line : Bytes} (hdone : lines.done = last)
      (hoperation : operation = .readFromFile) (hhost : lines.listener.body = .host) :
      Delivery s e h operation last
        ⟨s.enter e (.listening h lines), [.applied (lineInvocation e h lines line)],
          .run (lineInvocation e h lines line)⟩
  | allLines {turn : Turn} {count : Nat} (hturn : Delivery s e h operation last turn) :
      Delivery s e h operation last (turn.after [allLinesEvent h count])
  | stopped {turn : Turn} {exception : ScriptException}
      (hturn : Delivery s e h operation last turn) :
      Delivery s e h operation last (turn.after [stoppedEvent h exception])
  | refused {turn : Turn} {lines : LineDelivery} {line : Bytes} {exception : ScriptException}
      (hrefusal : refusal lines.listener [lineValue line] = some exception)
      (hturn : Delivery s e h operation last turn) :
      Delivery s e h operation last (turn.after [.applied (lineInvocation e h lines line)])

variable (s : State) (e : EngineId) (h : Handle)

/-- A last callback that refuses its arguments ends the completion with a warning. -/
theorem applyLast_of_refusal {operation : Operation} {last : FunctionRef} {arguments : List Value}
    {exception : ScriptException} (hrefusal : refusal last arguments = some exception) :
    s.applyLast e h operation last arguments =
      ⟨s, [.applied (lastInvocation e h operation last arguments),
        threwEvent operation last exception], .finished⟩ := by
  rw [State.applyLast, apply_of_refusal hrefusal]
  rfl

/-- A last callback of the host is left to the host. -/
theorem applyLast_of_host {operation : Operation} {last : FunctionRef} (arguments : List Value)
    (hhost : last.body = .host) :
    s.applyLast e h operation last arguments =
      ⟨s.enter e (.concluding operation h last),
        [.applied (lastInvocation e h operation last arguments)],
        .run (lastInvocation e h operation last arguments)⟩ := by
  rw [State.applyLast, apply_of_host hhost]
  rfl

/-- When no line is left, the last callback is applied. -/
theorem nextLine_of_none {lines : LineDelivery} (hnone : lines.rest.next? = none) :
    s.nextLine e h lines = (s.applyLast e h .readFromFile lines.done []).after
      [allLinesEvent h lines.delivered] := by
  simp only [State.nextLine, hnone]

section Listener

variable {lines : LineDelivery} {line : Bytes} {rest : Cursor}
  (hsome : lines.rest.next? = some (line, rest))

include hsome

/-- A listener that refuses a line ends the lines. -/
theorem nextLine_of_refusal {exception : ScriptException}
    (hrefusal : refusal lines.listener [lineValue line] = some exception) :
    s.nextLine e h lines =
      (s.stopLines e h lines exception).after [.applied (lineInvocation e h lines line)] := by
  simp only [State.nextLine, hsome]
  rw [apply_of_refusal hrefusal]
  rfl

/-- A listener of the host is left to the host. -/
theorem nextLine_of_host (hhost : lines.listener.body = .host) :
    s.nextLine e h lines =
      ⟨s.enter e (.listening h { lines with rest := rest, delivered := lines.delivered + 1 }),
        [.applied (lineInvocation e h lines line)], .run (lineInvocation e h lines line)⟩ := by
  simp only [State.nextLine, hsome]
  rw [apply_of_host hhost]
  rfl

end Listener

/-- Applying the last callback to at most one argument is a delivery. -/
theorem delivery_applyLast (operation : Operation) (last : FunctionRef) {arguments : List Value}
    (hshort : arguments.length ≤ 1) :
    Delivery s e h operation last (s.applyLast e h operation last arguments) := by
  rcases refusal_or_host last arguments hshort with ⟨exception, hrefusal⟩ | hhost
  · rw [applyLast_of_refusal s e h hrefusal]
    exact .concluded hrefusal
  · rw [applyLast_of_host s e h arguments hhost]
    exact .concluding hhost

/-- Ending the lines at an exception is a delivery. -/
theorem delivery_stopLines (lines : LineDelivery) (exception : ScriptException) :
    Delivery s e h .readFromFile lines.done (s.stopLines e h lines exception) :=
  .stopped (delivery_applyLast s e h .readFromFile lines.done (Nat.le_refl 1))

/-- Going on to the next line is a delivery. -/
theorem delivery_nextLine (lines : LineDelivery) :
    Delivery s e h .readFromFile lines.done (s.nextLine e h lines) := by
  cases hnext : lines.rest.next? with
  | none =>
    rw [nextLine_of_none s e h hnext]
    exact .allLines (delivery_applyLast s e h .readFromFile lines.done (Nat.zero_le 1))
  | some next =>
    obtain ⟨line, rest⟩ := next
    rcases refusal_or_host lines.listener [lineValue line] (Nat.le_refl 1) with
      ⟨exception, hrefusal⟩ | hhost
    · rw [nextLine_of_refusal s e h hnext hrefusal]
      exact .refused hrefusal (delivery_stopLines s e h lines exception)
    · rw [nextLine_of_host s e h hnext hhost]
      exact .listening rfl rfl hhost

/-- The last callback of an operation gets at most one argument. -/
theorem length_lastArguments (operation : Operation) (result : NativeResult) (heap : Heap) :
    (lastArguments operation result heap).1.length ≤ 1 := by
  cases operation <;> cases result <;> simp [lastArguments, completionArguments]

/-- A result without an error is an answer. -/
theorem exists_answer {result : NativeResult} (hok : result.error? = none) :
    ∃ answer, result = .ok answer := by
  cases result with
  | ok answer => exact ⟨answer, rfl⟩
  | failed error => contradiction

/-- The error of a delivery of lines whose global is no object. -/
def contextError : ScriptError := .invalidContext "`this` pointer has to be an object"

/-- Handing over a result reports the missing object global of a delivery of lines, or is a
delivery; new objects for the arguments go on the heap. -/
theorem complete_cases (operation : Operation) (callbacks : Callbacks) (result : NativeResult)
    (hlistener : callbacks.listener.isSome → operation = .readFromFile) :
    (callbacks.listener.isSome ∧ result.error? = none ∧ (s.global e).isObject = false ∧
        s.complete e h operation callbacks result = s.reportFatal e contextError) ∨
      (callbacks.listener.isSome → result.error? = none → (s.global e).isObject = true) ∧
        ∃ heap, Delivery { s with heap := heap } e h operation callbacks.last
          (s.complete e h operation callbacks result) := by
  unfold State.complete
  split
  · next listener answer hcallbacks =>
    rw [hcallbacks] at hlistener ⊢
    obtain rfl := hlistener rfl
    split
    · next hobject =>
      refine Or.inr ⟨fun _ _ => hobject, s.heap, ?_⟩
      exact delivery_nextLine s e h ⟨s.global e, listener, callbacks.last, _, 0⟩
    · next hobject => exact Or.inl ⟨rfl, rfl, by simpa using hobject, rfl⟩
  · next hother =>
    refine Or.inr ⟨fun hsome hok => ?_, _, delivery_applyLast _ e h operation callbacks.last
      (length_lastArguments operation _ s.heap)⟩
    obtain ⟨listener, hcallbacks⟩ := Option.isSome_iff_exists.mp hsome
    obtain ⟨answer, hanswer⟩ := exists_answer hok
    exact absurd hanswer (hother listener answer hcallbacks)

/-! ## Events -/

/-- A delivery applies functions in its engine that start no operation, and speaks of
operations. -/
theorem Delivery.events {s : State} {e : EngineId} {h : Handle} {operation : Operation}
    {last : FunctionRef} {turn : Turn} (hturn : Delivery s e h operation last turn)
    {event : Event} (hevent : event ∈ turn.events) :
    (∃ invocation, event = .applied invocation ∧ invocation.engine = e ∧
        invocation.accepted? = none) ∨
      ∃ level message fields, event = sayOperation level message fields := by
  induction hturn with
  | concluded hrefusal =>
    rcases List.mem_cons.mp hevent with rfl | hrest
    · exact Or.inl ⟨_, rfl, rfl, accepted?_of_refusal hrefusal⟩
    · exact Or.inr ⟨_, _, _, List.mem_singleton.mp hrest⟩
  | concluding hhost | listening _ _ hhost =>
    exact Or.inl ⟨_, List.mem_singleton.mp hevent, rfl, accepted?_of_host hhost⟩
  | allLines _ ih | stopped _ ih =>
    rcases List.mem_cons.mp hevent with rfl | hrest
    · exact Or.inr ⟨_, _, _, rfl⟩
    · exact ih hrest
  | refused hrefusal _ ih =>
    rcases List.mem_cons.mp hevent with rfl | hrest
    · exact Or.inl ⟨_, rfl, rfl, accepted?_of_refusal hrefusal⟩
    · exact ih hrest

/-- Ending the last callback at most speaks of the operation. -/
theorem events_conclude {s : State} {operation : Operation} {last : FunctionRef}
    {outcome : Outcome} {event : Event}
    (hevent : event ∈ (s.conclude operation last outcome).events) :
    ∃ level message fields, event = sayOperation level message fields := by
  cases outcome with
  | value _ => exact absurd hevent (List.not_mem_nil)
  | thrown exception => exact ⟨_, _, _, List.mem_singleton.mp hevent⟩

/-- Reporting a fatal error is one report, with a log entry when there is no hook. -/
theorem events_reportFatal {s : State} {e : EngineId} {error : ScriptError} {event : Event}
    (hevent : event ∈ (s.reportFatal e error).events) :
    event = .fatal e (s.hook e) error ∨ event = fatalEvent error := by
  unfold State.reportFatal at hevent
  split at hevent
  · next hook hhook => exact Or.inl (by rw [hhook]; exact List.mem_singleton.mp hevent)
  · next hhook => simpa [hhook] using hevent

end ScriptFiles.Bridge
