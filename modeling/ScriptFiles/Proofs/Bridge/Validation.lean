import ScriptFiles.Proofs.Bridge.ExactlyOnce
import ScriptFiles.Proofs.Bridge.OwnTurns
import ScriptFiles.Proofs.Bridge.Signatures

/-!
# Checking the arguments of a call

A call of an operation either throws and leaves everything as it was, or asks the native service
exactly once and returns `undefined`, whatever goes on before the native service lets it return.
Which of the two happens depends on the arguments alone.
-/

namespace ScriptFiles

/-! ## Entry points on objects -/

/-- Operations are told apart by their names. -/
theorem Operation.name_injective {operation other : Operation}
    (hname : operation.name = other.name) : operation = other := by
  cases operation <;> cases other <;> first | rfl | exact absurd hname (by decide)

namespace Heap

variable {heap : Heap} {object : ObjectRef}

/-- A property that was set has its value. -/
theorem get_set_self (hobject : object.index < heap.objects.length) (key : String)
    (value : Value) : (heap.set object key value).get object key = value := by
  simp [get, set, properties, hobject]

/-- Setting a property leaves the other properties of the object alone. -/
theorem get_set_of_ne {key other : String} (hne : other ≠ key) (value : Value) :
    (heap.set object key value).get object other = heap.get object other := by
  by_cases hobject : object.index < heap.objects.length
  · simp [get, set, properties, hobject, Properties.get?_set_of_ne _ value hne]
  · simp [get, set, properties, hobject]

end Heap

namespace Bridge

/-- An object has an operation as a function under its name. -/
def Offers (heap : Heap) (object : ObjectRef) (label : String) (operation : Operation) : Prop :=
  ∃ entry, heap.get object operation.name = .function entry ∧ entry.body = .entry label operation

/-- Binding operations on an object offers each of them. -/
theorem offers_of_bound (label : String) {object : ObjectRef} (operation : Operation)
    (operations : List Operation) {heap : Heap} (hobject : object.index < heap.objects.length)
    (hoffers : operation ∈ operations ∨ Offers heap object label operation) :
    Offers (operations.foldl (fun heap operation =>
      let made := heap.newFunction operation.name (.entry label operation)
      made.2.set object operation.name (.function made.1)) heap) object label operation := by
  induction operations generalizing heap with
  | nil => simpa using hoffers
  | cons first rest ih =>
    have hmade : object.index < (heap.newFunction first.name (.entry label first)).2.objects.length :=
      hobject
    refine ih (by simpa using hmade) ?_
    by_cases hfirst : operation = first
    · subst hfirst
      exact Or.inr ⟨_, Heap.get_set_self hmade operation.name _, rfl⟩
    · have hname : operation.name ≠ first.name := fun heq => hfirst (Operation.name_injective heq)
      rcases hoffers with hmem | ⟨entry, hget, hbody⟩
      · exact Or.inl (by simpa [hfirst] using hmem)
      · exact Or.inr ⟨entry, by rw [Heap.get_set_of_ne hname]; exact hget, hbody⟩

/-! ## The turn of a call -/

variable {s : State} {e : EngineId} {function : FunctionRef} {this : Value}
  {arguments : List Value} {label : String} {operation : Operation}

/-- A call with rejected arguments throws and changes nothing. -/
theorem step_call_of_rejected (halive : s.isAlive e = true)
    (hbody : function.body = .entry label operation) {exception : ScriptException}
    (hrejected : operation.rejection label arguments = some exception) :
    step s (.call e function this arguments) =
      ⟨s, [.applied ⟨e, function, this, arguments, .host⟩], .returned (.thrown exception)⟩ := by
  simp [step, guarded, halive, State.call, State.apply, hbody, hrejected]

/-- A call with accepted arguments asks the native service. -/
theorem step_call_of_accepted (halive : s.isAlive e = true)
    (hbody : function.body = .entry label operation)
    (haccepted : operation.rejection label arguments = none) :
    step s (.call e function this arguments) =
      issuing s ⟨e, function, this, arguments, .host⟩ operation := by
  simp only [step, guarded, halive, if_true, State.call, State.apply, hbody, haccepted]
  rfl

/-- A turn that asks the native service for a call. Nothing but the registry of the engine and the
tickets changes: the callbacks wait under the handle after the last one. -/
structure Asks (s : State) (call : Invocation) (operation : Operation) (request : Request)
    (callbacks : List FunctionRef) (handle : Handle) (turn : Turn) : Prop where
  prompt : turn.prompt = .serve s.ticketCount request
  events : turn.events =
    [.applied call, issuedEvent operation handle request,
      .requested call.engine s.ticketCount handle request]
  heap : turn.state.heap = s.heap
  global : ∀ e, turn.state.global e = s.global e
  hook : ∀ e, turn.state.hook e = s.hook e
  held : ∀ e, turn.state.isHeld e = s.isHeld e
  tickets : turn.state.tickets =
    s.tickets ++ [⟨s.ticketCount, call.engine, handle, .operation operation⟩]
  others : ∀ e, e ≠ call.engine → turn.state.registry e = s.registry e
  lastId : (turn.state.registry call.engine).lastId = handle.id
  stored : (turn.state.registry call.engine).get? handle = some (callbacks.map Value.function)
  kept : ∀ h, h ≠ handle →
    (turn.state.registry call.engine).get? h = (s.registry call.engine).get? h

/-- An accepted call stores its callbacks on its engine. -/
theorem registry_issuing {call : Invocation} {request : Request} {callbacks : List FunctionRef}
    (hexists : call.engine < s.engines.length)
    (hsignature : operation.Signature call.arguments request callbacks) :
    (issuing s call operation).state.registry call.engine =
      ((s.registry call.engine).store (callbacks.map Value.function)).2 := by
  rw [← hsignature.eq_request.2]
  exact s.registry_register_self _ (.operation operation) hexists

/-- An accepted call asks the native service once. -/
theorem asks_issuing {call : Invocation} {request : Request} {callbacks : List FunctionRef}
    (hexists : call.engine < s.engines.length)
    (hsignature : operation.Signature call.arguments request callbacks) :
    Asks s call operation request callbacks (s.registry call.engine).nextHandle
      (issuing s call operation) := by
  have hrequest := hsignature.eq_request.1
  have hregistry := registry_issuing hexists hsignature
  constructor
  · simp only [issuing, hrequest]
  · simp only [issuing, hrequest]
  · rfl
  · exact fun e' => State.global_modifyEngine s _ e' fun _ => rfl
  · exact fun e' => State.hook_modifyEngine s _ e' fun _ => rfl
  · exact fun e' => State.isHeld_modifyEngine s _ e' fun _ => rfl
  · rfl
  · exact fun e' hne => s.registry_register_of_ne _ (.operation operation) hne
  · rw [hregistry]
    rfl
  · rw [hregistry, Registry.get?_store_self]
  · intro h hne
    rw [hregistry, Registry.get?_store_of_ne _ _ hne]

/-- An accepted call leaves one more operation pending, below the limit of the counter. -/
theorem Registered.pending_issuing (hregistered : Registered s)
    (hfew : s.ticketCount + 1 < UInt64.size) {call : Invocation} {request : Request}
    {callbacks : List FunctionRef} (hexists : call.engine < s.engines.length)
    (hsignature : operation.Signature call.arguments request callbacks) :
    (issuing s call operation).state.pending call.engine = s.pending call.engine + 1 := by
  rw [State.pending, registry_issuing hexists hsignature]
  exact (hregistered.sound call.engine).size_store (hregistered.room hfew call.engine) _

/-! ## The end of a call -/

/-- The native service lets a call return. -/
theorem step_acknowledge {e' : EngineId} {base : List Frame}
    (hframes : s.frames = ⟨e, .asking⟩ :: ⟨e', .call⟩ :: base) :
    step s .acknowledge = ⟨{ s with frames := base }, [], .returned (.value .undefined)⟩ := by
  simp [step, hframes, State.return_]

/-- While the native service is asked, the call either goes on or returns `undefined`. -/
theorem step_of_asking {m : Move} {e' : EngineId} {base : List Frame}
    (hframes : s.frames = ⟨e, .asking⟩ :: ⟨e', .call⟩ :: base) (hends : m.ends = true) :
    step s m = refuse s ∨
      step s m = ⟨{ s with frames := base }, [], .returned (.value .undefined)⟩ := by
  cases m with
  | acknowledge => exact Or.inr (step_acknowledge hframes)
  | return_ outcome => exact Or.inl (by simp [step, hframes, State.return_])
  | delivered error => exact Or.inl (by simp [step, hframes])
  | reported => exact Or.inl (by simp [step, hframes])
  | _ => contradiction

/-- Whatever goes on while the native service is asked, the call only ever returns `undefined`. -/
theorem ownTurns_of_asking (hformed : Formed s) (moves : List Move) (inner : List Frame)
    {e' : EngineId} {base : List Frame}
    (hframes : s.frames = inner ++ ⟨e, .asking⟩ :: ⟨e', .call⟩ :: base) :
    ∀ own ∈ ownTurns (base.length + 1) s moves,
      own.2.prompt = .refused ∨ own.2.prompt = .returned (.value .undefined) := by
  induction moves generalizing s inner with
  | nil => simp [ownTurns]
  | cons m rest ih =>
    change ∀ own ∈ ownTurns ((⟨e', .call⟩ : Frame) :: base).length s (m :: rest), _
    by_cases hown : s.frames.length = ((⟨e', .call⟩ : Frame) :: base).length + 1 ∧ m.ends = true
    · have hinnermost := frames_of_length hframes hown.1
      rw [ownTurns_of_innermost rest hinnermost hown.2, List.forall_mem_cons]
      rcases step_of_asking hinnermost hown.2 with hrefused | hreturned
      · rw [hrefused]
        exact ⟨Or.inl rfl, ih hformed [] hinnermost⟩
      · rw [hreturned]
        refine ⟨Or.inr rfl, ?_⟩
        cases rest with
        | nil => simp [ownTurns]
        | cons _ _ => simp [ownTurns]
    · obtain ⟨inner', hafter⟩ := (answers_step hformed.seated m).keeps hframes (by simp) hown
      rw [ownTurns_of_other rest hframes hown]
      exact ih (hformed.step m) inner' hafter

/-- Validation of calls. A call of an operation through a living engine throws exactly when its
arguments are malformed. Then it throws a type error with the message about the first fault, and
nothing else happens and nothing changes. Any other call asks the native service once, for what its
arguments stand for, with the next handle, and it returns `undefined`: at once when the completion
is kept for later, which leaves one more operation pending, and in the end whatever happens while
the native service is asked. Binding offers the operation under its name and with its label. -/
theorem argument_validation (before : List Move) {e : EngineId} {function : FunctionRef}
    (this : Value) (arguments : List Value) {label : String} {operation : Operation}
    (halive : (after {} before).isAlive e = true)
    (hbody : function.body = .entry label operation) :
    let s := after {} before
    let call : Invocation := ⟨e, function, this, arguments, .host⟩
    let turn := step s (.call e function this arguments)
    ((∃ exception, turn.prompt = .returned (.thrown exception)) ↔
      operation.Malformed arguments) ∧
    (operation.Malformed arguments → ∃ message, operation.Fault label arguments message ∧
      turn = ⟨s, [.applied call], .returned (.thrown ⟨.typeError, message, none⟩)⟩) ∧
    (¬operation.Malformed arguments → ∃ request callbacks,
      operation.Signature arguments request callbacks ∧
      Asks s call operation request callbacks ⟨(s.registry e).lastId + 1⟩ turn ∧
      (∀ later, ∀ own ∈ ownTurns (s.frames.length + 1) turn.state later,
        own.2.prompt = .refused ∨ own.2.prompt = .returned (.value .undefined)) ∧
      let parked := step turn.state .acknowledge
      parked.prompt = .returned (.value .undefined) ∧ parked.events = [] ∧
        parked.state = { turn.state with frames := s.frames } ∧
        (s.ticketCount + 1 < UInt64.size → parked.state.pending e = s.pending e + 1)) ∧
    ∀ object, object.index < s.heap.objects.length →
      Offers (step s (.bind label object)).state.heap object label operation := by
  intro s call turn
  have hformed : Formed s := formed_empty.after before
  have hexists : e < s.engines.length := hformed.lt_of_isAlive halive
  have hfaulty : operation.Malformed arguments ↔
      ∃ message, operation.Fault label arguments message := Operation.malformed_iff_exists_fault
  have hthrown {message : String} (hfault : operation.Fault label arguments message) :
      turn = ⟨s, [.applied call], .returned (.thrown ⟨.typeError, message, none⟩)⟩ :=
    step_call_of_rejected halive hbody hfault.rejection
  refine ⟨⟨?_, ?_⟩, ?_, ?_, ?_⟩
  · rintro ⟨exception, hprompt⟩
    rw [hfaulty]
    rcases operation.fault_or_signature label arguments with hfault | ⟨_, _, hsignature⟩
    · exact hfault
    · have hturn : turn = issuing s call operation :=
        step_call_of_accepted halive hbody hsignature.rejection
      rw [hturn] at hprompt
      contradiction
  · intro hmalformed
    obtain ⟨message, hfault⟩ := hfaulty.mp hmalformed
    exact ⟨_, congrArg Turn.prompt (hthrown hfault)⟩
  · intro hmalformed
    obtain ⟨message, hfault⟩ := hfaulty.mp hmalformed
    exact ⟨message, hfault, hthrown hfault⟩
  · intro hwell
    rw [hfaulty] at hwell
    obtain ⟨request, callbacks, hsignature⟩ :=
      (operation.fault_or_signature label arguments).resolve_left hwell
    have hturn : turn = issuing s call operation :=
      step_call_of_accepted halive hbody hsignature.rejection
    have hasks : Asks s call operation request callbacks (s.registry e).nextHandle turn := by
      rw [hturn]
      exact asks_issuing hexists hsignature
    have hframes : turn.state.frames = ⟨e, .asking⟩ :: ⟨e, .call⟩ :: s.frames := by rw [hturn]; rfl
    have hparked : step turn.state .acknowledge =
        ⟨{ turn.state with frames := s.frames }, [], .returned (.value .undefined)⟩ :=
      step_acknowledge hframes
    refine ⟨request, callbacks, hsignature, hasks, ?_, ?_⟩
    · exact fun later => ownTurns_of_asking (hformed.step _) later [] hframes
    · rw [hparked]
      refine ⟨rfl, rfl, rfl, fun hfew => ?_⟩
      have hregistered : Registered s := registered_after before (Nat.lt_of_succ_lt hfew)
      have hpending : (issuing s call operation).state.pending e = s.pending e + 1 :=
        hregistered.pending_issuing hfew hexists hsignature
      rw [hturn]
      exact hpending
  · intro object hobject
    exact offers_of_bound label operation Operation.all hobject (Or.inl (by cases operation <;> decide))

/-- Reading without a callback throws, and an engine with no operation pending still has none.
Writing with everything it takes asks for the string form of the path and the bytes of the content,
and leaves one operation pending when the call has returned. -/
theorem argument_validation_no_callback :
    let s := after {} [.createEngine]
    let turn := step s (.call 0 ⟨0, "read", .entry "fs" .read⟩ .undefined [.string "notes.txt"])
    let arguments : List Value := [.bool true, .string "hi", .function ⟨1, "callback", .host⟩]
    let asked := step s (.call 0 ⟨2, "write", .entry "fs" .write⟩ .undefined arguments)
    s.isAlive 0 = true ∧ Operation.Malformed .read [.string "notes.txt"] ∧
      turn.prompt = .returned (.thrown ⟨.typeError, "fs.read requires 2 parameters", none⟩) ∧
      turn.state.pending 0 = 0 ∧
      ¬Operation.Malformed .write arguments ∧
      asked.prompt = .serve 0 (.write "true" [104, 105]) ∧
      (asked.state.registry 0).get? ⟨1⟩ = some [.function ⟨1, "callback", .host⟩] ∧
      (step asked.state .acknowledge).prompt = .returned (.value .undefined) ∧
      (step asked.state .acknowledge).state.pending 0 = 1 := by
  intro s turn arguments asked
  have halive : s.isAlive 0 = true := by decide
  have hmalformed : Operation.Malformed .read [.string "notes.txt"] := Or.inl (by decide)
  have hbody : (⟨0, "read", .entry "fs" .read⟩ : FunctionRef).body = .entry "fs" .read := rfl
  obtain ⟨-, hthrows, -, -⟩ :=
    argument_validation [.createEngine] .undefined [.string "notes.txt"] halive hbody
  obtain ⟨message, hfault, hturn⟩ := hthrows hmalformed
  have hprompt : turn.prompt =
      .returned (.thrown ⟨.typeError, "fs.read requires 2 parameters", none⟩) := by
    cases hfault with
    | notTwo _ _ => exact (congrArg Turn.prompt hturn).trans (by simp [Operation.name])
    | notThree hpath _ => exact absurd (by decide) hpath
  have hpending : turn.state.pending 0 = 0 := by
    rw [show turn = _ from hturn]
    rfl
  -- the call that is accepted
  have hwell : ¬Operation.Malformed .write arguments := by
    simp [Operation.Malformed, Operation.pathOnly, arguments]
  have hwrite : (⟨2, "write", .entry "fs" .write⟩ : FunctionRef).body = .entry "fs" .write := rfl
  obtain ⟨-, -, hasks, -⟩ :=
    argument_validation [.createEngine] .undefined arguments halive hwrite
  obtain ⟨request, callbacks, hsignature, hasked, -, hreturned, -, -, hpends⟩ := hasks hwell
  obtain ⟨hrequest, hcallbacks⟩ := hsignature.eq_request
  have hstored := hasked.stored
  have hwritten : Operation.request .write arguments = .write "true" [104, 105] := by
    decide +kernel
  rw [← hcallbacks] at hstored
  rw [← hrequest, hwritten] at hasked
  exact ⟨halive, hmalformed, hprompt, hpending, hwell, hasked.prompt, hstored, hreturned,
    hpends (by decide)⟩

end Bridge
end ScriptFiles
