import ScriptFiles.Proofs.Bridge.Acceptance
import ScriptFiles.Proofs.Bridge.Deliveries

/-!
# Everything the bridge can answer

`Answers` lists the turns that a move can lead to, with the conditions under which each of them
comes about. That the step function gives one of them is proved once; every statement about runs
is a case analysis over the list.

The native service is asked only on behalf of a call by the host. So in the states that a run
reaches, an activity that asks the service always stands directly on a call (`Seated`).
-/

namespace ScriptFiles.Bridge

/-- A move takes up the completion of a ticket. -/
inductive Redeems (s : State) : Move → Ticket → Prop
  | fire {t : Ticket} {operation : Operation} {result : NativeResult}
      (hticket : s.ticket? t.id = some t) (hpurpose : t.purpose = .operation operation)
      (haccepts : operation.accepts result = true) : Redeems s (.fire t.id result) t
  | resume {t : Ticket} (hticket : s.ticket? t.id = some t) (hpurpose : t.purpose = .embedder) :
      Redeems s (.resume t.id) t

/-- The ticket of a redeeming move waits to be redeemed. -/
theorem Redeems.mem {s : State} {m : Move} {t : Ticket} (hredeems : Redeems s m t) :
    t ∈ s.tickets := by
  cases hredeems with
  | fire hticket _ _ => exact List.mem_of_find?_eq_some hticket
  | resume hticket _ => exact List.mem_of_find?_eq_some hticket

/-- The conditions of the completion of a native operation. -/
theorem Redeems.of_fire {s : State} {id : Nat} {result : NativeResult} {t : Ticket}
    (hredeems : Redeems s (.fire id result) t) :
    s.ticket? id = some t ∧
      ∃ operation, t.purpose = .operation operation ∧ operation.accepts result = true := by
  cases hredeems with
  | fire hticket hpurpose haccepts => exact ⟨hticket, _, hpurpose, haccepts⟩

/-- The conditions of a resumption. -/
theorem Redeems.of_resume {s : State} {id : Nat} {t : Ticket}
    (hredeems : Redeems s (.resume id) t) :
    s.ticket? id = some t ∧ t.purpose = .embedder := by
  cases hredeems with
  | resume hticket hpurpose => exact ⟨hticket, hpurpose⟩

/-- Moves that change what belongs to the host: objects, functions, globals, hooks and which
engines it holds. -/
def Move.isHosted : Move → Bool
  | .createEngine | .dropEngine _ | .createObject | .createFunction _ | .setProperty .. |
    .removeProperty .. | .setGlobal .. | .setHook .. | .install .. | .bind .. => true
  | _ => false

/-- No engine disappears, and none that existed is held afresh. -/
structure Retains (s s' : State) : Prop where
  engines : s.engines.length ≤ s'.engines.length
  held : ∀ e, e < s.engines.length → s'.isHeld e = true → s.isHeld e = true

/-- What a hosted move leaves alone. -/
structure Untouched (s s' : State) : Prop extends Retains s s' where
  tickets : s'.tickets = s.tickets
  ticketCount : s'.ticketCount = s.ticketCount
  frames : s'.frames = s.frames
  registry : ∀ e, s'.registry e = s.registry e

/-- The turns that moves can lead to. -/
inductive Answers (s : State) : Move → Turn → Prop
  | refused (m : Move) : Answers s m (refuse s)
  | hosted {m : Move} {turn : Turn} (hhosted : m.isHosted = true)
      (huntouched : Untouched s turn.state)
      (hevents : turn.events = [] ∨ ∃ name, turn.events = [installedEvent name]) :
      Answers s m turn
  | turnedAway {e : EngineId} {function : FunctionRef} {this : Value} {arguments : List Value}
      {exception : ScriptException} (halive : s.isAlive e = true)
      (hrefusal : refusal function arguments = some exception) :
      Answers s (.call e function this arguments)
        ⟨s, [.applied ⟨e, function, this, arguments, .host⟩], .returned (.thrown exception)⟩
  | called {e : EngineId} {function : FunctionRef} {this : Value} {arguments : List Value}
      (halive : s.isAlive e = true) (hhost : function.body = .host) :
      Answers s (.call e function this arguments)
        ⟨s.enter e .call, [.applied ⟨e, function, this, arguments, .host⟩],
          .run ⟨e, function, this, arguments, .host⟩⟩
  | issued {e : EngineId} {function : FunctionRef} {this : Value} {arguments : List Value}
      {label : String} {operation : Operation} (halive : s.isAlive e = true)
      (hbody : function.body = .entry label operation)
      (haccepted : operation.rejection label arguments = none) :
      Answers s (.call e function this arguments)
        ⟨((s.register e (operation.callbacks arguments) (.operation operation)).2.enter e
            .call).enter e .asking,
          [.applied ⟨e, function, this, arguments, .host⟩,
            issuedEvent operation (s.registry e).nextHandle (operation.request arguments),
            .requested e s.ticketCount (s.registry e).nextHandle (operation.request arguments)],
          .serve s.ticketCount (operation.request arguments)⟩
  | stored {e : EngineId} {values : List Value} (halive : s.isAlive e = true) :
      Answers s (.store e values)
        ⟨(s.register e values .embedder).2, [],
          .stored s.ticketCount (s.registry e).nextHandle⟩
  | gone {m : Move} {t : Ticket} (hredeems : Redeems s m t) (hdead : s.isAlive t.engine = false) :
      Answers s m ⟨s.spend t, [goneEvent t.handle], .finished⟩
  | unstored {m : Move} {t : Ticket} (hredeems : Redeems s m t)
      (halive : s.isAlive t.engine = true)
      (hget : (s.registry t.engine).get? t.handle = none) :
      Answers s m ⟨s.spend t, [unstoredEvent t.handle], .finished⟩
  | mismatched {t : Ticket} {operation : Operation} {result : NativeResult} {values : List Value}
      {error : ScriptError} (hredeems : Redeems s (.fire t.id result) t)
      (hpurpose : t.purpose = .operation operation) (halive : s.isAlive t.engine = true)
      (hget : (s.registry t.engine).get? t.handle = some values)
      (herror : operation.callbacks? t.handle values = .error error) :
      Answers s (.fire t.id result) ((s.settle t).reportFatal t.engine error)
  | contextless {t : Ticket} {result : NativeResult} {values : List Value}
      {callbacks : Callbacks} (hredeems : Redeems s (.fire t.id result) t)
      (hpurpose : t.purpose = .operation .readFromFile) (halive : s.isAlive t.engine = true)
      (hget : (s.registry t.engine).get? t.handle = some values)
      (hcallbacks : Operation.callbacks? .readFromFile t.handle values = .ok callbacks)
      (hresult : result.error? = none) (hglobal : (s.global t.engine).isObject = false) :
      Answers s (.fire t.id result) ((s.settle t).reportFatal t.engine contextError)
  | delivered {t : Ticket} {operation : Operation} {result : NativeResult} {values : List Value}
      {callbacks : Callbacks} {heap : Heap} {turn : Turn}
      (hredeems : Redeems s (.fire t.id result) t)
      (hpurpose : t.purpose = .operation operation) (halive : s.isAlive t.engine = true)
      (hget : (s.registry t.engine).get? t.handle = some values)
      (hcallbacks : operation.callbacks? t.handle values = .ok callbacks)
      (hturn : Delivery { s.settle t with heap := heap } t.engine t.handle operation
        callbacks.last turn) :
      Answers s (.fire t.id result) turn
  | resumed {t : Ticket} {values : List Value} (hredeems : Redeems s (.resume t.id) t)
      (halive : s.isAlive t.engine = true)
      (hget : (s.registry t.engine).get? t.handle = some values) :
      Answers s (.resume t.id)
        ⟨(s.settle t).enter t.engine (.delivering t.handle),
          [.delivered t.engine t.handle values], .deliver t.engine t.handle values⟩
  | abandoned {t : Ticket} (hticket : s.ticket? t.id = some t) :
      Answers s (.abandon t.id) ⟨s.spend t, [], .done⟩
  | returned {e : EngineId} {outer : List Frame} {outcome : Outcome}
      (hframes : s.frames = ⟨e, .call⟩ :: outer) :
      Answers s (.return_ outcome) ⟨{ s with frames := outer }, [], .returned outcome⟩
  | heard {e : EngineId} {h : Handle} {lines : LineDelivery} {outer : List Frame}
      {outcome : Outcome} {turn : Turn} (hframes : s.frames = ⟨e, .listening h lines⟩ :: outer)
      (hturn : Delivery { s with frames := outer } e h .readFromFile lines.done turn) :
      Answers s (.return_ outcome) turn
  | concluded {e : EngineId} {h : Handle} {operation : Operation} {last : FunctionRef}
      {outer : List Frame} {outcome : Outcome}
      (hframes : s.frames = ⟨e, .concluding operation h last⟩ :: outer) :
      Answers s (.return_ outcome)
        (State.conclude { s with frames := outer } operation last outcome)
  | acknowledged {e e' : EngineId} {outer : List Frame}
      (hframes : s.frames = ⟨e, .asking⟩ :: ⟨e', .call⟩ :: outer) :
      Answers s .acknowledge
        ⟨{ s with frames := outer }, [], .returned (.value .undefined)⟩
  | handedOver {e : EngineId} {h : Handle} {outer : List Frame}
      (hframes : s.frames = ⟨e, .delivering h⟩ :: outer) :
      Answers s (.delivered none) ⟨{ s with frames := outer }, [], .finished⟩
  | failed {e : EngineId} {h : Handle} {outer : List Frame} {error : ScriptError}
      (hframes : s.frames = ⟨e, .delivering h⟩ :: outer) :
      Answers s (.delivered (some error)) (State.reportFatal { s with frames := outer } e error)
  | reported {e : EngineId} {outer : List Frame} (hframes : s.frames = ⟨e, .reporting⟩ :: outer) :
      Answers s .reported ⟨{ s with frames := outer }, [], .finished⟩

/-- Every activity that asks the native service stands directly on a call. -/
def Seated : List Frame → Prop
  | [] => True
  | frame :: outer =>
    (frame.activity = .asking → ∃ e rest, outer = ⟨e, .call⟩ :: rest) ∧ Seated outer

/-! ## Hosted moves -/

/-- Changing the heap touches nothing else. -/
theorem untouched_heap (s : State) (heap : Heap) : Untouched s { s with heap := heap } where
  tickets := rfl
  ticketCount := rfl
  frames := rfl
  registry _ := rfl
  engines := Nat.le_refl _
  held _ _ hheld := hheld

/-- Changing an engine without its registry, and without holding it afresh, touches nothing. -/
theorem untouched_modifyEngine (s : State) (e : EngineId) {change : Engine → Engine}
    (hregistry : ∀ engine, (change engine).registry = engine.registry)
    (hheld : ∀ engine, (change engine).held = true → engine.held = true) :
    Untouched s (s.modifyEngine e change) where
  tickets := rfl
  ticketCount := rfl
  frames := rfl
  registry e' := State.registry_modifyEngine s e e' hregistry
  engines := Nat.le_of_eq (s.length_engines_modifyEngine e change).symm
  held e' he' hafter := by
    simp only [State.isHeld, State.engine?_modifyEngine] at hafter ⊢
    cases hengine : s.engine? e' with
    | none => simp [hengine] at hafter
    | some engine =>
      simp only [hengine, Option.map_some, Option.any_some] at hafter ⊢
      split at hafter
      · exact hheld engine hafter
      · exact hafter

/-- A new engine touches none that existed. -/
theorem untouched_createEngine (s : State) : Untouched s s.createEngine.state where
  tickets := rfl
  ticketCount := rfl
  frames := rfl
  registry e := by
    simp only [State.createEngine, State.registry, State.engine?]
    rw [List.getElem?_append]
    split
    · rfl
    · next hlt =>
      rw [List.getElem?_eq_none (Nat.le_of_not_lt hlt)]
      cases e - s.engines.length <;> rfl
  engines := by simp [State.createEngine]
  held e he hheld := by
    simp only [State.createEngine, State.isHeld, State.engine?] at hheld ⊢
    rwa [List.getElem?_append_left he] at hheld

/-- Publishing the operations only changes the heap. -/
theorem answers_install (s : State) (e : EngineId) (name : String) :
    Answers s (.install e name) (s.install e name) := by
  refine .hosted rfl ?_ ?_
  · unfold State.install
    split
    · exact untouched_heap s _
    · exact untouched_heap s s.heap
  · unfold State.install
    split
    · exact Or.inr ⟨name, rfl⟩
    · exact Or.inl rfl

/-! ## Every move -/

/-- A guarded turn is refused or comes about under its condition. -/
theorem answers_guarded {s : State} {m : Move} {condition : Bool} {turn : Turn}
    (hturn : condition = true → Answers s m turn) :
    Answers s m (guarded s condition turn) := by
  unfold guarded
  split
  · next hcondition => exact hturn hcondition
  · exact .refused m

/-- The answers to a call by the host. -/
theorem answers_call {s : State} {e : EngineId} (halive : s.isAlive e = true)
    (function : FunctionRef) (this : Value) (arguments : List Value) :
    Answers s (.call e function this arguments) (s.call ⟨e, function, this, arguments, .host⟩) := by
  cases hbody : function.body with
  | host =>
    rw [State.call, apply_of_host hbody]
    exact .called halive hbody
  | entry label operation =>
    cases hrejection : operation.rejection label arguments with
    | some exception =>
      have hrefusal : refusal function arguments = some exception := by
        simp only [refusal, hbody, hrejection]
      rw [State.call, apply_of_refusal hrefusal]
      exact .turnedAway halive hrefusal
    | none =>
      have happly : (s.enter e .call).apply ⟨e, function, this, arguments, .host⟩ =
          .awaiting ((s.enter e .call).issue e operation arguments) := by
        simp only [State.apply, hbody, hrejection]
      rw [State.call, happly]
      exact .issued halive hbody hrejection

/-- The completion of a native operation, by what its engine and its registration are. -/
theorem fire_eq (s : State) (t : Ticket) (operation : Operation) (result : NativeResult) :
    s.fire t operation result =
      if s.isAlive t.engine then
        match (s.registry t.engine).get? t.handle with
        | none => ⟨s.spend t, [unstoredEvent t.handle], .finished⟩
        | some values =>
          match operation.callbacks? t.handle values with
          | .error error => (s.settle t).reportFatal t.engine error
          | .ok callbacks =>
            (s.settle t).complete t.engine t.handle operation callbacks result
      else ⟨s.spend t, [goneEvent t.handle], .finished⟩ := by
  simp only [State.fire, State.isAlive_spend, State.takeStored_spend]
  cases (s.registry t.engine).get? t.handle <;> rfl

/-- A move that fires a ticket completes its operation. -/
theorem step_fire {s : State} {t : Ticket} {operation : Operation} {result : NativeResult}
    (hticket : s.ticket? t.id = some t) (hpurpose : t.purpose = .operation operation)
    (haccepts : operation.accepts result = true) :
    step s (.fire t.id result) = s.fire t operation result := by
  simp only [step, hticket, hpurpose, guarded, haccepts, if_true]

/-- A move that resumes a ticket hands the values of the host over. -/
theorem step_resume {s : State} {t : Ticket} (hticket : s.ticket? t.id = some t)
    (hpurpose : t.purpose = .embedder) : step s (.resume t.id) = s.resume t := by
  simp only [step, hticket, hpurpose, guarded, decide_true, if_true]

/-- The answers to the completion of a native operation. -/
theorem answers_fire {s : State} {t : Ticket} {operation : Operation} {result : NativeResult}
    (hticket : s.ticket? t.id = some t) (hpurpose : t.purpose = .operation operation)
    (haccepts : operation.accepts result = true) :
    Answers s (.fire t.id result) (s.fire t operation result) := by
  have hredeems : Redeems s (.fire t.id result) t := .fire hticket hpurpose haccepts
  rw [fire_eq]
  split
  · next halive =>
    split
    · next hget => exact .unstored hredeems halive hget
    · next values hget =>
      split
      · next error herror => exact .mismatched hredeems hpurpose halive hget herror
      · next callbacks hcallbacks =>
        have hlines :=
          Callbacks.isSome_listener_iff (Operation.callbacks?_eq_ok_iff.mp hcallbacks).2
        rcases complete_cases (s.settle t) t.engine t.handle operation callbacks result
          hlines.mp with ⟨hlistener, hresult, hglobal, hturn⟩ | ⟨-, heap, hturn⟩
        · obtain rfl := hlines.mp hlistener
          rw [hturn]
          rw [State.global_settle] at hglobal
          exact .contextless hredeems hpurpose halive hget hcallbacks hresult hglobal
        · exact .delivered hredeems hpurpose halive hget hcallbacks hturn
  · next hdead => exact .gone hredeems (by simpa using hdead)

/-- The resumption of a registration of the host, by what its engine and its registration are. -/
theorem resume_eq (s : State) (t : Ticket) :
    s.resume t =
      if s.isAlive t.engine then
        match (s.registry t.engine).get? t.handle with
        | none => ⟨s.spend t, [unstoredEvent t.handle], .finished⟩
        | some values =>
          ⟨(s.settle t).enter t.engine (.delivering t.handle),
            [.delivered t.engine t.handle values], .deliver t.engine t.handle values⟩
      else ⟨s.spend t, [goneEvent t.handle], .finished⟩ := by
  simp only [State.resume, State.isAlive_spend, State.takeStored_spend]
  cases (s.registry t.engine).get? t.handle <;> rfl

/-- The answers to the resumption of a registration of the host. -/
theorem answers_resume {s : State} {t : Ticket} (hticket : s.ticket? t.id = some t)
    (hpurpose : t.purpose = .embedder) : Answers s (.resume t.id) (s.resume t) := by
  have hredeems : Redeems s (.resume t.id) t := .resume hticket hpurpose
  rw [resume_eq]
  split
  · next halive =>
    split
    · next hget => exact .unstored hredeems halive hget
    · next values hget => exact .resumed hredeems halive hget
  · next hdead => exact .gone hredeems (by simpa using hdead)

/-- The answers to the end of the function that runs innermost. -/
theorem answers_return (s : State) (outcome : Outcome) :
    Answers s (.return_ outcome) ((s.return_ outcome).getD (refuse s)) := by
  unfold State.return_
  split
  · next hframes => exact .returned hframes
  · next e h lines outer hframes =>
    cases outcome with
    | value _ => exact .heard hframes (delivery_nextLine _ e h lines)
    | thrown exception => exact .heard hframes (delivery_stopLines _ e h lines exception)
  · next hframes => exact .concluded hframes
  · exact .refused _

section Ends

variable {s : State} {e : EngineId} {outer : List Frame}

/-- The end of a call of the host is answered with its outcome. -/
theorem step_return_call (hframes : s.frames = ⟨e, .call⟩ :: outer) (outcome : Outcome) :
    step s (.return_ outcome) = ⟨{ s with frames := outer }, [], .returned outcome⟩ := by
  simp only [step, State.return_, hframes, Option.getD_some]

/-- The end of a listener leads to the next line, or at an exception to the last callback. -/
theorem step_return_listening {h : Handle} {lines : LineDelivery}
    (hframes : s.frames = ⟨e, .listening h lines⟩ :: outer) (outcome : Outcome) :
    step s (.return_ outcome) =
      match outcome with
      | .value _ => State.nextLine { s with frames := outer } e h lines
      | .thrown exception => State.stopLines { s with frames := outer } e h lines exception := by
  cases outcome <;> simp only [step, State.return_, hframes, Option.getD_some]

/-- The end of the last callback concludes the completion. -/
theorem step_return_concluding {h : Handle} {operation : Operation} {last : FunctionRef}
    (hframes : s.frames = ⟨e, .concluding operation h last⟩ :: outer) (outcome : Outcome) :
    step s (.return_ outcome) =
      State.conclude { s with frames := outer } operation last outcome := by
  simp only [step, State.return_, hframes, Option.getD_some]

end Ends

/-- A ticket that is found has the number it was looked for by. -/
theorem id_of_ticket? {s : State} {id : Nat} {t : Ticket} (hticket : s.ticket? id = some t) :
    t.id = id := by
  simpa using List.find?_some hticket

/-- Every turn of the bridge is one of the listed ones. -/
theorem answers_step {s : State} (hseated : Seated s.frames) (m : Move) :
    Answers s m (step s m) := by
  cases m with
  | createEngine => exact .hosted rfl (untouched_createEngine s) (Or.inl rfl)
  | dropEngine e =>
    refine answers_guarded fun _ => .hosted rfl ?_ (Or.inl rfl)
    exact untouched_modifyEngine s e (fun _ => rfl) (fun _ h => by simp at h)
  | createObject => exact .hosted rfl (untouched_heap s _) (Or.inl rfl)
  | createFunction name => exact .hosted rfl (untouched_heap s _) (Or.inl rfl)
  | setProperty object key value => exact .hosted rfl (untouched_heap s _) (Or.inl rfl)
  | removeProperty object key => exact .hosted rfl (untouched_heap s _) (Or.inl rfl)
  | setGlobal e value =>
    refine answers_guarded fun _ => .hosted rfl ?_ (Or.inl rfl)
    exact untouched_modifyEngine s e (fun _ => rfl) (fun _ h => h)
  | setHook e hook =>
    refine answers_guarded fun _ => .hosted rfl ?_ (Or.inl rfl)
    exact untouched_modifyEngine s e (fun _ => rfl) (fun _ h => h)
  | install e name => exact answers_guarded fun _ => answers_install s e name
  | bind label object => exact .hosted rfl (untouched_heap s _) (Or.inl rfl)
  | call e function this arguments =>
    exact answers_guarded fun halive => answers_call halive function this arguments
  | store e values => exact answers_guarded fun halive => .stored halive
  | fire id result =>
    simp only [step]
    cases hticket : s.ticket? id with
    | none => exact .refused _
    | some t =>
      obtain rfl := id_of_ticket? hticket
      dsimp only
      split
      · next operation hpurpose =>
        exact answers_guarded fun haccepts => answers_fire hticket hpurpose haccepts
      · exact .refused _
  | resume id =>
    simp only [step]
    cases hticket : s.ticket? id with
    | none => exact .refused _
    | some t =>
      obtain rfl := id_of_ticket? hticket
      exact answers_guarded fun hpurpose => answers_resume hticket (by simpa using hpurpose)
  | abandon id =>
    simp only [step]
    cases hticket : s.ticket? id with
    | none => exact .refused _
    | some t =>
      obtain rfl := id_of_ticket? hticket
      exact .abandoned hticket
  | return_ outcome => exact answers_return s outcome
  | acknowledge =>
    simp only [step]
    split
    · next e outer hframes =>
      rw [hframes] at hseated
      obtain ⟨e', rest, rfl⟩ := hseated.1 rfl
      exact .acknowledged hframes
    · exact .refused _
  | delivered error =>
    simp only [step]
    split
    · next e h outer hframes =>
      cases error with
      | none => exact .handedOver hframes
      | some error => exact .failed hframes
    · exact .refused _
  | reported =>
    simp only [step]
    split
    · next e outer hframes => exact .reported hframes
    · exact .refused _

end ScriptFiles.Bridge
