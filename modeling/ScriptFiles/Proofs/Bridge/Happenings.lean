import ScriptFiles.Proofs.Bridge.Answers

/-!
# What happens during a move

An accepted call is the only move that starts an operation and makes a native request, and its
turn is `issuing`. Everything that happens in the other turns is one of few things (`Happens`).
-/

namespace ScriptFiles.Bridge

/-- The turn of an accepted call. -/
def issuing (s : State) (invocation : Invocation) (operation : Operation) : Turn :=
  let values := operation.callbacks invocation.arguments
  let request := operation.request invocation.arguments
  let e := invocation.engine
  ⟨((s.register e values (.operation operation)).2.enter e .call).enter e .asking,
    [.applied invocation, issuedEvent operation (s.registry e).nextHandle request,
      .requested e s.ticketCount (s.registry e).nextHandle request],
    .serve s.ticketCount request⟩

/-- A move leads to an error: the stored values do not fit, the global is no object, or the host
hands the error over. -/
def Raises (s : State) (m : Move) (error : ScriptError) : Prop :=
  (∃ t operation values, Redeems s m t ∧ t.purpose = .operation operation ∧
      (s.registry t.engine).get? t.handle = some values ∧
      operation.callbacks? t.handle values = .error error) ∨
    error = contextError ∨ m = .delivered (some error)

/-- What can happen during a move other than an accepted call. -/
inductive Happens (s : State) (m : Move) : Event → Prop
  | said {level : Log.Level} {message : String} {fields : List (String × Log.FieldValue)} :
      Happens s m (sayOperation level message fields)
  | gone {h : Handle} : Happens s m (goneEvent h)
  | unstored {t : Ticket} (hredeems : Redeems s m t)
      (hget : (s.registry t.engine).get? t.handle = none) : Happens s m (unstoredEvent t.handle)
  | unreported {error : ScriptError} : Happens s m (fatalEvent error)
  | applied {invocation : Invocation} (halive : s.isAlive invocation.engine = true)
      (hnone : invocation.accepted? = none) : Happens s m (.applied invocation)
  | delivered {e : EngineId} {h : Handle} {values : List Value} (halive : s.isAlive e = true) :
      Happens s m (.delivered e h values)
  | fatal {e : EngineId} {hook : Option HookId} {error : ScriptError} (halive : s.isAlive e = true)
      (hraises : Raises s m error) : Happens s m (.fatal e hook error)

variable {s : State} {m : Move} {turn : Turn}

/-- What happens in a delivery to a living engine. -/
theorem Delivery.happens {s' : State} {e : EngineId} {h : Handle} {operation : Operation}
    {last : FunctionRef} (hturn : Delivery s' e h operation last turn)
    (halive : s.isAlive e = true) {event : Event} (hevent : event ∈ turn.events) :
    Happens s m event := by
  rcases hturn.events hevent with ⟨invocation, rfl, rfl, hnone⟩ | ⟨_, _, _, rfl⟩
  · exact .applied halive hnone
  · exact .said

/-- What happens when a fatal error of a living engine is reported. -/
theorem happens_reportFatal {s' : State} {e : EngineId} {error : ScriptError}
    (halive : s.isAlive e = true) (hraises : Raises s m error) {event : Event}
    (hevent : event ∈ (s'.reportFatal e error).events) : Happens s m event := by
  rcases events_reportFatal hevent with rfl | rfl
  · exact .fatal halive hraises
  · exact .unreported

/-- A turn is that of an accepted call, or only few things happen in it. -/
theorem Answers.issuing_or_happens (hanswers : Answers s m turn) :
    (∃ invocation operation label, s.isAlive invocation.engine = true ∧
        invocation.function.body = .entry label operation ∧
        operation.rejection label invocation.arguments = none ∧
        turn = issuing s invocation operation) ∨
      ∀ event ∈ turn.events, Happens s m event := by
  have hinside {e : EngineId} {a : Activity} {outer : List Frame}
      (hframes : s.frames = ⟨e, a⟩ :: outer) : s.isAlive e = true := by
    have hmem : ⟨e, a⟩ ∈ s.frames := by
      rw [hframes]
      exact List.mem_cons_self
    exact State.isAlive_of_mem hmem
  cases hanswers with
  | @issued e function this arguments label operation halive hbody haccepted =>
    exact Or.inl ⟨⟨e, function, this, arguments, .host⟩, operation, label, halive, hbody,
      haccepted, rfl⟩
  | refused | stored _ | abandoned _ | returned _ | acknowledged _ | handedOver _ | reported _ =>
    exact Or.inr fun event hevent => absurd hevent List.not_mem_nil
  | hosted _ _ hevents =>
    refine Or.inr fun event hevent => ?_
    rcases hevents with hnone | ⟨name, hone⟩
    · rw [hnone] at hevent
      exact absurd hevent List.not_mem_nil
    · rw [hone] at hevent
      rw [List.mem_singleton.mp hevent]
      exact .said
  | turnedAway halive hrefusal =>
    refine Or.inr fun event hevent => ?_
    rw [List.mem_singleton.mp hevent]
    exact .applied halive (accepted?_of_refusal hrefusal)
  | called halive hhost =>
    refine Or.inr fun event hevent => ?_
    rw [List.mem_singleton.mp hevent]
    exact .applied halive (accepted?_of_host hhost)
  | gone _ _ =>
    refine Or.inr fun event hevent => ?_
    rw [List.mem_singleton.mp hevent]
    exact .gone
  | unstored hredeems _ hget =>
    refine Or.inr fun event hevent => ?_
    rw [List.mem_singleton.mp hevent]
    exact .unstored hredeems hget
  | mismatched hredeems hpurpose halive hget herror =>
    exact Or.inr fun event =>
      happens_reportFatal halive (Or.inl ⟨_, _, _, hredeems, hpurpose, hget, herror⟩)
  | contextless _ _ halive _ _ _ _ =>
    exact Or.inr fun event => happens_reportFatal halive (Or.inr (Or.inl rfl))
  | delivered _ _ halive _ _ hturn => exact Or.inr fun event => hturn.happens halive
  | resumed _ halive _ =>
    refine Or.inr fun event hevent => ?_
    rw [List.mem_singleton.mp hevent]
    exact .delivered halive
  | heard hframes hturn => exact Or.inr fun event => hturn.happens (hinside hframes)
  | concluded _ =>
    refine Or.inr fun event hevent => ?_
    obtain ⟨_, _, _, rfl⟩ := events_conclude hevent
    exact .said
  | failed hframes =>
    exact Or.inr fun event =>
      happens_reportFatal (hinside hframes) (Or.inr (Or.inr rfl))

/-- What happens in the turn of an accepted call. -/
theorem mem_events_issuing {invocation : Invocation} {operation : Operation} {event : Event}
    (hevent : event ∈ (issuing s invocation operation).events) :
    event = .applied invocation ∨
      (∃ level message fields, event = sayOperation level message fields) ∨
      ∃ id h, event = .requested invocation.engine id h
        (operation.request invocation.arguments) := by
  rcases List.mem_cons.mp hevent with hcall | hrest
  · exact Or.inl hcall
  · rcases List.mem_cons.mp hrest with hsaid | hlast
    · exact Or.inr (Or.inl ⟨_, _, _, hsaid⟩)
    · exact Or.inr (Or.inr ⟨_, _, List.mem_singleton.mp hlast⟩)

end ScriptFiles.Bridge
