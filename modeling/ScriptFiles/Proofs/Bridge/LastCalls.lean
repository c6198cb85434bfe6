import ScriptFiles.Proofs.Bridge.Ledger

/-!
# Calls of callbacks

What a move can do for one registration: nothing, redeem its ticket, or go on with its delivery of
lines. Only the last two can apply its callbacks, and a delivery either applies the last callback
exactly once or leaves exactly one listener running (`Delivery.handed`).
-/

namespace ScriptFiles.Bridge

/-- An event that applies the last callback of a registration. -/
def Event.isLastOf (e : EngineId) (h : Handle) : Event → Bool
  | .applied ⟨e', _, _, _, .last _ h'⟩ => e' == e && h' == h
  | _ => false

/-- The applications of the last callback of a registration, among events. -/
def lastCalls (e : EngineId) (h : Handle) (events : List Event) : List Event :=
  events.filter (Event.isLastOf e h)

/-- An event that applies a callback of a registration. -/
def Event.isCallOf (e : EngineId) (h : Handle) : Event → Bool
  | .applied ⟨e', _, _, _, .listener h'⟩ | .applied ⟨e', _, _, _, .last _ h'⟩ => e' == e && h' == h
  | _ => false

/-- The applications of the callbacks of a registration, among events. -/
def calls (e : EngineId) (h : Handle) (events : List Event) : List Event :=
  events.filter (Event.isCallOf e h)

/-- The delivery of lines of a registration that waits in an activity. -/
def Frame.listens? (e : EngineId) (h : Handle) : Frame → Option LineDelivery
  | ⟨e', .listening h' lines⟩ => if e' = e ∧ h' = h then some lines else none
  | _ => none

/-- The deliveries of lines of a registration that wait for a listener. -/
def listeners (s : State) (e : EngineId) (h : Handle) : List LineDelivery :=
  s.frames.filterMap (Frame.listens? e h)

/-- A turn that does nothing for a registration. -/
def Quiet (e : EngineId) (h : Handle) (s : State) (turn : Turn) : Prop :=
  calls e h turn.events = [] ∧ listeners turn.state e h = listeners s e h

variable {s : State} {e : EngineId} {h : Handle}

/-- Events that apply no callback of the registration leave no call. -/
theorem calls_eq_nil {events : List Event}
    (hevents : ∀ event ∈ events, event.isCallOf e h = false) : calls e h events = [] := by
  rw [calls, List.filter_eq_nil_iff]
  intro event hevent
  simp [hevents event hevent]

/-- Without calls of the callbacks there are none of the last one. -/
theorem lastCalls_of_calls {events : List Event} (hcalls : calls e h events = []) :
    lastCalls e h events = [] := by
  rw [lastCalls, List.filter_eq_nil_iff]
  intro event hevent hlast
  have hnone := List.filter_eq_nil_iff.mp hcalls event hevent
  unfold Event.isLastOf at hlast
  split at hlast
  · exact hnone hlast
  · contradiction

/-- A delivery that waits for a listener is an activity. -/
theorem mem_frames_of_listeners {lines : LineDelivery} (hlines : lines ∈ listeners s e h) :
    ⟨e, .listening h lines⟩ ∈ s.frames := by
  obtain ⟨frame, hframe, hlistens⟩ := List.mem_filterMap.mp hlines
  unfold Frame.listens? at hlistens
  split at hlistens
  · split at hlistens
    · next hsame =>
      obtain ⟨rfl, rfl⟩ := hsame
      cases hlistens
      exact hframe
    · contradiction
  · contradiction

/-- The calls of two lists of events, one after the other. -/
theorem calls_append (first second : List Event) :
    calls e h (first ++ second) = calls e h first ++ calls e h second :=
  List.filter_append ..

/-- The calls of the last callback of two lists of events, one after the other. -/
theorem lastCalls_append (first second : List Event) :
    lastCalls e h (first ++ second) = lastCalls e h first ++ lastCalls e h second :=
  List.filter_append ..

/-! ## Deliveries -/

/-- A delivery for its own registration applies the last callback once, or leaves one more
listener running that will end with it. -/
theorem Delivery.handed {operation : Operation} {last : FunctionRef} {turn : Turn}
    (hturn : Delivery s e h operation last turn) :
    (∃ arguments, lastCalls e h turn.events =
          [.applied (lastInvocation e h operation last arguments)] ∧
        (turn.state.frames = s.frames ∨
          turn.state.frames = ⟨e, .concluding operation h last⟩ :: s.frames)) ∨
      (operation = .readFromFile ∧ lastCalls e h turn.events = [] ∧
        ∃ lines, lines.done = last ∧ turn.state.frames = ⟨e, .listening h lines⟩ :: s.frames) := by
  have hafter {turn : Turn} {event : Event} (hevent : event.isLastOf e h = false) :
      lastCalls e h (turn.after [event]).events = lastCalls e h turn.events := by
    change lastCalls e h (event :: turn.events) = _
    rw [lastCalls, List.filter_cons_of_neg (by simp [hevent])]
    rfl
  induction hturn with
  | @concluded arguments exception _ =>
    refine Or.inl ⟨arguments, ?_, Or.inl rfl⟩
    simp [lastCalls, Event.isLastOf, lastInvocation, threwEvent, sayOperation]
  | @concluding arguments _ =>
    refine Or.inl ⟨arguments, ?_, Or.inr rfl⟩
    simp [lastCalls, Event.isLastOf, lastInvocation]
  | @listening lines _ hdone hoperation _ =>
    refine Or.inr ⟨hoperation, ?_, lines, hdone, rfl⟩
    simp [lastCalls, Event.isLastOf, lineInvocation]
  | allLines _ ih | stopped _ ih | refused _ _ ih =>
    rw [hafter rfl]
    exact ih

/-- No listener is added when only the last callback runs. -/
theorem listeners_of_concluding {s' : State} {operation : Operation} {last : FunctionRef}
    (hframes : s'.frames = s.frames ∨
      s'.frames = ⟨e, .concluding operation h last⟩ :: s.frames) :
    listeners s' e h = listeners s e h := by
  rcases hframes with hsame | hconcluding
  · rw [listeners, listeners, hsame]
  · rw [listeners, listeners, hconcluding]
    rfl

/-- A listener that runs is added in front. -/
theorem listeners_of_listening {s' : State} {lines : LineDelivery}
    (hframes : s'.frames = ⟨e, .listening h lines⟩ :: s.frames) :
    listeners s' e h = lines :: listeners s e h := by
  simp [listeners, hframes, Frame.listens?]

/-- A delivery does nothing for another registration. -/
theorem Delivery.quiet {e' : EngineId} {h' : Handle} {operation : Operation} {last : FunctionRef}
    {turn : Turn} (hturn : Delivery s e' h' operation last turn) (hne : ¬(e' = e ∧ h' = h)) :
    Quiet e h s turn := by
  have hafter {turn : Turn} {event : Event} (hevent : event.isCallOf e h = false)
      (hquiet : Quiet e h s turn) : Quiet e h s (turn.after [event]) := by
    refine ⟨?_, hquiet.2⟩
    change calls e h ([event] ++ turn.events) = _
    rw [calls_append, hquiet.1, calls_eq_nil (by simp [hevent])]
    rfl
  induction hturn with
  | concluded _ =>
    refine ⟨calls_eq_nil ?_, rfl⟩
    simpa [Event.isCallOf, lastInvocation, threwEvent, sayOperation] using hne
  | concluding _ =>
    refine ⟨calls_eq_nil ?_, ?_⟩
    · simpa [Event.isCallOf, lastInvocation] using hne
    · rfl
  | listening _ _ _ =>
    refine ⟨calls_eq_nil ?_, ?_⟩
    · simpa [Event.isCallOf, lineInvocation] using hne
    · simp [listeners, Frame.listens?, hne]
  | allLines _ ih | stopped _ ih => exact hafter rfl ih
  | refused _ _ ih => exact hafter (by simpa [Event.isCallOf, lineInvocation] using hne) ih

/-! ## Moves -/

/-- Reporting a fatal error does nothing for a registration. -/
theorem quiet_reportFatal (s : State) (e' : EngineId) (error : ScriptError) :
    Quiet e h s (s.reportFatal e' error) := by
  refine ⟨calls_eq_nil fun event hevent => ?_, ?_⟩
  · rcases events_reportFatal hevent with rfl | rfl <;> rfl
  · rcases state_reportFatal s e' error with hstate | hstate
    · exact congrArg (listeners · e h) hstate
    · exact (congrArg (listeners · e h) hstate).trans rfl

/-- A turn does nothing for a registration when the listening activities stay the same. -/
theorem Quiet.of_frames {s' : State} {turn : Turn} (hquiet : Quiet e h s' turn)
    (hframes : listeners s' e h = listeners s e h) : Quiet e h s turn :=
  ⟨hquiet.1, hquiet.2.trans hframes⟩

/-- A move does nothing for a registration, redeems its ticket, or goes on with its delivery of
lines. -/
theorem Answers.dealt {m : Move} {turn : Turn} (hanswers : Answers s m turn) (e : EngineId)
    (h : Handle) :
    Quiet e h s turn ∨ (∃ t, Redeems s m t ∧ t.engine = e ∧ t.handle = h) ∨
      ∃ outcome lines outer, m = .return_ outcome ∧ s.frames = ⟨e, .listening h lines⟩ :: outer ∧
        Delivery { s with frames := outer } e h .readFromFile lines.done turn := by
  cases hanswers with
  | refused | turnedAway _ _ | called _ _ | issued _ _ _ | stored _ | gone _ _ | unstored _ _ _
  | resumed _ _ _ | abandoned _ => exact Or.inl ⟨rfl, rfl⟩
  | hosted _ huntouched hevents =>
    refine Or.inl ⟨?_, ?_⟩
    · rcases hevents with hnone | ⟨name, hone⟩
      · rw [hnone]
        rfl
      · rw [hone]
        rfl
    · rw [listeners, listeners, huntouched.frames]
  | mismatched _ _ _ _ _ | contextless _ _ _ _ _ _ _ => exact Or.inl (quiet_reportFatal _ _ _)
  | @delivered t _ _ _ _ _ _ hredeems _ _ _ _ hturn =>
    by_cases heq : t.engine = e ∧ t.handle = h
    · exact Or.inr (Or.inl ⟨t, hredeems, heq⟩)
    · exact Or.inl (hturn.quiet heq)
  | @heard e' h' lines outer outcome _ hframes hturn =>
    by_cases heq : e' = e ∧ h' = h
    · obtain ⟨rfl, rfl⟩ := heq
      exact Or.inr (Or.inr ⟨outcome, lines, outer, rfl, hframes, hturn⟩)
    · refine Or.inl ((hturn.quiet heq).of_frames ?_)
      simp [listeners, hframes, Frame.listens?, heq]
  | @concluded _ _ operation last outer outcome hframes =>
    refine Or.inl ⟨calls_eq_nil fun event hevent => ?_, ?_⟩
    · obtain ⟨_, _, _, rfl⟩ := events_conclude hevent
      rfl
    · rw [state_conclude, listeners, listeners, hframes]
      rfl
  | returned hframes | acknowledged hframes | handedOver hframes | reported hframes =>
    refine Or.inl ⟨rfl, ?_⟩
    rw [listeners, listeners, hframes]
    rfl
  | failed hframes =>
    refine Or.inl ((quiet_reportFatal _ _ _).of_frames ?_)
    rw [listeners, listeners, hframes]
    rfl

/-! ## Runs -/

/-- A run that redeems no ticket of a registration, and goes on with no delivery for it, does
nothing for it. -/
theorem quiet_run (hformed : Formed s) (hlisteners : listeners s e h = []) (moves : List Move)
    (hnone : ∀ first m rest t, moves = first ++ m :: rest → Redeems (after s first) m t →
      t.engine = e → t.handle ≠ h) :
    calls e h (trace s moves) = [] ∧ listeners (after s moves) e h = [] := by
  induction moves generalizing s with
  | nil => exact ⟨rfl, hlisteners⟩
  | cons m rest ih =>
    have hstep : Quiet e h s (step s m) := by
      rcases (answers_step hformed.seated m).dealt e h with
        hquiet | ⟨t, hredeems, hengine, hhandle⟩ | ⟨_, lines, outer, -, hframes, -⟩
      · exact hquiet
      · exact absurd hhandle (hnone [] m rest t rfl hredeems hengine)
      · simp [listeners, hframes, Frame.listens?] at hlisteners
    have hrest := ih (hformed.step m) (hstep.2.trans hlisteners)
      fun first m' rest' t heq => hnone (m :: first) m' rest' t (by rw [heq]; rfl)
    refine ⟨?_, hrest.2⟩
    rw [trace_cons, calls_append, hstep.1, hrest.1]
    rfl

end ScriptFiles.Bridge
