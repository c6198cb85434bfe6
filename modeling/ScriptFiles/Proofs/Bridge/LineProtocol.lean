import ScriptFiles.Proofs.Bridge.ExactlyOnce
import ScriptFiles.Proofs.Bridge.OwnTurns

/-!
# Reading a file line by line

What the completion of a call to read by lines does, turn by turn. `readEffects` says it in terms
of the result, the global of the moment and the outcomes of the listener: a failure goes to the
last callback, a missing object global is reported as fatal, and otherwise the listener hears the
lines in order up to the first one it throws at, and the last callback hears how that ended. The
host may do anything in between, also replace the global or let go of the engine.
-/

namespace ScriptFiles.Bridge

/-- The call of the last callback of a delivery of lines. -/
def doneCall (e : EngineId) (h : Handle) (done : FunctionRef) (arguments : List Value) : Event :=
  .applied (lastInvocation e h .readFromFile done arguments)

/-- The calls that deliver lines when the listener ends in these ways, as far as it has ended: the
listener for each line up to the first exception, then the last callback with its text, or with
nothing when all lines were heard. A function of the bridge refuses a line by itself. -/
def lineEffects (e : EngineId) (h : Handle) (this : Value) (listener done : FunctionRef) :
    List Bytes → List Outcome → List Event
  | [], _ => [doneCall e h done []]
  | line :: rest, outcomes =>
    .applied ⟨e, listener, this, [lineValue line], .listener h⟩ ::
      match refusal listener [lineValue line], outcomes with
      | some exception, _ => [doneCall e h done [exception.value]]
      | none, [] => []
      | none, .thrown exception :: _ => [doneCall e h done [exception.value]]
      | none, .value _ :: outcomes => lineEffects e h this listener done rest outcomes

/-- The effects of a completion of a call to read by lines. -/
def readEffects (s : State) (e : EngineId) (h : Handle) (listener done : FunctionRef)
    (outcomes : List Outcome) : NativeResult → List Event
  | .failed error => [doneCall e h done [error.value]]
  | .ok answer =>
    if (s.global e).isObject then
      lineEffects e h (s.global e) listener done (linesOf answer.bytes) outcomes
    else [.fatal e (s.hook e) contextError]

/-- The calls that follow while the listener runs. -/
def heardEffects (e : EngineId) (h : Handle) (lines : LineDelivery) : List Outcome → List Event
  | [] => []
  | .thrown exception :: _ => [doneCall e h lines.done [exception.value]]
  | .value _ :: outcomes =>
    lineEffects e h lines.this lines.listener lines.done lines.rest.lines outcomes

variable (s : State) (e : EngineId) (h : Handle)

/-- A listener that refuses a line is not called again. -/
theorem lineEffects_of_refusal {this : Value} {listener done : FunctionRef} {line : Bytes}
    {exception : ScriptException} (hrefusal : refusal listener [lineValue line] = some exception)
    (rest : List Bytes) (outcomes : List Outcome) :
    lineEffects e h this listener done (line :: rest) outcomes =
      [.applied ⟨e, listener, this, [lineValue line], .listener h⟩,
        doneCall e h done [exception.value]] := by
  unfold lineEffects
  rw [hrefusal]

/-- After a listener of the host was called with a line, its outcome decides. -/
theorem lineEffects_of_host (lines : LineDelivery) {line : Bytes} {rest : List Bytes}
    (hhost : lines.listener.body = .host) (hrest : lines.rest.lines = rest)
    (outcomes : List Outcome) :
    lineEffects e h lines.this lines.listener lines.done (line :: rest) outcomes =
      .applied (lineInvocation e h lines line) :: heardEffects e h lines outcomes := by
  unfold lineEffects
  rw [refusal_of_host hhost]
  subst hrest
  rcases outcomes with _ | ⟨outcome | exception, outcomes⟩ <;> rfl

/-- A listener that throws at no line hears the lines in order, each after it has ended with the one
before, and then the last callback is called. -/
theorem lineEffects_of_values {this : Value} {listener done : FunctionRef} {lines : List Bytes}
    {outcomes : List Outcome}
    (hlistens : ∀ line ∈ lines, refusal listener [lineValue line] = none)
    (hvalues : ∀ outcome ∈ outcomes.take lines.length, ∃ value, outcome = .value value) :
    lineEffects e h this listener done lines outcomes =
      ((lines.take (outcomes.length + 1)).map fun line =>
          .applied ⟨e, listener, this, [lineValue line], .listener h⟩) ++
        if lines.length ≤ outcomes.length then [doneCall e h done []] else [] := by
  induction lines generalizing outcomes with
  | nil => simp [lineEffects]
  | cons line rest ih =>
    rw [List.forall_mem_cons] at hlistens
    unfold lineEffects
    rw [hlistens.1]
    cases outcomes with
    | nil => simp
    | cons outcome outcomes =>
      rw [List.length_cons, List.take_succ_cons, List.forall_mem_cons] at hvalues
      obtain ⟨⟨value, rfl⟩, hrest⟩ := hvalues
      simp [ih hlistens.2 hrest]

/-- The effects of events before a turn come first. -/
@[simp] theorem effects_after (turn : Turn) (events : List Event) :
    effects (turn.after events).events = effects events ++ effects turn.events :=
  List.filter_append ..

/-- Applying the last callback is one call, and nothing else follows. -/
theorem applyLast_effects (operation : Operation) (last : FunctionRef) (arguments : List Value)
    (hshort : arguments.length ≤ 1) :
    effects (s.applyLast e h operation last arguments).events =
        [.applied (lastInvocation e h operation last arguments)] ∧
      ((s.applyLast e h operation last arguments).state.frames = s.frames ∨
        (s.applyLast e h operation last arguments).state.frames =
          ⟨e, .concluding operation h last⟩ :: s.frames) := by
  rcases refusal_or_host last arguments hshort with ⟨exception, hrefusal⟩ | hhost
  · rw [applyLast_of_refusal s e h hrefusal]
    exact ⟨rfl, Or.inl rfl⟩
  · rw [applyLast_of_host s e h arguments hhost]
    exact ⟨rfl, Or.inr rfl⟩

/-- Ending the lines at an exception is one call of the last callback with its text. -/
theorem stopLines_effects (lines : LineDelivery) (exception : ScriptException) :
    effects (s.stopLines e h lines exception).events =
        [doneCall e h lines.done [exception.value]] ∧
      ((s.stopLines e h lines exception).state.frames = s.frames ∨
        (s.stopLines e h lines exception).state.frames =
          ⟨e, .concluding .readFromFile h lines.done⟩ :: s.frames) := by
  obtain ⟨heffects, hframes⟩ := applyLast_effects s e h .readFromFile lines.done
    [exception.value] (Nat.le_refl 1)
  refine ⟨?_, hframes⟩
  rw [State.stopLines, effects_after, heffects]
  rfl

variable {s e h} {base : List Frame}

/-- After a turn that leaves at most an activity that only ends, nothing has an effect. -/
theorem turnEffects_of_rest (hformed : Formed s) (moves : List Move) {frame : Frame}
    (hframes : s.frames = base ∨ s.frames = frame :: base)
    (hfinal : frame.activity.isFinal = true) : turnEffects (ownTurns base.length s moves) = [] := by
  rcases hframes with hended | hrest
  · rw [ownTurns_of_ended moves hended]
    rfl
  · exact turnEffects_of_final hformed moves [] hrest hfinal

/-- Going on to the next line either comes to an end with the last callback, or calls the listener
and leaves the rest to what the listener does. -/
theorem nextLine_cases (s : State) (e : EngineId) (h : Handle) (lines : LineDelivery) :
    (((s.nextLine e h lines).state.frames = s.frames ∨
          (s.nextLine e h lines).state.frames =
            ⟨e, .concluding .readFromFile h lines.done⟩ :: s.frames) ∧
        ∀ outcomes, lineEffects e h lines.this lines.listener lines.done lines.rest.lines outcomes =
          effects (s.nextLine e h lines).events) ∨
      ∃ lines', (s.nextLine e h lines).state.frames = ⟨e, .listening h lines'⟩ :: s.frames ∧
        ∀ outcomes, lineEffects e h lines.this lines.listener lines.done lines.rest.lines outcomes =
          effects (s.nextLine e h lines).events ++ heardEffects e h lines' outcomes := by
  cases hnext : lines.rest.next? with
  | none =>
    obtain ⟨heffects, hframes⟩ := applyLast_effects s e h .readFromFile lines.done
      [] (Nat.zero_le 1)
    rw [nextLine_of_none s e h hnext]
    refine Or.inl ⟨hframes, fun outcomes => ?_⟩
    rw [Cursor.lines_of_none hnext, effects_after, heffects]
    rfl
  | some next =>
    obtain ⟨line, rest⟩ := next
    rcases refusal_or_host lines.listener [lineValue line] (Nat.le_refl 1) with
      ⟨exception, hrefusal⟩ | hhost
    · obtain ⟨heffects, hframes⟩ := stopLines_effects s e h lines exception
      rw [nextLine_of_refusal s e h hnext hrefusal]
      refine Or.inl ⟨hframes, fun outcomes => ?_⟩
      rw [Cursor.lines_of_some hnext, lineEffects_of_refusal e h hrefusal, effects_after, heffects]
      rfl
    · rw [nextLine_of_host s e h hnext hhost]
      refine Or.inr ⟨{ lines with rest := rest, delivered := lines.delivered + 1 }, rfl,
        fun outcomes => ?_⟩
      have hlines : lines.rest.lines = line :: rest.lines := Cursor.lines_of_some hnext
      rw [hlines]
      exact lineEffects_of_host e h { lines with rest := rest, delivered := lines.delivered + 1 }
        hhost rfl outcomes

/-- A run goes on after the next line as the outcomes of the listener say, if it does so whenever
the listener is called. -/
theorem nextLine_effects {lines : LineDelivery} {moves : List Move} (hbase : s.frames = base)
    (hformed : Formed (s.nextLine e h lines).state)
    (hheard : ∀ lines',
      (s.nextLine e h lines).state.frames = ⟨e, .listening h lines'⟩ :: base →
      turnEffects (ownTurns base.length (s.nextLine e h lines).state moves) =
        heardEffects e h lines'
          (turnOutcomes (ownTurns base.length (s.nextLine e h lines).state moves))) :
    effects (s.nextLine e h lines).events ++
        turnEffects (ownTurns base.length (s.nextLine e h lines).state moves) =
      lineEffects e h lines.this lines.listener lines.done lines.rest.lines
        (turnOutcomes (ownTurns base.length (s.nextLine e h lines).state moves)) := by
  rcases nextLine_cases s e h lines with ⟨hframes, hlines⟩ | ⟨lines', hframes, hlines⟩
  · rw [hbase] at hframes
    rw [hlines, turnEffects_of_rest hformed moves hframes rfl, List.append_nil]
  · rw [hbase] at hframes
    rw [hlines, hheard lines' hframes]

/-- What the host ends while a listener runs is that listener, or nothing. -/
theorem step_of_listening {m : Move} {lines : LineDelivery}
    (hframes : s.frames = ⟨e, .listening h lines⟩ :: base) (hends : m.ends = true) :
    (m.outcome? = none ∧ step s m = refuse s) ∨
      ∃ outcome, m = .return_ outcome ∧
        step s m =
          match outcome with
          | .value _ => State.nextLine { s with frames := base } e h lines
          | .thrown exception => State.stopLines { s with frames := base } e h lines exception := by
  cases m with
  | return_ outcome => exact Or.inr ⟨outcome, rfl, step_return_listening hframes outcome⟩
  | acknowledge | delivered error | reported => exact Or.inl ⟨rfl, by simp only [step, hframes]⟩
  | _ => contradiction

/-- A run goes on while a listener runs as the outcomes of the listener say. -/
theorem listening_effects (hformed : Formed s) (moves : List Move) (inner : List Frame)
    {lines : LineDelivery} (hframes : s.frames = inner ++ ⟨e, .listening h lines⟩ :: base) :
    turnEffects (ownTurns base.length s moves) =
      heardEffects e h lines (turnOutcomes (ownTurns base.length s moves)) := by
  induction moves generalizing s inner lines with
  | nil => rfl
  | cons m rest ih =>
    have hformedStep := hformed.step m
    by_cases hown : s.frames.length = base.length + 1 ∧ m.ends = true
    · have hinnermost := frames_of_length hframes hown.1
      rw [ownTurns_of_innermost rest hinnermost hown.2, turnEffects_cons]
      rcases step_of_listening hinnermost hown.2 with ⟨houtcome, hstep⟩ | ⟨outcome, rfl, hstep⟩
      · rw [turnOutcomes_of_none houtcome, hstep]
        exact ih hformed [] hinnermost
      · rw [turnOutcomes_return]
        cases outcome with
        | value v =>
          rw [hstep] at hformedStep ⊢
          exact nextLine_effects rfl hformedStep fun lines' hafter =>
            ih hformedStep [] hafter
        | thrown exception =>
          rw [hstep] at hformedStep ⊢
          obtain ⟨heffects, hafter⟩ :=
            stopLines_effects { s with frames := base } e h lines exception
          change effects
            (State.stopLines { s with frames := base } e h lines exception).events ++ _ = _
          rw [heffects, turnEffects_of_rest hformedStep rest hafter rfl]
          rfl
    · obtain ⟨inner', hafter⟩ := (answers_step hformed.seated m).keeps hframes nofun hown
      rw [ownTurns_of_other rest hframes hown]
      exact ih hformedStep inner' hafter

/-- Reporting a fatal error has that one effect. -/
theorem reportFatal_effects (s : State) (e : EngineId) (error : ScriptError) :
    effects (s.reportFatal e error).events = [.fatal e (s.hook e) error] ∧
      ((s.reportFatal e error).state.frames = s.frames ∨
        (s.reportFatal e error).state.frames = ⟨e, .reporting⟩ :: s.frames) := by
  unfold State.reportFatal
  split
  · next hook hhook =>
    rw [hhook]
    exact ⟨rfl, Or.inr rfl⟩
  · next hhook =>
    rw [hhook]
    exact ⟨rfl, Or.inl rfl⟩

/-- Handing over the result of reading by lines has the effects of the protocol. -/
theorem complete_effects (listener done : FunctionRef) (result : NativeResult) (later : List Move)
    (hformed : Formed (s.complete e h .readFromFile ⟨some listener, done⟩ result).state) :
    let turn := s.complete e h .readFromFile ⟨some listener, done⟩ result
    let own := ownTurns s.frames.length turn.state later
    effects turn.events ++ turnEffects own =
      readEffects s e h listener done (turnOutcomes own) result := by
  cases result with
  | failed error =>
    obtain ⟨heffects, hframes⟩ := applyLast_effects s e h .readFromFile done [error.value]
      (Nat.le_refl 1)
    change effects (s.applyLast e h .readFromFile done [error.value]).events ++ _ = _
    rw [heffects, turnEffects_of_rest hformed later hframes rfl]
    rfl
  | ok answer =>
    cases hobject : (s.global e).isObject with
    | true =>
      have hturn : s.complete e h .readFromFile ⟨some listener, done⟩ (.ok answer) =
          s.nextLine e h ⟨s.global e, listener, done, ⟨answer.bytes⟩, 0⟩ := by
        simp only [State.complete, hobject, if_true]
      rw [hturn] at hformed ⊢
      simp only [readEffects, hobject, if_true]
      exact nextLine_effects rfl hformed fun lines' hafter =>
        listening_effects hformed later [] hafter
    | false =>
      have hturn : s.complete e h .readFromFile ⟨some listener, done⟩ (.ok answer) =
          s.reportFatal e contextError := by
        simp only [State.complete, hobject, Bool.false_eq_true, if_false]
        rfl
      obtain ⟨heffects, hframes⟩ := reportFatal_effects s e contextError
      rw [hturn] at hformed ⊢
      simp only [readEffects, hobject, Bool.false_eq_true, if_false]
      rw [heffects, turnEffects_of_rest hformed later hframes rfl]
      rfl

/-! ## No other calls -/

/-- Calls are effects. -/
@[simp] theorem calls_effects (events : List Event) :
    calls e h (effects events) = calls e h events := by
  rw [calls, effects, List.filter_filter]
  refine List.filter_congr fun event _ => ?_
  cases event <;> simp [Event.isEffect, Event.isCallOf]

/-- No listener of a registration runs but the one in the activity with these outside it. -/
def Placed (base : List Frame) (s : State) (e : EngineId) (h : Handle) : Prop :=
  listeners s e h = [] ∨
    ∃ inner lines, s.frames = inner ++ ⟨e, .listening h lines⟩ :: base ∧ listeners s e h = [lines]

/-- A delivery leaves its listener directly on the activities outside it. -/
theorem Delivery.placed {operation : Operation} {last : FunctionRef} {turn : Turn}
    (hturn : Delivery s e h operation last turn) (hlisteners : listeners s e h = []) :
    Placed s.frames turn.state e h := by
  rcases hturn.handed with ⟨_, -, hframes⟩ | ⟨-, -, lines, -, hframes⟩
  · exact Or.inl ((listeners_of_concluding hframes).trans hlisteners)
  · refine Or.inr ⟨[], lines, hframes, ?_⟩
    rw [listeners_of_listening hframes, hlisteners]

/-- The callbacks of a redeemed registration are called in the turns of its own activity only. -/
theorem Reserved.own_calls {t : Ticket} {values : List Value} (hreserved : Reserved s t values)
    (hformed : Formed s) (hregistered : Registered s) (hspent : Spent s t.id) (moves : List Move)
    (hfew : (Bridge.after s moves).ticketCount < UInt64.size)
    (hplaced : Placed base s t.engine t.handle) :
    calls t.engine t.handle (trace s moves) =
      calls t.engine t.handle (turnEffects (ownTurns base.length s moves)) := by
  induction moves generalizing s with
  | nil => rfl
  | cons m rest ih =>
    rcases hplaced with hnone | ⟨inner, lines, hframes, hlisteners⟩
    · have hcalls := hreserved.spent_run hformed hregistered hspent hnone (m :: rest) hfew
      have hsublist := (sublist_ownTurns base.length s (m :: rest)).filter
        (Event.isCallOf t.engine t.handle)
      rw [hcalls]
      exact (List.sublist_nil.mp (hcalls ▸ hsublist)).symm
    · have hfewStep := (hformed.step m).few hfew
      have hrest := ih (hreserved.step hformed hregistered hfewStep) (hformed.step m)
        (hregistered.step hformed hfewStep) (hspent.step hformed m) hfew
      rw [trace_cons, calls_append]
      by_cases hown : s.frames.length = base.length + 1 ∧ m.ends = true
      · have hinnermost := frames_of_length hframes hown.1
        rw [ownTurns_of_innermost rest hinnermost hown.2, turnEffects_cons, calls_append,
          calls_effects, hrest]
        rcases step_of_listening hinnermost hown.2 with ⟨-, hstep⟩ | ⟨outcome, rfl, hstep⟩
        · rw [hstep]
          exact Or.inr ⟨inner, lines, hframes, hlisteners⟩
        · have hwaits := listeners_of_listening (s := { s with frames := base }) hinnermost
          rw [hlisteners, List.cons.injEq] at hwaits
          have hbase : listeners { s with frames := base } t.engine t.handle = [] := hwaits.2.symm
          rw [hstep]
          cases outcome with
          | value v => exact (delivery_nextLine _ t.engine t.handle lines).placed hbase
          | thrown exception =>
            exact (delivery_stopLines _ t.engine t.handle lines exception).placed hbase
      · obtain ⟨inner', hafter⟩ := (answers_step hformed.seated m).keeps hframes nofun hown
        have hquiet : Quiet t.engine t.handle s (Bridge.step s m) := by
          rcases (answers_step hformed.seated m).dealt t.engine t.handle with
            hquiet | ⟨u, hredeems, hengine, hhandle⟩ | ⟨outcome, heard, outer, rfl, hinnermost, -⟩
          · exact hquiet
          · obtain rfl := hreserved.alone u hredeems.mem hengine hhandle
            exact absurd rfl (hspent.gone u hredeems.mem)
          · -- a second listener of the same registration would run
            cases inner with
            | nil => exact absurd ⟨by rw [hframes]; rfl, rfl⟩ hown
            | cons first inner =>
              rw [hinnermost, List.cons_append, List.cons.injEq] at hframes
              obtain ⟨rfl, rfl⟩ := hframes
              simp [listeners, hinnermost, Frame.listens?] at hlisteners
        rw [ownTurns_of_other rest hframes hown, hquiet.1, List.nil_append]
        exact hrest (Or.inr ⟨inner', lines, hafter, hquiet.2.trans hlisteners⟩)

/-! ## The protocol -/

/-- The values stored for a waiting ticket are reserved for it. -/
theorem Registered.reserved {t : Ticket} {values : List Value} (hregistered : Registered s)
    (hformed : Formed s) (ht : t ∈ s.tickets)
    (hstored : (s.registry t.engine).get? t.handle = some values) : Reserved s t values where
  drawn := hregistered.drawn ht
  counted := (hformed.tickets t ht).2
  alone u hu hengine hhandle := hregistered.apart u hu t ht hengine hhandle
  numbered u hu hid := hformed.distinct u hu t ht hid
  stored _ := hstored

/-- A completion makes all calls of its callbacks in its own turns. -/
theorem calls_of_completion {before later : List Move} {t : Ticket} {operation : Operation}
    {result : NativeResult} (callbacks : Callbacks)
    (hredeems : Redeems (after {} before) (.fire t.id result) t)
    (hpurpose : t.purpose = .operation operation)
    (hlength : callbacks.functions.length = operation.callbackCount)
    (hstored : ((after {} before).registry t.engine).get? t.handle =
      some (callbacks.functions.map Value.function))
    (hfew : (after {} (before ++ .fire t.id result :: later)).ticketCount < UInt64.size) :
    let fired := step (after {} before) (.fire t.id result)
    let own := ownTurns (after {} before).frames.length fired.state later
    calls t.engine t.handle (trace {} (before ++ .fire t.id result :: later)) =
      calls t.engine t.handle (effects fired.events ++ turnEffects own) := by
  have hformed := formed_empty.after before
  have hfewBefore := formed_empty.few_append hfew
  rw [after_append, after_cons] at hfew
  have hformedStep := hformed.step (.fire t.id result)
  have hfewStep := hformedStep.few hfew
  have hregistered := registered_after before hfewBefore
  obtain ⟨hnone, hlisteners⟩ := unused_of_mem before hredeems.mem hfewBefore
  have hreserved := hregistered.reserved hformed hredeems.mem hstored
  have hplaced : Placed (after {} before).frames
      (step (after {} before) (.fire t.id result)).state t.engine t.handle := by
    rcases hreserved.completed hlength hpurpose hredeems with
      ⟨-, hquiet⟩ | ⟨-, heap, hturn⟩
    · exact Or.inl (hquiet.2.trans hlisteners)
    · exact hturn.placed hlisteners
  have hown := (hreserved.step hformed hregistered hfewStep).own_calls hformedStep
    (hregistered.step hformed hfewStep) (hredeems.spent hformed) later hfew hplaced
  simp only [trace_append, trace_cons, calls_append, calls_effects, hnone, hown, List.nil_append]

/-- Taking a registration out changes nothing that reading by lines looks at. -/
theorem readEffects_settle (s : State) (t : Ticket) (e : EngineId) (h : Handle)
    (listener done : FunctionRef) (outcomes : List Outcome) (result : NativeResult) :
    readEffects (s.settle t) e h listener done outcomes result =
      readEffects s e h listener done outcomes result := by
  cases result <;> simp only [readEffects, State.global_settle, State.hook_settle]

/-- The callbacks stored for a waiting ticket are the arguments of the call that got it. -/
theorem callbacks_of_call {first rest : List Move} {m : Move} {invocation : Invocation}
    {t : Ticket} {listener done : FunctionRef}
    (hfew : (after {} (first ++ m :: rest)).ticketCount < UInt64.size)
    (hevent : .applied invocation ∈ (step (after {} first) m).events)
    (haccepted : invocation.accepted? = some .readFromFile)
    (hrequested : .requested t.engine t.id t.handle
      (Operation.request .readFromFile invocation.arguments) ∈ (step (after {} first) m).events)
    (ht : t ∈ (after {} (first ++ m :: rest)).tickets)
    (hstored : ((after {} (first ++ m :: rest)).registry t.engine).get? t.handle =
      some [.function listener, .function done]) :
    ∃ path, invocation.arguments = [path, .function listener, .function done] := by
  have hformed := formed_empty.after first
  have hregistered := registered_after first (formed_empty.few_append hfew)
  obtain ⟨-, ⟨label, hnone⟩, hturn⟩ := (answers_step hformed.seated m).eq_issuing hevent haccepted
  obtain ⟨u, callbacks, hissued⟩ := hregistered.issued hformed (few_step hfew) hevent haccepted
  have hid : t.id = u.id := by
    have hother := hissued.requested
    rw [hturn] at hrequested hother
    simp only [issuing, issuedEvent, sayOperation, List.mem_cons, reduceCtorEq, false_or,
      List.not_mem_nil, or_false, Event.requested.injEq] at hrequested hother
    rw [hrequested.2.1, hother.2.1]
  have hreserved := hissued.reserved_run hfew
  obtain rfl := hreserved.numbered t ht hid
  have hvalues := hreserved.stored ht
  rw [hstored, Option.some.injEq] at hvalues
  obtain ⟨path, harguments⟩ := Operation.arguments_of_accepted hnone
  exact ⟨path, by rw [harguments, hissued.values, ← hvalues]⟩

/-- A waiting ticket of reading by lines has a listener and a last callback stored. -/
theorem Registered.read_callbacks {t : Ticket} (hregistered : Registered s) (ht : t ∈ s.tickets)
    (hpurpose : t.purpose = .operation .readFromFile) :
    ∃ listener done,
      (s.registry t.engine).get? t.handle = some [.function listener, .function done] := by
  obtain ⟨⟨listener, done⟩, hget, hlength, -⟩ := hregistered.callbacks ht hpurpose
  have hsome := (Callbacks.isSome_listener_iff hlength).mpr rfl
  obtain ⟨listener, rfl⟩ := Option.isSome_iff_exists.mp hsome
  exact ⟨listener, done, hget⟩

/-- The completion of reading by lines has the effects of the protocol. -/
theorem Redeems.read_effects {t : Ticket} {listener done : FunctionRef} {result : NativeResult}
    (hredeems : Redeems s (.fire t.id result) t) (hformed : Formed s)
    (hpurpose : t.purpose = .operation .readFromFile) (halive : s.isAlive t.engine = true)
    (hstored : (s.registry t.engine).get? t.handle = some [.function listener, .function done])
    (later : List Move) :
    let fired := step s (.fire t.id result)
    let own := ownTurns s.frames.length fired.state later
    effects fired.events ++ turnEffects own =
      readEffects s t.engine t.handle listener done (turnOutcomes own) result := by
  have hturn : step s (.fire t.id result) = (s.settle t).complete t.engine t.handle .readFromFile
      ⟨some listener, done⟩ result :=
    hredeems.step_complete hpurpose halive hstored rfl
  have hafter := hformed.step (.fire t.id result)
  rw [hturn] at hafter ⊢
  exact (complete_effects listener done result later hafter).trans
    (readEffects_settle s t t.engine t.handle listener done _ result)

/-- The protocol of reading by lines. Take a completion of such a call that finds its engine
alive. With few enough registrations two functions are stored for it. Whatever functions are
stored, the effects of the turn in which it fires and of its own turns from then on are those of
`readEffects`: a failure goes to the last callback alone, a global that is no object is reported
as fatal and nothing is called, and otherwise the listener hears the lines in order, with the
global of the moment in which the completion fired, up to the first line it throws at, and the
last callback hears how that ended. With few enough registrations the callbacks are the arguments
of the call, and no other turn of the run calls them for it. -/
theorem read_from_file_protocol (before later : List Move) {t : Ticket} {result : NativeResult}
    (hredeems : Redeems (after {} before) (.fire t.id result) t)
    (hpurpose : t.purpose = .operation .readFromFile)
    (halive : (after {} before).isAlive t.engine = true) :
    let s := after {} before
    let fired := step s (.fire t.id result)
    let own := ownTurns s.frames.length fired.state later
    (s.ticketCount < UInt64.size →
      ∃ listener done,
        (s.registry t.engine).get? t.handle = some [.function listener, .function done]) ∧
    ∀ listener done,
      (s.registry t.engine).get? t.handle = some [.function listener, .function done] →
      effects fired.events ++ turnEffects own =
        readEffects s t.engine t.handle listener done (turnOutcomes own) result ∧
      ((after {} (before ++ .fire t.id result :: later)).ticketCount < UInt64.size →
        calls t.engine t.handle (trace {} (before ++ .fire t.id result :: later)) =
          calls t.engine t.handle
            (readEffects s t.engine t.handle listener done (turnOutcomes own) result)) ∧
      (s.ticketCount < UInt64.size →
        ∀ first m rest, before = first ++ m :: rest →
          ∀ invocation, .applied invocation ∈ (step (after {} first) m).events →
            invocation.accepted? = some .readFromFile →
            .requested t.engine t.id t.handle
              (Operation.request .readFromFile invocation.arguments) ∈
                (step (after {} first) m).events →
            ∃ path, invocation.arguments = [path, .function listener, .function done]) := by
  intro s fired own
  have hformed : Formed s := formed_empty.after before
  refine ⟨fun hfew => (registered_after before hfew).read_callbacks hredeems.mem hpurpose,
    fun listener done hstored => ?_⟩
  have heffects : effects fired.events ++ turnEffects own =
      readEffects s t.engine t.handle listener done (turnOutcomes own) result :=
    hredeems.read_effects hformed hpurpose halive hstored later
  refine ⟨heffects, fun hfew => ?_, ?_⟩
  · rw [← heffects]
    exact calls_of_completion ⟨some listener, done⟩ hredeems hpurpose rfl hstored hfew
  · rintro hfew first m rest rfl invocation hevent haccepted hrequested
    exact callbacks_of_call hfew hevent haccepted hrequested hredeems.mem hstored

/-- Two lines are delivered: the listener replaces the global when it hears the first one and
throws at the second one. It hears both with the global of the moment in which the completion
fired, and the last callback hears the text of the exception. -/
theorem read_from_file_protocol_two_lines :
    let s := after {} callToRead
    let listener : FunctionRef := ⟨1, "listener", .host⟩
    let done : FunctionRef := ⟨2, "done", .host⟩
    let result : NativeResult := .ok (.content [97, 10, 98])
    let later : List Move :=
      [.setGlobal 0 .undefined, .return_ (.value .undefined),
        .return_ (.thrown ⟨.typeError, "no more", none⟩), .return_ (.value .undefined)]
    Redeems s (.fire 0 result) ⟨0, 0, ⟨1⟩, .operation .readFromFile⟩ ∧ s.isAlive 0 = true ∧
      effects (step s (.fire 0 result)).events ++
          turnEffects (ownTurns s.frames.length (step s (.fire 0 result)).state later) =
        [.applied ⟨0, listener, s.global 0, [.string "a"], .listener ⟨1⟩⟩,
          .applied ⟨0, listener, s.global 0, [.string "b"], .listener ⟨1⟩⟩,
          .applied ⟨0, done, .undefined, [.string "TypeError: no more"],
            .last .readFromFile ⟨1⟩⟩] := by
  intro s listener done result later
  let t : Ticket := ⟨0, 0, ⟨1⟩, .operation .readFromFile⟩
  have hredeems : Redeems s (.fire t.id result) t := .fire (by decide) rfl (by decide)
  have halive : s.isAlive t.engine = true := by decide
  obtain ⟨-, hprotocol⟩ := read_from_file_protocol callToRead later hredeems rfl halive
  obtain ⟨heffects, -⟩ := hprotocol listener done (by decide)
  have houtcomes :
      turnOutcomes (ownTurns s.frames.length (step s (.fire t.id result)).state later) =
        [.value .undefined, .thrown ⟨.typeError, "no more", none⟩, .value .undefined] := by
    decide
  refine ⟨hredeems, halive, heffects.trans ?_⟩
  rw [houtcomes]
  decide +kernel

end ScriptFiles.Bridge
