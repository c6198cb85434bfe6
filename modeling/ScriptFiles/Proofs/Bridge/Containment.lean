import ScriptFiles.Proofs.Bridge.Exceptions

/-!
# Exceptions stay inside, errors come out once

Over a whole run, the warnings are those about the exceptions of last callbacks, one for each and
in order, and the fatal errors are those that deliveries returned, each reported once: to the hook
of that moment, which the host is asked to run once, or in one log entry when there is none. No
exception of a callback ends a call, an entry point that completed before it returned included,
and none reaches a hook.
-/

namespace ScriptFiles.Bridge

/-! ## Reading a run move by move -/

/-- What is read off the moves of a run and the states they are made in, in order. -/
def along {α : Type} (read : State → Move → List α) (s : State) : List Move → List α
  | [] => []
  | m :: rest => read s m ++ along read (step s m).state rest

section Along

variable {α β : Type} {s : State} {moves : List Move}

/-- Two readings that agree on every move of a run agree on the run. -/
theorem along_congr {first second : State → Move → List α}
    (hread : ∀ before m later, moves = before ++ m :: later →
      first (after s before) m = second (after s before) m) :
    along first s moves = along second s moves := by
  induction moves generalizing s with
  | nil => rfl
  | cons m rest ih =>
    have hhead := hread [] m rest rfl
    have htail := ih (s := (step s m).state) fun before m' later heq =>
      hread (m :: before) m' later (by rw [heq]; rfl)
    rw [along, along, htail]
    exact congrArg (· ++ _) hhead

/-- A reading of a run can be filtered move by move. -/
theorem along_filter (read : State → Move → List α) (p : α → Bool) :
    (along read s moves).filter p = along (fun s m => (read s m).filter p) s moves := by
  induction moves generalizing s with
  | nil => rfl
  | cons m rest ih => rw [along, along, List.filter_append, ih]

/-- A reading of a run can be mapped move by move. -/
theorem along_filterMap (read : State → Move → List α) (f : α → Option β) :
    (along read s moves).filterMap f = along (fun s m => (read s m).filterMap f) s moves := by
  induction moves generalizing s with
  | nil => rfl
  | cons m rest ih => rw [along, along, List.filterMap_append, ih]

/-- The events of a run are read off its moves. -/
theorem trace_eq_along : trace s moves = along (fun s m => (step s m).events) s moves := by
  induction moves generalizing s with
  | nil => rfl
  | cons m rest ih => rw [trace_cons, along, ih]

/-- What the turns of a run have at most once each is read off its moves. -/
theorem filterMap_run_eq_along (f : Turn → Option α) :
    (run s moves).filterMap f = along (fun s m => (f (step s m)).toList) s moves := by
  induction moves generalizing s with
  | nil => rfl
  | cons m rest ih =>
    rw [along, ← ih, run, List.filterMap_cons]
    cases f (step s m) <;> rfl

/-- Mapping the only element of a list is mapping it. -/
theorem filterMap_toList_some (f : α → Option β) (a : α) :
    (some a).toList.filterMap f = (f a).toList := by
  rw [Option.toList_some, List.filterMap_cons]
  cases f a <;> rfl

end Along

/-! ## Failures -/

/-- The failures that moves bring about. -/
def failures (s : State) (m : Move) : List Failure :=
  (failure? s m).toList

/-- The report of a failure. -/
def Failure.event (failure : Failure) : Event :=
  .fatal failure.engine failure.hook failure.error

/-- The log entry of a failure without a hook. -/
def Failure.entry? (failure : Failure) : Option Event :=
  match failure.hook with
  | none => some (fatalEvent failure.error)
  | some _ => none

/-- The hook that has to run for a failure. -/
def Failure.report? (failure : Failure) : Option (EngineId × HookId × ScriptError) :=
  failure.hook.map fun hook => (failure.engine, hook, failure.error)

variable {s : State} {m : Move} {turn : Turn}

/-- Reporting a failure is one report, one log entry without a hook and one hook with one. -/
theorem reportFatal_counts {s' : State} {failure : Failure}
    (hhook : s'.hook failure.engine = failure.hook) :
    let turn := s'.reportFatal failure.engine failure.error
    turn.events.filter Event.isFatal = [failure.event] ∧
      turn.events.filter (Event.hasLevel .error) = failure.entry?.toList ∧
      turn.events.filter (Event.hasLevel .warn) = [] ∧
      turn.events.filterMap Event.throw? = [] ∧ turn.report? = failure.report? := by
  obtain ⟨e, hook, error⟩ := failure
  obtain rfl : s'.hook e = hook := hhook
  cases hhook : s'.hook e with
  | none =>
    simp only [State.reportFatal, hhook]
    exact ⟨rfl, rfl, rfl, rfl, rfl⟩
  | some hook =>
    simp only [State.reportFatal, hhook]
    exact ⟨rfl, rfl, rfl, rfl, rfl⟩

namespace Course

variable (hcourse : Course s m turn)

include hcourse

/-- The reports of fatal errors in a turn are those of its failures. -/
theorem fatal_eq : turn.events.filter Event.isFatal = (failures s m).map Failure.event := by
  cases hcourse with
  | still _ hfailure hstill =>
    rw [hstill.fatal, failures, hfailure]
    rfl
  | contained hfailure hcontained =>
    rw [hcontained.fatal, failures, hfailure]
    rfl
  | fatal _ _ hfailure _ hhook hturn =>
    rw [hturn, (reportFatal_counts hhook).1, failures, hfailure]
    rfl

/-- The log entries about errors in a turn are those of its failures without a hook. -/
theorem errors_eq :
    turn.events.filter (Event.hasLevel .error) = (failures s m).filterMap Failure.entry? := by
  cases hcourse with
  | still _ hfailure hstill =>
    rw [hstill.errors, failures, hfailure]
    rfl
  | contained hfailure hcontained =>
    rw [hcontained.errors, failures, hfailure]
    rfl
  | fatal _ _ hfailure _ hhook hturn =>
    rw [hturn, (reportFatal_counts hhook).2.1, failures, hfailure, filterMap_toList_some]

/-- The hook that has to run after a turn is that of its failure. -/
theorem report_eq : turn.report?.toList = (failures s m).filterMap Failure.report? := by
  cases hcourse with
  | still _ hfailure hstill =>
    rw [hstill.report, failures, hfailure]
    rfl
  | contained hfailure hcontained =>
    rw [hcontained.report, failures, hfailure]
    rfl
  | fatal _ _ hfailure _ hhook hturn =>
    rw [hturn, (reportFatal_counts hhook).2.2.2.2, failures, hfailure, filterMap_toList_some]

/-- The warnings in a turn are those about the exceptions of last callbacks, unless stored values
are missing. -/
theorem warnings_eq (hstored : ∀ event ∈ turn.events, ∀ h, event ≠ unstoredEvent h) :
    turn.events.filter (Event.hasLevel .warn) =
      (ended s m ++ turn.events.filterMap Event.throw?).filterMap Throw.warning? := by
  cases hcourse with
  | still hended _ hstill =>
    rw [hended, hstill.throws, List.filter_eq_nil_iff.mpr]
    · rfl
    · intro event hevent hwarn
      obtain ⟨h, heq⟩ := hstill.warnings event hevent hwarn
      exact hstored event hevent h heq
  | contained _ hcontained => exact hcontained.warnings
  | fatal _ hended _ _ hhook hturn =>
    obtain ⟨-, -, hwarnings, hthrows, -⟩ := reportFatal_counts hhook
    rw [hturn, hended, hwarnings, hthrows]
    rfl

/-- A turn in which callbacks throw contains the exceptions and brings about no failure. -/
theorem contained_of_throw {thrown : Throw}
    (hthrown : thrown ∈ ended s m ++ turn.events.filterMap Event.throw?) :
    failure? s m = none ∧ Contained (reading? s m) (under s m) (ended s m) turn := by
  cases hcourse with
  | still hended _ hstill =>
    rw [hended, hstill.throws] at hthrown
    contradiction
  | contained hfailure hcontained => exact ⟨hfailure, hcontained⟩
  | fatal _ hended _ _ hhook hturn =>
    rw [hended, hturn, (reportFatal_counts hhook).2.2.2.1] at hthrown
    contradiction

/-- A turn with a failure only reports it, with nothing of the delivery left. -/
theorem reports_of_failure {failure : Failure} (hfailure : failure? s m = some failure) :
    effects turn.events = [failure.event] ∧
      (turn.state.frames = under s m ∨
        turn.state.frames = ⟨failure.engine, .reporting⟩ :: under s m) := by
  cases hcourse with
  | still _ hnone _ | contained hnone _ =>
    rw [hnone] at hfailure
    contradiction
  | fatal s' _ hsome hframes hhook hturn =>
    obtain rfl := Option.some.inj (hsome.symm.trans hfailure)
    obtain ⟨heffects, hafter⟩ := reportFatal_effects s' _ _
    rw [hframes] at hafter
    rw [hturn, heffects, hhook]
    exact ⟨rfl, hafter⟩

end Course

/-! ## The end of calls -/

/-- Handing something to callbacks ends or calls one of them. -/
theorem Delivery.prompt {e : EngineId} {h : Handle} {operation : Operation} {last : FunctionRef}
    (hturn : Delivery s e h operation last turn) :
    turn.prompt = .finished ∨ ∃ invocation, turn.prompt = .run invocation := by
  induction hturn with
  | concluded => exact Or.inl rfl
  | concluding | listening => exact Or.inr ⟨_, rfl⟩
  | allLines _ ih | stopped _ ih | refused _ _ ih => exact ih

/-- A call of the host ends with what its own function returns, with `undefined` when it is an
operation that was accepted, or with the exception of one that was not. -/
def EndsCall (s : State) (outcome : Outcome) : Move → Prop
  | .return_ ended => ended = outcome ∧ ∃ e outer, s.frames = ⟨e, .call⟩ :: outer
  | .acknowledge => outcome = .value .undefined
  | .call _ function _ arguments =>
    ∃ exception, refusal function arguments = some exception ∧ outcome = .thrown exception
  | _ => False

/-- A call of the host ends in no other way. -/
theorem endsCall_of_returned (hseated : Seated s.frames) {outcome : Outcome}
    (hprompt : (step s m).prompt = .returned outcome) : EndsCall s outcome m := by
  have hanswers := answers_step hseated m
  have hhosted := isReply_hosted s (m := m)
  generalize step s m = turn at hanswers hprompt hhosted
  have hreport {s' : State} {e : EngineId} {error : ScriptError}
      (hprompt : (s'.reportFatal e error).prompt = .returned outcome) : False := by
    unfold State.reportFatal at hprompt
    split at hprompt <;> contradiction
  have hdelivery {s' : State} {e : EngineId} {h : Handle} {operation : Operation}
      {last : FunctionRef} (hturn : Delivery s' e h operation last turn) : False := by
    rcases hturn.prompt with hfinished | ⟨invocation, hrun⟩
    · rw [hfinished] at hprompt
      contradiction
    · rw [hrun] at hprompt
      contradiction
  cases hanswers with
  | hosted hmove _ _ =>
    have hreply := hhosted hmove
    rw [hprompt] at hreply
    contradiction
  | turnedAway _ hrefusal =>
    cases hprompt
    exact ⟨_, hrefusal, rfl⟩
  | returned hframes =>
    cases hprompt
    exact ⟨rfl, _, _, hframes⟩
  | acknowledged _ =>
    cases hprompt
    rfl
  | mismatched | contextless | failed => exact (hreport hprompt).elim
  | delivered _ _ _ _ _ hturn | heard _ hturn => exact (hdelivery hturn).elim
  | @concluded _ _ _ _ _ ended _ => cases ended <;> contradiction
  | _ => contradiction

/-! ## Failures of the operations -/

/-- A completion that fails redeems a ticket of an operation. -/
theorem redeems_of_failed {id : Nat} {result : NativeResult} {failed : EngineId × ScriptError}
    (hfailed : failed? s (.fire id result) = some failed) :
    ∃ t operation, t.id = id ∧ Redeems s (.fire t.id result) t ∧
      t.purpose = .operation operation ∧ operation.accepts result = true := by
  unfold failed? at hfailed
  dsimp only at hfailed
  split at hfailed
  · next id' e h operation hticket =>
    split at hfailed
    · next hcondition =>
      obtain rfl : id' = id := id_of_ticket? hticket
      let t : Ticket := ⟨id', e, h, .operation operation⟩
      have hpurpose : t.purpose = .operation operation := rfl
      exact ⟨t, operation, rfl, .fire hticket hpurpose hcondition.1, hpurpose, hcondition.1⟩
    · contradiction
  · contradiction

/-- In a registered state, the completions of operations that fail are those of reading by lines
that have content and find no object as the global. -/
theorem Registered.failure?_fire (hregistered : Registered s) {id : Nat} {result : NativeResult}
    {failure : Failure} :
    failure? s (.fire id result) = some failure ↔
      ∃ t, Redeems s (.fire id result) t ∧ t.purpose = .operation .readFromFile ∧
        s.isAlive t.engine = true ∧ result.error? = none ∧
        (s.global t.engine).isObject = false ∧
        failure = ⟨t.engine, s.hook t.engine, contextError⟩ := by
  -- What the delivery of a redeemed ticket returns: its callbacks are registered and fit.
  have hdelivery {t : Ticket} {operation : Operation} (hredeems : Redeems s (.fire t.id result) t)
      (hpurpose : t.purpose = .operation operation) (haccepts : operation.accepts result = true) :
      failed? s (.fire t.id result) =
        if s.isAlive t.engine = true ∧ operation = .readFromFile ∧ result.error? = none ∧
            (s.global t.engine).isObject = false then some (t.engine, contextError)
        else none := by
    obtain ⟨callbacks, hget, hlength, hok⟩ := hregistered.callbacks hredeems.mem hpurpose
    have hlines := Callbacks.isSome_listener_iff hlength
    rw [failed?_fire hredeems.of_fire.1 hpurpose haccepts, hget, Option.bind_some, deliveryError?,
      hok]
    simp only [hlines]
    split <;> split <;> simp_all
  constructor
  · intro hfailure
    obtain ⟨failed, hfailed, rfl⟩ := Option.map_eq_some_iff.mp hfailure
    obtain ⟨t, operation, rfl, hredeems, hpurpose, haccepts⟩ := redeems_of_failed hfailed
    rw [hdelivery hredeems hpurpose haccepts] at hfailed
    split at hfailed
    · next hcondition =>
      obtain ⟨halive, rfl, hresult, hglobal⟩ := hcondition
      cases hfailed
      exact ⟨t, hredeems, hpurpose, halive, hresult, hglobal, rfl⟩
    · contradiction
  · rintro ⟨t, hredeems, hpurpose, halive, hresult, hglobal, rfl⟩
    obtain rfl := id_of_ticket? hredeems.of_fire.1
    obtain ⟨hticket, operation, hpurpose', haccepts⟩ := hredeems.of_fire
    obtain rfl : operation = .readFromFile := by simpa [hpurpose] using hpurpose'.symm
    simp [failure?, hdelivery hredeems hpurpose haccepts, halive, hresult, hglobal]

/-! ## Whole runs -/

/-- Exceptions of callbacks stay inside, and errors of deliveries come out once. Over a whole run
the fatal errors are the failures of its deliveries, each reported once: it runs the hook that was
installed at that moment once, or is one log entry when there was none. A move in which callbacks
throw brings about no failure; it ends the completion or goes on with a callback, with the
activities outside the completion as they were. An exception of a listener is told to the last
callback that was stored together with the listener for the completion that delivers the lines;
nothing else happens in that turn, and that callback is all that is left of the completion. A call
of the host ends only with what its own function does. A failure is reported when nothing of its
delivery is left, with nothing else happening.

In a run with fewer registrations than handles, the warnings are those about the exceptions of
last callbacks, one each and in order, and the completions of operations that fail are exactly
those of reading by lines that succeeded and found no object as the global. -/
theorem callback_exceptions_contained (moves : List Move) :
    (trace {} moves).filter Event.isFatal = (along failures {} moves).map Failure.event ∧
    (trace {} moves).filter (Event.hasLevel .error) =
      (along failures {} moves).filterMap Failure.entry? ∧
    (run {} moves).filterMap Turn.report? = (along failures {} moves).filterMap Failure.report? ∧
    (∀ m,
      let s := after {} moves
      let turn := step s m
      (∀ thrown ∈ throws s m,
        failure? s m = none ∧
        (turn.prompt = .finished ∧ turn.state.frames = under s m ∨
          ∃ invocation activity, turn.prompt = .run invocation ∧ invocation.role ≠ .host ∧
            turn.state.frames = ⟨invocation.engine, activity⟩ :: under s m) ∧
        ∀ h, thrown.role = .listener h →
          ∃ r, reading? s m = some r ∧ r.FiredIn (moves ++ [m]) ∧
            r.Told (ended s m) turn thrown ∧ r.Concludes (under s m) turn) ∧
      (∀ outcome, turn.prompt = .returned outcome → EndsCall s outcome m) ∧
      ∀ failure, failure? s m = some failure →
        effects turn.events = [failure.event] ∧
        (turn.state.frames = under s m ∨
          turn.state.frames = ⟨failure.engine, .reporting⟩ :: under s m)) ∧
    ((after {} moves).ticketCount < UInt64.size →
      (trace {} moves).filter (Event.hasLevel .warn) =
        (along throws {} moves).filterMap Throw.warning? ∧
      ∀ id result failure,
        let s := after {} moves
        failure? s (.fire id result) = some failure ↔
          ∃ t, Redeems s (.fire id result) t ∧ t.purpose = .operation .readFromFile ∧
            s.isAlive t.engine = true ∧ result.error? = none ∧
            (s.global t.engine).isObject = false ∧
            failure = ⟨t.engine, s.hook t.engine, contextError⟩) := by
  have hcourse (before : List Move) (m : Move) :
      Course (after {} before) m (step (after {} before) m) :=
    course_step (formed_empty.after before).seated m
  refine ⟨?_, ?_, ?_, fun m => ⟨?_, ?_, ?_⟩, fun hfew => ⟨?_, ?_⟩⟩
  · rw [trace_eq_along, along_filter, ← List.filterMap_eq_map, along_filterMap]
    refine along_congr fun before m later _ => ?_
    rw [List.filterMap_eq_map]
    exact (hcourse before m).fatal_eq
  · rw [trace_eq_along, along_filter, along_filterMap]
    exact along_congr fun before m later _ => (hcourse before m).errors_eq
  · rw [filterMap_run_eq_along, along_filterMap]
    exact along_congr fun before m later _ => (hcourse before m).report_eq
  · intro thrown hthrown
    obtain ⟨hfailure, hcontained⟩ := (hcourse moves m).contained_of_throw hthrown
    refine ⟨hfailure, hcontained.goesOn, fun h hrole => ?_⟩
    obtain ⟨r, hreading, htold⟩ := hcontained.told thrown hthrown h hrole
    exact ⟨r, hreading, firedIn_of_reading? hreading, htold⟩
  · exact fun outcome => endsCall_of_returned (formed_empty.after moves).seated
  · exact fun failure => (hcourse moves m).reports_of_failure
  · rw [trace_eq_along, along_filter, along_filterMap]
    refine along_congr fun before m later heq => (hcourse before m).warnings_eq ?_
    have hregistered := registered_after before (formed_empty.few_append (heq ▸ hfew))
    have hanswers := answers_step (formed_empty.after before).seated m
    exact fun event hevent => (hregistered.benign hanswers hevent).1
  · exact fun id result failure => (registered_after moves hfew).failure?_fire

/-- Two calls to read by lines complete before they return. In the first one the listener and the
last callback throw: the last callback of that call hears the text of the listener's exception.
Before the second one the global and the hook are replaced. -/
theorem callback_exceptions_contained_inline :
    let read : FunctionRef := ⟨0, "readFromFile", .entry "fs" .readFromFile⟩
    let listener : FunctionRef := ⟨1, "listener", .host⟩
    let done : FunctionRef := ⟨2, "done", .host⟩
    let call : Move :=
      .call 0 read .undefined [.string "notes.txt", .function listener, .function done]
    let result : NativeResult := .ok (.content [97, 10, 98])
    let atLine : ScriptException := ⟨.error, "at a line", none⟩
    let atEnd : ScriptException := ⟨.error, "at the end", none⟩
    let moves : List Move :=
      [.createEngine, .setHook 0 7, call, .fire 0 result, .return_ (.thrown atLine),
        .return_ (.thrown atEnd), .acknowledge, .setGlobal 0 .null, .setHook 0 8, call,
        .fire 1 result, .reported]
    (after {} moves).ticketCount < UInt64.size ∧
    along throws {} moves =
      [⟨0, .listener ⟨1⟩, listener, atLine⟩, ⟨0, .last .readFromFile ⟨1⟩, done, atEnd⟩] ∧
    effects (step (after {} (moves.take 4)) (.return_ (.thrown atLine))).events =
      [.applied ⟨0, done, .undefined, [.string "Error: at a line"], .last .readFromFile ⟨1⟩⟩] ∧
    (trace {} moves).filter (Event.hasLevel .warn) = [threwEvent .readFromFile done atEnd] ∧
    (trace {} moves).filter Event.isFatal = [.fatal 0 (some 8) contextError] ∧
    (run {} moves).filterMap Turn.report? = [(0, 8, contextError)] ∧
    (step (after {} moves) .acknowledge).prompt = .returned (.value .undefined) ∧
    EndsCall (after {} moves) (.value .undefined) .acknowledge := by
  intro read listener done call result atLine atEnd moves
  have hfew : (after {} moves).ticketCount < UInt64.size := by decide
  have hthrows : along throws {} moves =
      [⟨0, .listener ⟨1⟩, listener, atLine⟩, ⟨0, .last .readFromFile ⟨1⟩, done, atEnd⟩] := by
    decide
  have hfailures : along failures {} moves = [⟨0, some 8, contextError⟩] := by decide
  have hprompt : (step (after {} moves) .acknowledge).prompt = .returned (.value .undefined) := by
    decide
  have htold : effects (step (after {} (moves.take 4)) (.return_ (.thrown atLine))).events =
      [doneCall 0 ⟨1⟩ done [atLine.value]] := by
    obtain ⟨-, -, -, hat, -⟩ := callback_exceptions_contained (moves.take 4)
    obtain ⟨hthrows, -⟩ := hat (.return_ (.thrown atLine))
    obtain ⟨-, -, hlistener⟩ := hthrows ⟨0, .listener ⟨1⟩, listener, atLine⟩ (by decide)
    obtain ⟨r, hreading, -, htold, -⟩ := hlistener ⟨1⟩ rfl
    obtain rfl : r = ⟨0, ⟨1⟩, listener, done⟩ := Option.some.inj (hreading.symm.trans (by decide))
    exact htold.effects_of_host rfl
  have htext : atLine.text = "Error: at a line" := by decide
  rw [ScriptException.value, htext] at htold
  obtain ⟨hfatal, -, hreports, hturns, hwarnings⟩ := callback_exceptions_contained moves
  obtain ⟨hwarned, -⟩ := hwarnings hfew
  obtain ⟨-, hended, -⟩ := hturns .acknowledge
  rw [hthrows] at hwarned
  rw [hfailures] at hfatal hreports
  exact ⟨hfew, hthrows, htold, hwarned, hfatal, hreports, hprompt, hended _ hprompt⟩

end ScriptFiles.Bridge
