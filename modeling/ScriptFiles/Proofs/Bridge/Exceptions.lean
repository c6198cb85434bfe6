import ScriptFiles.Proofs.Bridge.Readings

/-!
# Where exceptions and errors end

Two kinds of failure meet in a completion: an exception that a callback throws, and an error that
the delivery itself returns. `throws` and `failure?` say of a move which of them it brings about,
from the move and the state alone or from the functions that refuse their arguments in its turn.

A turn that goes on with a completion contains the exceptions (`Contained`): each one of a last
callback is a warning, one of a listener goes to the last callback of the same reading instead and
to nothing else (`Reading.Told`), the completion ends or goes on with a callback, and the activities
outside it stay as they are. `Course` says that every turn is still, contains its exceptions or
reports one failure.
-/

namespace ScriptFiles.Bridge

/-- An exception that a callback of a registration threw. -/
structure Throw where
  engine : EngineId
  role : Role
  callback : FunctionRef
  exception : ScriptException
deriving DecidableEq, Repr

/-- The exception with which the callback of an activity ends. -/
def Frame.throw? (frame : Frame) (exception : ScriptException) : Option Throw :=
  match frame.activity with
  | .listening h lines => some ⟨frame.engine, .listener h, lines.listener, exception⟩
  | .concluding operation h callback =>
    some ⟨frame.engine, .last operation h, callback, exception⟩
  | _ => none

/-- The callback that a move ends by an exception. -/
def ended (s : State) : Move → List Throw
  | .return_ (.thrown exception) => (s.frames.head?.bind (·.throw? exception)).toList
  | _ => []

/-- A callback that refuses its arguments at once throws. -/
def Event.throw? : Event → Option Throw
  | .applied ⟨_, _, _, _, .host⟩ => none
  | .applied ⟨e, function, _, arguments, role⟩ =>
    (refusal function arguments).map fun exception => ⟨e, role, function, exception⟩
  | _ => none

/-- The exceptions that callbacks throw in a turn. -/
def throws (s : State) (m : Move) : List Throw :=
  ended s m ++ (step s m).events.filterMap Event.throw?

/-- The warning about an exception, for the exception of a last callback. -/
def Throw.warning? (thrown : Throw) : Option Event :=
  match thrown.role with
  | .last operation _ => some (threwEvent operation thrown.callback thrown.exception)
  | _ => none

/-- The error that the delivery of a result returns: the stored values do not fit, or there is
content to deliver by lines and the global is no object. -/
def deliveryError? (operation : Operation) (h : Handle) (values : List Value) (global : Value)
    (result : NativeResult) : Option ScriptError :=
  match operation.callbacks? h values with
  | .error error => some error
  | .ok callbacks =>
    if callbacks.listener.isSome ∧ result.error? = none ∧ global.isObject = false then
      some contextError
    else none

/-- The engine and the error of a delivery that a move ends with an error. -/
def failed? (s : State) : Move → Option (EngineId × ScriptError)
  | .fire id result =>
    match s.ticket? id with
    | some ⟨_, e, h, .operation operation⟩ =>
      if operation.accepts result = true ∧ s.isAlive e = true then
        ((s.registry e).get? h).bind fun values =>
          (deliveryError? operation h values (s.global e) result).map fun error => (e, error)
      else none
    | _ => none
  | .delivered (some error) =>
    match s.frames with
    | ⟨e, .delivering _⟩ :: _ => some (e, error)
    | _ => none
  | _ => none

/-- An error that a delivery returned, with the hook that was installed then. -/
structure Failure where
  engine : EngineId
  hook : Option HookId
  error : ScriptError
deriving DecidableEq, Repr

/-- The failure that a move brings about. -/
def failure? (s : State) (m : Move) : Option Failure :=
  (failed? s m).map fun failed => ⟨failed.1, s.hook failed.1, failed.2⟩

/-- The activities outside the one that a move ends or starts. -/
def under (s : State) : Move → List Frame
  | .fire .. => s.frames
  | _ => s.frames.tail

/-! ## Events and prompts -/

/-- A log entry of a level. -/
def Event.hasLevel (level : Log.Level) : Event → Bool
  | .logged event => event.level == level
  | _ => false

/-- A report of a fatal error. -/
def Event.isFatal : Event → Bool
  | .fatal .. => true
  | _ => false

/-- The fatal hook that the host has to run after a turn. -/
def Turn.report? (turn : Turn) : Option (EngineId × HookId × ScriptError) :=
  match turn.prompt with
  | .report e hook error => some (e, hook, error)
  | _ => none

/-- An entry about an operation has its level. -/
@[simp] theorem hasLevel_sayOperation (level level' : Log.Level) (message : String)
    (fields : List (String × Log.FieldValue)) :
    (sayOperation level' message fields).hasLevel level = (level' == level) := rfl

/-- A log entry is no exception. -/
@[simp] theorem throw?_sayOperation (level : Log.Level) (message : String)
    (fields : List (String × Log.FieldValue)) :
    (sayOperation level message fields).throw? = none := rfl

/-- A last callback throws at once when it refuses its arguments. -/
@[simp] theorem throw?_lastInvocation (e : EngineId) (h : Handle) (operation : Operation)
    (last : FunctionRef) (arguments : List Value) :
    (Event.applied (lastInvocation e h operation last arguments)).throw? =
      (refusal last arguments).map fun exception => ⟨e, .last operation h, last, exception⟩ := rfl

/-- A listener throws at once when it refuses a line. -/
@[simp] theorem throw?_lineInvocation (e : EngineId) (h : Handle) (lines : LineDelivery)
    (line : Bytes) :
    (Event.applied (lineInvocation e h lines line)).throw? =
      (refusal lines.listener [lineValue line]).map fun exception =>
        ⟨e, .listener h, lines.listener, exception⟩ := rfl

/-! ## Turns -/

/-- Nothing fatal happens in a turn. -/
structure Harmless (turn : Turn) : Prop where
  fatal : turn.events.filter Event.isFatal = []
  errors : turn.events.filter (Event.hasLevel .error) = []
  report : turn.report? = none

/-- The exception of the listener of a reading is told to the last callback of the reading, in the
turn in which the listener ends with it (then `first` has it) or refuses a line. Nothing else
happens in the turn. -/
inductive Reading.Told (r : Reading) (first : List Throw) (turn : Turn) : Throw → Prop
  | ended {exception : ScriptException}
      (hended : ⟨r.engine, .listener r.handle, r.listener, exception⟩ ∈ first)
      (heffects : effects turn.events = [doneCall r.engine r.handle r.done [exception.value]]) :
      Told r first turn ⟨r.engine, .listener r.handle, r.listener, exception⟩
  | refused {exception : ScriptException} {this : Value} {line : Bytes}
      (hrefusal : refusal r.listener [lineValue line] = some exception)
      (heffects : effects turn.events =
        [.applied ⟨r.engine, r.listener, this, [lineValue line], .listener r.handle⟩,
          doneCall r.engine r.handle r.done [exception.value]]) :
      Told r first turn ⟨r.engine, .listener r.handle, r.listener, exception⟩

/-- After a turn nothing is left of the lines of a reading but at most its last callback. -/
def Reading.Concludes (r : Reading) (outer : List Frame) (turn : Turn) : Prop :=
  turn.state.frames = outer ∨
    turn.state.frames = ⟨r.engine, .concluding .readFromFile r.handle r.done⟩ :: outer

/-- A turn that goes on with a completion contains exceptions: `reading?` is the reading that it
goes on with, `first` is the exception that ended the callback before, and `outer` are the
activities outside the completion. -/
structure Contained (reading? : Option Reading) (outer : List Frame) (first : List Throw)
    (turn : Turn) : Prop extends Harmless turn where
  warnings : turn.events.filter (Event.hasLevel .warn) =
    (first ++ turn.events.filterMap Event.throw?).filterMap Throw.warning?
  goesOn : (turn.prompt = .finished ∧ turn.state.frames = outer) ∨
    ∃ invocation activity, turn.prompt = .run invocation ∧ invocation.role ≠ .host ∧
      turn.state.frames = ⟨invocation.engine, activity⟩ :: outer
  told : ∀ thrown ∈ first ++ turn.events.filterMap Event.throw?, ∀ h,
    thrown.role = .listener h →
      ∃ r, reading? = some r ∧ r.Told first turn thrown ∧ r.Concludes outer turn

variable {s : State} {reading : Option Reading} {outer : List Frame} {first : List Throw}
  {turn : Turn}

/-- Entries of the log before a turn change nothing about whom an exception is told to. -/
theorem Reading.Told.say {r : Reading} {thrown : Throw} (htold : r.Told first turn thrown)
    (level : Log.Level) (message : String) (fields : List (String × Log.FieldValue)) :
    r.Told first (turn.after [sayOperation level message fields]) thrown := by
  cases htold with
  | ended hended heffects => exact .ended hended (by rwa [effects_after])
  | refused hrefusal heffects => exact .refused hrefusal (by rwa [effects_after])

/-- A listener of the host refuses no line, so it was called in an earlier turn. -/
theorem Reading.Told.effects_of_host {r : Reading} {thrown : Throw}
    (htold : r.Told first turn thrown) (hhost : r.listener.body = .host) :
    effects turn.events = [doneCall r.engine r.handle r.done [thrown.exception.value]] := by
  cases htold with
  | ended _ heffects => exact heffects
  | refused hrefusal _ =>
    rw [refusal_of_host hhost] at hrefusal
    contradiction

/-- An entry of a lower level before a turn changes nothing about its exceptions. -/
theorem Contained.say (hcontained : Contained reading outer first turn) {level : Log.Level}
    (hlevel : level ≠ .warn ∧ level ≠ .error) (message : String)
    (fields : List (String × Log.FieldValue)) :
    Contained reading outer first (turn.after [sayOperation level message fields]) where
  fatal := hcontained.fatal
  errors := by
    have herror : (turn.after [sayOperation level message fields]).events.filter
        (Event.hasLevel .error) = turn.events.filter (Event.hasLevel .error) :=
      List.filter_cons_of_neg (by simpa using hlevel.2)
    rw [herror, hcontained.errors]
  report := hcontained.report
  warnings := by
    have hwarn : (turn.after [sayOperation level message fields]).events.filter
        (Event.hasLevel .warn) = turn.events.filter (Event.hasLevel .warn) :=
      List.filter_cons_of_neg (by simpa using hlevel.1)
    rw [hwarn, hcontained.warnings]
    rfl
  goesOn := hcontained.goesOn
  told thrown hthrown h hrole := by
    obtain ⟨r, hreading, htold, hconcludes⟩ := hcontained.told thrown hthrown h hrole
    exact ⟨r, hreading, htold.say level message fields, hconcludes⟩

variable (s) (e : EngineId) (h : Handle)

/-- Applying the last callback contains its exception. -/
theorem contained_applyLast (operation : Operation) (last : FunctionRef) {arguments : List Value}
    (hshort : arguments.length ≤ 1) :
    Contained reading s.frames [] (s.applyLast e h operation last arguments) := by
  rcases refusal_or_host last arguments hshort with ⟨exception, hrefusal⟩ | hhost
  · rw [applyLast_of_refusal s e h hrefusal]
    have hthrows : [Event.applied (lastInvocation e h operation last arguments),
        threwEvent operation last exception].filterMap Event.throw? =
          [⟨e, .last operation h, last, exception⟩] := by
      simp [hrefusal, threwEvent]
    refine ⟨⟨rfl, rfl, rfl⟩, ?_, Or.inl ⟨rfl, rfl⟩, ?_⟩
    · rw [hthrows]
      rfl
    · rw [hthrows]
      simp
  · rw [applyLast_of_host s e h arguments hhost]
    have hthrows : [Event.applied (lastInvocation e h operation last arguments)].filterMap
        Event.throw? = [] := by
      simp [refusal_of_host hhost]
    have hrole : (lastInvocation e h operation last arguments).role ≠ .host := by
      simp [lastInvocation]
    refine ⟨⟨rfl, rfl, rfl⟩, ?_, Or.inr ⟨_, _, rfl, hrole, rfl⟩, ?_⟩
    · rw [hthrows]
      rfl
    · rw [hthrows]
      simp

/-- Once the listener has thrown, ending the lines contains the exception of the last callback. -/
theorem contained_last_of_stopLines (lines : LineDelivery) (exception : ScriptException) :
    Contained reading s.frames [] (s.stopLines e h lines exception) :=
  (contained_applyLast s e h .readFromFile lines.done (Nat.le_refl [exception.value].length)).say
    (by decide) _ _

/-- No listener throws while the lines are ended. -/
theorem not_listener_of_stopLines {lines : LineDelivery} {exception : ScriptException}
    {thrown : Throw}
    (hthrown : thrown ∈ (s.stopLines e h lines exception).events.filterMap Event.throw?)
    (h' : Handle) : thrown.role ≠ .listener h' := by
  have hlast : Contained none s.frames [] (s.stopLines e h lines exception) :=
    contained_last_of_stopLines s e h lines exception
  intro hrole
  obtain ⟨r, hreading, -⟩ := hlast.told thrown hthrown h' hrole
  contradiction

/-- Ending the lines at an exception of the listener tells it to the last callback. -/
theorem contained_stopLines (lines : LineDelivery) (exception : ScriptException) :
    Contained (some ⟨e, h, lines.listener, lines.done⟩) s.frames
      [⟨e, .listener h, lines.listener, exception⟩] (s.stopLines e h lines exception) := by
  have hlast : Contained none s.frames [] (s.stopLines e h lines exception) :=
    contained_last_of_stopLines s e h lines exception
  obtain ⟨heffects, hconcludes⟩ := stopLines_effects s e h lines exception
  refine ⟨hlast.toHarmless, hlast.warnings, hlast.goesOn, ?_⟩
  intro thrown hthrown h' hrole
  rcases List.mem_cons.mp hthrown with rfl | hlater
  · exact ⟨_, rfl, .ended List.mem_cons_self heffects, hconcludes⟩
  · exact absurd hrole (not_listener_of_stopLines s e h hlater h')

/-- Going on to the next line contains the exceptions of both callbacks. -/
theorem contained_nextLine (lines : LineDelivery) :
    Contained (some ⟨e, h, lines.listener, lines.done⟩) s.frames [] (s.nextLine e h lines) := by
  cases hnext : lines.rest.next? with
  | none =>
    have hshort : ([] : List Value).length ≤ 1 := Nat.zero_le 1
    rw [nextLine_of_none s e h hnext]
    exact (contained_applyLast s e h .readFromFile lines.done hshort).say (by decide) _ _
  | some next =>
    obtain ⟨line, rest⟩ := next
    rcases refusal_or_host lines.listener [lineValue line] (Nat.le_refl 1) with
      ⟨exception, hrefusal⟩ | hhost
    · -- the exception that the refusal is has no warning; ending the lines contains the others
      have hlast : Contained none s.frames [] (s.stopLines e h lines exception) :=
        contained_last_of_stopLines s e h lines exception
      obtain ⟨heffects, hconcludes⟩ := stopLines_effects s e h lines exception
      have hthrow : (Event.applied (lineInvocation e h lines line)).throw? =
          some ⟨e, .listener h, lines.listener, exception⟩ := by
        rw [throw?_lineInvocation, hrefusal]
        rfl
      have hthrows := List.filterMap_cons_some
        (l := (s.stopLines e h lines exception).events) hthrow
      rw [nextLine_of_refusal s e h hnext hrefusal]
      refine ⟨⟨hlast.fatal, hlast.errors, hlast.report⟩, ?_, hlast.goesOn, ?_⟩
      · refine hlast.warnings.trans ?_
        rw [List.nil_append, List.nil_append, Turn.after, List.singleton_append, hthrows]
        rfl
      · intro thrown hthrown h' hrole
        rw [List.nil_append, Turn.after, List.singleton_append, hthrows, List.mem_cons] at hthrown
        rcases hthrown with rfl | hlater
        · have hevents : effects ((s.stopLines e h lines exception).after
              [.applied (lineInvocation e h lines line)]).events =
                [.applied (lineInvocation e h lines line),
                  doneCall e h lines.done [exception.value]] := by
            rw [effects_after, heffects]
            rfl
          exact ⟨_, rfl, .refused hrefusal hevents, hconcludes⟩
        · exact absurd hrole (not_listener_of_stopLines s e h hlater h')
    · rw [nextLine_of_host s e h hnext hhost]
      have hthrows : [Event.applied (lineInvocation e h lines line)].filterMap Event.throw? =
          [] := by
        simp [refusal_of_host hhost]
      have hrole : (lineInvocation e h lines line).role ≠ .host := by simp [lineInvocation]
      refine ⟨⟨rfl, rfl, rfl⟩, ?_, Or.inr ⟨_, _, rfl, hrole, rfl⟩, ?_⟩
      · exact (congrArg (List.filterMap Throw.warning?) hthrows).symm
      · intro thrown hthrown
        exact absurd (hthrows ▸ hthrown : thrown ∈ []) List.not_mem_nil

/-- Handing over a result contains the exceptions of the callbacks, unless the global of a delivery
of lines is no object. -/
theorem contained_complete (operation : Operation) (callbacks : Callbacks) (result : NativeResult)
    (hreading : ∀ listener, callbacks.listener = some listener →
      reading = some ⟨e, h, listener, callbacks.last⟩)
    (hobject : callbacks.listener.isSome → result.error? = none →
      (s.global e).isObject = true) :
    Contained reading s.frames [] (s.complete e h operation callbacks result) := by
  have htold (heap : Heap) {arguments : List Value} (hshort : arguments.length ≤ 1) :
      Contained reading s.frames []
        ({ s with heap := heap }.applyLast e h operation callbacks.last arguments) :=
    contained_applyLast { s with heap := heap } e h operation callbacks.last hshort
  unfold State.complete
  split
  · next listener answer hlistener =>
    rw [hlistener] at hobject
    rw [if_pos (hobject rfl rfl), hreading listener hlistener]
    exact contained_nextLine s e h ⟨s.global e, listener, callbacks.last, ⟨answer.bytes⟩, 0⟩
  · exact htold _ (length_lastArguments operation _ s.heap)

/-- Ending the last callback by an exception contains it. -/
theorem contained_conclude (operation : Operation) (last : FunctionRef)
    (exception : ScriptException) :
    Contained reading s.frames [⟨e, .last operation h, last, exception⟩]
      (s.conclude operation last (.thrown exception)) := by
  refine ⟨⟨rfl, rfl, rfl⟩, rfl, Or.inl ⟨rfl, rfl⟩, ?_⟩
  intro thrown hthrown
  obtain rfl : thrown = ⟨e, .last operation h, last, exception⟩ := by
    simpa [State.conclude, threwEvent] using hthrown
  intro h' hrole
  cases hrole

/-! ## Every move -/

/-- No callback throws in a turn and nothing fatal happens; the only warnings are about missing
stored values. -/
structure Still (turn : Turn) : Prop extends Harmless turn where
  throws : turn.events.filterMap Event.throw? = []
  warnings : ∀ event ∈ turn.events, event.hasLevel .warn = true → ∃ h, event = unstoredEvent h

/-- A turn without events is still, unless a hook has to run. -/
theorem still_of_nil (hevents : turn.events = []) (hreport : turn.report? = none) : Still turn := by
  obtain ⟨state, events, prompt⟩ := turn
  obtain rfl : events = [] := hevents
  exact ⟨⟨rfl, rfl, hreport⟩, rfl, fun _ hevent => absurd hevent List.not_mem_nil⟩

/-- A refused move is still. -/
theorem still_refuse : Still (refuse s) := still_of_nil rfl rfl

/-- A completion without its engine is still. -/
theorem still_gone (t : Ticket) (h : Handle) : Still ⟨s.spend t, [goneEvent h], .finished⟩ := by
  refine ⟨⟨rfl, rfl, rfl⟩, rfl, fun event hevent hwarn => ?_⟩
  rw [List.mem_singleton.mp hevent] at hwarn
  contradiction

/-- What holds of a turn and of a refusal holds of the turn under a condition. -/
theorem guarded_of {motive : Turn → Prop} {condition : Bool} (hrefuse : motive (refuse s))
    (hturn : motive turn) : motive (guarded s condition turn) := by
  unfold guarded
  split
  · exact hturn
  · exact hrefuse

/-- A prompt that answers a move of the host while nothing new goes on. -/
def Prompt.isReply : Prompt → Bool
  | .refused | .done | .engine _ | .object _ | .function _ | .stored .. | .failed _ => true
  | _ => false

/-- A hosted move is answered at once. -/
theorem isReply_hosted {m : Move} (hhosted : m.isHosted = true) :
    (step s m).prompt.isReply = true := by
  cases m with
  | createEngine | createObject | createFunction | setProperty | removeProperty | bind => rfl
  | dropEngine | setGlobal | setHook =>
    exact guarded_of (motive := fun turn => turn.prompt.isReply = true) s rfl rfl
  | install e name =>
    refine guarded_of (motive := fun turn => turn.prompt.isReply = true) s rfl ?_
    unfold State.install
    split <;> rfl
  | call | store | fire | resume | abandon | return_ | acknowledge | delivered | reported =>
    contradiction

/-- A reply asks for no hook. -/
theorem report?_of_isReply (hreply : turn.prompt.isReply = true) : turn.report? = none := by
  unfold Turn.report?
  split
  · next hprompt =>
    rw [hprompt] at hreply
    contradiction
  · rfl

/-- A move that goes on with a completion or a delivery. -/
def Move.continues : Move → Bool
  | .fire .. | .return_ _ | .delivered _ => true
  | _ => false

variable {s}

/-- Every move that goes on with no completion is still. -/
theorem Answers.still {m : Move} (hanswers : Answers s m turn)
    (hreport : m.isHosted = true → turn.report? = none) (hother : m.continues = false) :
    Still turn := by
  cases hanswers with
  | refused => exact still_refuse s
  | hosted hhosted _ hevents =>
    rcases hevents with hnone | ⟨name, hone⟩
    · exact still_of_nil hnone (hreport hhosted)
    · refine ⟨⟨?_, ?_, hreport hhosted⟩, ?_, ?_⟩ <;> rw [hone]
      · rfl
      · rfl
      · rfl
      · intro event hevent hwarn
        rw [List.mem_singleton.mp hevent] at hwarn
        contradiction
  | turnedAway | called | resumed => exact ⟨⟨rfl, rfl, rfl⟩, rfl, by simp [Event.hasLevel]⟩
  | issued =>
    refine ⟨⟨rfl, rfl, rfl⟩, rfl, ?_⟩
    rintro event (_ | ⟨_, _ | ⟨_, _ | ⟨_, _⟩⟩⟩) hwarn <;> contradiction
  | gone => exact still_gone s _ _
  | @unstored _ t =>
    exact ⟨⟨rfl, rfl, rfl⟩, rfl, fun event hevent _ => ⟨t.handle, List.mem_singleton.mp hevent⟩⟩
  | stored | abandoned | acknowledged | reported => exact still_of_nil rfl rfl
  | mismatched | contextless | delivered | returned | heard | concluded | handedOver | failed =>
    contradiction

/-- The ways in which exceptions and errors can come into a turn. -/
inductive Course (s : State) (m : Move) (turn : Turn) : Prop
  | still (hended : ended s m = []) (hfailure : failure? s m = none) (hstill : Still turn)
  | contained (hfailure : failure? s m = none)
      (hcontained : Contained (reading? s m) (under s m) (ended s m) turn)
  | fatal {failure : Failure} (s' : State) (hended : ended s m = [])
      (hfailure : failure? s m = some failure) (hframes : s'.frames = under s m)
      (hhook : s'.hook failure.engine = failure.hook)
      (hturn : turn = s'.reportFatal failure.engine failure.error)

/-- The end of a listener contains its exception. -/
theorem contained_return_listening {e : EngineId} {h : Handle} {lines : LineDelivery}
    (hframes : s.frames = ⟨e, .listening h lines⟩ :: outer) (outcome : Outcome) :
    Contained (reading? s (.return_ outcome)) outer (ended s (.return_ outcome))
      (step s (.return_ outcome)) := by
  have hreading : reading? s (.return_ outcome) = some ⟨e, h, lines.listener, lines.done⟩ := by
    simp [reading?, hframes, Frame.reading?]
  rw [step_return_listening hframes outcome, hreading]
  cases outcome with
  | value _ => exact contained_nextLine { s with frames := outer } e h lines
  | thrown exception =>
    have hended : ended s (.return_ (.thrown exception)) =
        [⟨e, .listener h, lines.listener, exception⟩] := by
      simp [ended, hframes, Frame.throw?]
    rw [hended]
    exact contained_stopLines { s with frames := outer } e h lines exception

/-- The end of the last callback contains its exception. -/
theorem contained_return_concluding {e : EngineId} {h : Handle} {operation : Operation}
    {last : FunctionRef} (hframes : s.frames = ⟨e, .concluding operation h last⟩ :: outer)
    (outcome : Outcome) :
    Contained reading outer (ended s (.return_ outcome)) (step s (.return_ outcome)) := by
  rw [step_return_concluding hframes outcome]
  cases outcome with
  | value _ =>
    exact ⟨⟨rfl, rfl, rfl⟩, rfl, Or.inl ⟨rfl, rfl⟩,
      fun _ hthrown => absurd hthrown List.not_mem_nil⟩
  | thrown exception =>
    have hended : ended s (.return_ (.thrown exception)) =
        [⟨e, .last operation h, last, exception⟩] := by
      simp [ended, hframes, Frame.throw?]
    rw [hended]
    exact contained_conclude { s with frames := outer } e h operation last exception

/-- The course of the end of the function that runs innermost. -/
theorem course_return (s : State) (outcome : Outcome) :
    Course s (.return_ outcome) (step s (.return_ outcome)) := by
  -- An activity whose end throws nothing: the move is refused, or ends a call of the host.
  have hnothing {turn : Turn}
      (hthrow : ∀ exception, s.frames.head?.bind (·.throw? exception) = none)
      (hturn : step s (.return_ outcome) = turn) (hstill : Still turn) :
      Course s (.return_ outcome) (step s (.return_ outcome)) := by
    refine .still ?_ rfl (hturn ▸ hstill)
    cases outcome with
    | value _ => rfl
    | thrown exception => exact congrArg Option.toList (hthrow exception)
  rcases hframes : s.frames with _ | ⟨⟨e, activity⟩, outer⟩
  · refine hnothing (by simp [hframes]) ?_ (still_refuse s)
    simp [step, State.return_, hframes]
  · have hunder : under s (.return_ outcome) = outer := by simp [under, hframes]
    cases activity with
    | call =>
      exact hnothing (by simp [hframes, Frame.throw?]) (step_return_call hframes outcome)
        (still_of_nil rfl rfl)
    | asking | delivering | reporting =>
      refine hnothing (by simp [hframes, Frame.throw?]) ?_ (still_refuse s)
      simp [step, State.return_, hframes]
    | listening h lines =>
      refine .contained rfl ?_
      rw [hunder]
      exact contained_return_listening hframes outcome
    | concluding operation h last =>
      refine .contained rfl ?_
      rw [hunder]
      exact contained_return_concluding hframes outcome

/-- The course of the end of a delivery by the host. -/
theorem course_delivered (s : State) (error : Option ScriptError) :
    Course s (.delivered error) (step s (.delivered error)) := by
  rcases hframes : s.frames with _ | ⟨⟨e, activity⟩, outer⟩
  · have hfailure : failure? s (.delivered error) = none := by
      cases error <;> simp [failure?, failed?, hframes]
    refine .still rfl hfailure ?_
    simpa [step, hframes] using still_refuse s
  · cases activity with
    | call | asking | listening | concluding | reporting =>
      have hfailure : failure? s (.delivered error) = none := by
        cases error <;> simp [failure?, failed?, hframes]
      refine .still rfl hfailure ?_
      simpa [step, hframes] using still_refuse s
    | delivering h =>
      cases error with
      | none =>
        refine .still rfl rfl ?_
        simpa [step, hframes] using still_of_nil rfl rfl
      | some error =>
        have hfailure : failure? s (.delivered (some error)) = some ⟨e, s.hook e, error⟩ := by
          simp [failure?, failed?, hframes]
        have hturn : step s (.delivered (some error)) =
            State.reportFatal { s with frames := outer } e error := by
          simp [step, hframes]
        exact .fatal { s with frames := outer } rfl hfailure (by simp [under, hframes]) rfl hturn

/-- The error with which the completion of a ticket ends. -/
theorem failed?_fire {t : Ticket} {operation : Operation} {result : NativeResult}
    (hticket : s.ticket? t.id = some t) (hpurpose : t.purpose = .operation operation)
    (haccepts : operation.accepts result = true) :
    failed? s (.fire t.id result) =
      if s.isAlive t.engine = true then
        ((s.registry t.engine).get? t.handle).bind fun values =>
          (deliveryError? operation t.handle values (s.global t.engine) result).map fun error =>
            (t.engine, error)
      else none := by
  obtain ⟨id, e, h, purpose⟩ := t
  obtain rfl : purpose = .operation operation := hpurpose
  simp only [failed?, hticket, haccepts, true_and]

/-- The course of the completion of a ticket. -/
theorem course_redeems {t : Ticket} {operation : Operation} {result : NativeResult}
    (hticket : s.ticket? t.id = some t) (hpurpose : t.purpose = .operation operation)
    (haccepts : operation.accepts result = true) :
    Course s (.fire t.id result) (s.fire t operation result) := by
  have hfailed := failed?_fire hticket hpurpose haccepts
  rw [fire_eq]
  by_cases halive : s.isAlive t.engine = true
  · rw [if_pos halive] at hfailed ⊢
    cases hget : (s.registry t.engine).get? t.handle with
    | none =>
      refine .still rfl (by simp [failure?, hfailed, hget]) ?_
      exact ⟨⟨rfl, rfl, rfl⟩, rfl, fun event hevent _ => ⟨t.handle, List.mem_singleton.mp hevent⟩⟩
    | some values =>
      dsimp only
      rw [hget, Option.bind_some, deliveryError?] at hfailed
      cases hcallbacks : operation.callbacks? t.handle values with
      | error error =>
        have hfailure : failure? s (.fire t.id result) =
            some ⟨t.engine, s.hook t.engine, error⟩ := by
          simp [failure?, hfailed, hcallbacks]
        exact .fatal (s.settle t) rfl hfailure rfl (s.hook_settle t t.engine) rfl
      | ok callbacks =>
        dsimp only
        obtain ⟨hvalues, hlength⟩ := Operation.callbacks?_eq_ok_iff.mp hcallbacks
        have hlines := Callbacks.isSome_listener_iff hlength
        rcases complete_cases (s.settle t) t.engine t.handle operation callbacks result
            hlines.mp with ⟨hlistener, hresult, hglobal, hturn⟩ | ⟨hobject, -⟩
        · rw [State.global_settle] at hglobal
          have hfailure : failure? s (.fire t.id result) =
              some ⟨t.engine, s.hook t.engine, contextError⟩ := by
            simp [failure?, hfailed, hcallbacks, hlistener, hresult, hglobal]
          exact .fatal (s.settle t) rfl hfailure rfl (s.hook_settle t t.engine) hturn
        · have hreading (listener : FunctionRef) (hlistener : callbacks.listener = some listener) :
              reading? s (.fire t.id result) =
                some ⟨t.engine, t.handle, listener, callbacks.last⟩ := by
            obtain rfl : operation = .readFromFile := hlines.mp (by simp [hlistener])
            refine reading?_fire_eq_some_iff.mpr ⟨t, hticket, hpurpose, haccepts, ?_⟩
            rw [State.reading?_eq_some_iff]
            exact ⟨rfl, rfl, by simp [hget, hvalues, Callbacks.functions, hlistener]⟩
          refine .contained ?_ (contained_complete (s.settle t) t.engine t.handle operation
            callbacks result hreading hobject)
          rw [State.global_settle] at hobject
          simp only [failure?, hfailed, hcallbacks]
          rw [if_neg fun hfails => by simp [hobject hfails.1 hfails.2.1] at hfails]
          rfl
  · rw [if_neg halive] at hfailed ⊢
    refine .still rfl (by simp [failure?, hfailed]) ?_
    exact still_gone s t t.handle

/-- The course of the completion of a native operation. -/
theorem course_fire (s : State) (id : Nat) (result : NativeResult) :
    Course s (.fire id result) (step s (.fire id result)) := by
  cases hticket : s.ticket? id with
  | none =>
    refine .still rfl (by simp [failure?, failed?, hticket]) ?_
    simpa [step, hticket] using still_refuse s
  | some t =>
    obtain rfl := id_of_ticket? hticket
    cases hpurpose : t.purpose with
    | embedder =>
      have hfailure : failure? s (.fire t.id result) = none := by
        obtain ⟨id, e, h, purpose⟩ := t
        obtain rfl : purpose = .embedder := hpurpose
        simp [failure?, failed?, hticket]
      refine .still rfl hfailure ?_
      simpa [step, hticket, hpurpose] using still_refuse s
    | operation operation =>
      by_cases haccepts : operation.accepts result = true
      · rw [step_fire hticket hpurpose haccepts]
        exact course_redeems hticket hpurpose haccepts
      · have hfailure : failure? s (.fire t.id result) = none := by
          obtain ⟨id, e, h, purpose⟩ := t
          obtain rfl : purpose = .operation operation := hpurpose
          simp [failure?, failed?, hticket, haccepts]
        refine .still rfl hfailure ?_
        simpa [step, hticket, hpurpose, guarded, haccepts] using still_refuse s

/-- Every turn is still, contains its exceptions or reports one failure. -/
theorem course_step {s : State} (hseated : Seated s.frames) (m : Move) :
    Course s m (step s m) := by
  have hordinary (hended : ended s m = []) (hfailure : failure? s m = none)
      (hother : m.continues = false) : Course s m (step s m) :=
    .still hended hfailure ((answers_step hseated m).still
      (fun hhosted => report?_of_isReply (isReply_hosted s hhosted)) hother)
  cases m with
  | fire id result => exact course_fire s id result
  | return_ outcome => exact course_return s outcome
  | delivered error => exact course_delivered s error
  | _ => exact hordinary rfl rfl rfl

end ScriptFiles.Bridge
