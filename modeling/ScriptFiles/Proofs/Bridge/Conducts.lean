import ScriptFiles.Proofs.Bridge.Exceptions
import ScriptFiles.Proofs.Delivery
import Mathlib.Logic.Function.Iterate

/-!
# Completions with callbacks that only listen

A `Conduct` says how the functions of the host end their calls: by what they heard in this call and
the earlier ones, and without moves of their own. `Scene.complete` fires a ticket and lets the host
answer by its conduct until the completion is over. What comes of it has a closed form
(`complete_eq`): the ticket and its registration are gone, everything else is as before up to new
objects, and what the callbacks heard is `completionCalls`, which depends on nothing but the
result, the global of the engine and what the callbacks heard before.
-/

namespace ScriptFiles.Bridge

/-- What an argument tells: the properties of an object, whose identity is new to everybody, and
otherwise the value. -/
inductive Told
  | value (value : Value)
  | object (properties : Properties)
deriving DecidableEq, Repr

/-- What an argument tells with the objects of a heap. -/
def told (heap : Heap) : Value → Told
  | .object object => .object (heap.properties object)
  | value => .value value

/-- A call as the function experiences it. -/
structure Heard where
  this : Value
  arguments : List Told
deriving DecidableEq, Repr

/-- What functions heard, in the order of the calls. -/
abbrev Hearings := List (FunctionRef × Heard)

/-- What one function heard. -/
def heardBy (f : FunctionRef) (hearings : Hearings) : List Heard :=
  (hearings.filter (·.1 == f)).map Prod.snd

/-- How a function of the host ends a call: by what it heard so far, the present call last. -/
abbrev Conduct := FunctionRef → List Heard → Outcome

/-- The call that an event makes. -/
def Event.heardCall? (heap : Heap) : Event → Option (FunctionRef × Heard)
  | .applied invocation =>
    some (invocation.function, ⟨invocation.this, invocation.arguments.map (told heap)⟩)
  | _ => none

/-- What functions hear in a turn. -/
def Turn.heard (turn : Turn) : Hearings :=
  turn.events.filterMap (Event.heardCall? turn.state.heap)

/-- The callback that runs in an activity. -/
def Activity.callback? : Activity → Option FunctionRef
  | .listening _ lines => some lines.listener
  | .concluding _ _ callback => some callback
  | _ => none

/-- A state and what functions heard up to it. -/
structure Scene where
  state : State
  hearings : Hearings
deriving DecidableEq

namespace Scene

/-- The scene after a turn. -/
def ofTurn (hearings : Hearings) (turn : Turn) : Scene :=
  ⟨turn.state, hearings ++ turn.heard⟩

/-- The scene after a move. -/
def take (scene : Scene) (m : Move) : Scene :=
  ofTurn scene.hearings (step scene.state m)

/-- The move by which the host ends the innermost activity: the callback returns or throws by its
conduct, or the fatal hook returns. -/
def reply (conduct : Conduct) (scene : Scene) : Move :=
  match scene.state.frames.head?.bind (·.activity.callback?) with
  | some f => .return_ (conduct f (heardBy f scene.hearings))
  | none => .reported

/-- The scene after the host has ended one activity, if more than `depth` of them go on. -/
def next (conduct : Conduct) (depth : Nat) (scene : Scene) : Scene :=
  if scene.state.frames.length ≤ depth then scene else scene.take (scene.reply conduct)

end Scene

/-- How many activities a completion with a result has at most: one for each line, and one more. -/
def activityCount : NativeResult → Nat
  | .ok answer => (linesOf answer.bytes).length + 1
  | .failed _ => 1

/-- The scene after a ticket was fired and every activity of its completion has ended. -/
def Scene.complete (conduct : Conduct) (scene : Scene) (c : Ticket × NativeResult) : Scene :=
  (Scene.next conduct scene.state.frames.length)^[activityCount c.2]
    (scene.take (.fire c.1.id c.2))

/-! ## What a completion tells -/

/-- How a call ends, with the exception of an operation that refuses the arguments. -/
def outcomeOf (conduct : Conduct) (f : FunctionRef) (arguments : List Value)
    (hearings : Hearings) : Outcome :=
  match refusal f arguments with
  | some exception => .thrown exception
  | none => conduct f (heardBy f hearings)

/-- The calls that deliver lines: the listener for each line up to the first exception, then the
last callback. -/
def lineCalls (conduct : Conduct) (this : Value) (listener done : FunctionRef) :
    List Bytes → Hearings → Hearings
  | [], _ => [(done, ⟨.undefined, []⟩)]
  | line :: rest, hearings =>
    let call : FunctionRef × Heard := (listener, ⟨this, [.value (lineValue line)]⟩)
    call ::
      match outcomeOf conduct listener [lineValue line] (hearings ++ [call]) with
      | .thrown exception => [(done, ⟨.undefined, [.value exception.value]⟩)]
      | .value _ => lineCalls conduct this listener done rest (hearings ++ [call])

/-- A listener that refuses a line is not called again. -/
theorem lineCalls_of_refusal {conduct : Conduct} {this : Value} {listener done : FunctionRef}
    {line : Bytes} {rest : List Bytes} {hearings : Hearings} {exception : ScriptException}
    (hrefusal : refusal listener [lineValue line] = some exception) :
    lineCalls conduct this listener done (line :: rest) hearings =
      [(listener, ⟨this, [.value (lineValue line)]⟩),
        (done, ⟨.undefined, [.value exception.value]⟩)] := by
  simp only [lineCalls, outcomeOf, hrefusal]

/-- After a listener of the host was called with a line, its conduct decides. -/
theorem lineCalls_of_host {conduct : Conduct} {this : Value} {listener done : FunctionRef}
    {line : Bytes} {rest : List Bytes} {hearings : Hearings} (hhost : listener.body = .host) :
    lineCalls conduct this listener done (line :: rest) hearings =
      let call : FunctionRef × Heard := (listener, ⟨this, [.value (lineValue line)]⟩)
      call ::
        match conduct listener (heardBy listener (hearings ++ [call])) with
        | .thrown exception => [(done, ⟨.undefined, [.value exception.value]⟩)]
        | .value _ => lineCalls conduct this listener done rest (hearings ++ [call]) := by
  simp only [lineCalls, outcomeOf, refusal_of_host hhost]

/-- What the arguments of the last callback tell of a result. -/
def toldOf (operation : Operation) (result : NativeResult) : List Told :=
  match operation with
  | .read => [.object (readProperties result)]
  | .stat => [.object (statProperties result)]
  | .readFromFile | .write | .move | .remove => (completionArguments result).map .value

/-- The calls that hand a result to the callbacks of an operation. -/
def deliveryCalls (conduct : Conduct) (global : Value) (operation : Operation)
    (callbacks : Callbacks) (result : NativeResult) (hearings : Hearings) : Hearings :=
  match callbacks.listener, result with
  | some listener, .ok answer =>
    if global.isObject then
      lineCalls conduct global listener callbacks.last (linesOf answer.bytes) hearings
    else []
  | _, _ => [(callbacks.last, ⟨.undefined, toldOf operation result⟩)]

/-- What is stored for a ticket. -/
def State.storedFor (s : State) (t : Ticket) : List Value :=
  ((s.registry t.engine).get? t.handle).getD []

/-- The calls that the completion of a ticket makes. -/
def completionCalls (conduct : Conduct) (s : State) (c : Ticket × NativeResult)
    (hearings : Hearings) : Hearings :=
  match c.1.purpose with
  | .embedder => []
  | .operation operation =>
    if s.isAlive c.1.engine then
      match operation.callbacks? c.1.handle (s.storedFor c.1) with
      | .error _ => []
      | .ok callbacks =>
        deliveryCalls conduct (s.global c.1.engine) operation callbacks c.2 hearings
    else []

/-- The state without a ticket and, while its engine lives, without its registration. -/
def State.finish (s : State) (t : Ticket) : State :=
  if s.isAlive t.engine then s.settle t else s.spend t

/-! ## Whole activities -/

section Activities

variable (conduct : Conduct) (s : State) (e : EngineId) (h : Handle) (hearings : Hearings)

/-- A call before a turn is heard before what the turn tells. -/
theorem ofTurn_applied (turn : Turn) (invocation : Invocation) :
    Scene.ofTurn hearings (turn.after [.applied invocation]) =
      Scene.ofTurn (hearings ++ [(invocation.function,
        ⟨invocation.this, invocation.arguments.map (told turn.state.heap)⟩)]) turn := by
  simp [Scene.ofTurn, Turn.heard, Turn.after, Event.heardCall?]

/-- When no activity is left to end, the scene stays. -/
theorem next_iterate_of_over (n : Nat) :
    (Scene.next conduct s.frames.length)^[n] ⟨s, hearings⟩ = ⟨s, hearings⟩ := by
  have hover : Scene.next conduct s.frames.length ⟨s, hearings⟩ = ⟨s, hearings⟩ :=
    if_pos (Nat.le_refl _)
  exact Function.iterate_fixed hover n

/-- The host ends the activity that goes on. -/
theorem next_of_going (activity : Activity) :
    Scene.next conduct s.frames.length ⟨s.enter e activity, hearings⟩ =
      Scene.take ⟨s.enter e activity, hearings⟩
        (Scene.reply conduct ⟨s.enter e activity, hearings⟩) := by
  have hgoing : ¬(s.enter e activity).frames.length ≤ s.frames.length := by simp
  exact if_neg hgoing

/-- The end of the last callback ends the completion. -/
theorem next_concluding (operation : Operation) (last : FunctionRef) :
    Scene.next conduct s.frames.length ⟨s.enter e (.concluding operation h last), hearings⟩ =
      ⟨s, hearings⟩ := by
  have hstep (outcome : Outcome) :
      step (s.enter e (.concluding operation h last)) (.return_ outcome) =
        s.conclude operation last outcome := rfl
  have hend (outcome : Outcome) :
      Scene.ofTurn hearings (s.conclude operation last outcome) = ⟨s, hearings⟩ := by
    cases outcome <;> exact congrArg (Scene.mk s) (List.append_nil hearings)
  rw [next_of_going, Scene.take]
  exact (congrArg (Scene.ofTurn hearings) (hstep _)).trans (hend _)

/-- The end of a listener leads to the next line, or at an exception to the last callback. -/
theorem next_listening (lines : LineDelivery) :
    Scene.next conduct s.frames.length ⟨s.enter e (.listening h lines), hearings⟩ =
      Scene.ofTurn hearings
        (match conduct lines.listener (heardBy lines.listener hearings) with
        | .value _ => s.nextLine e h lines
        | .thrown exception => s.stopLines e h lines exception) := by
  have hstep (outcome : Outcome) :
      step (s.enter e (.listening h lines)) (.return_ outcome) =
        match outcome with
        | .value _ => s.nextLine e h lines
        | .thrown exception => s.stopLines e h lines exception := by
    cases outcome <;> rfl
  rw [next_of_going, Scene.take]
  exact congrArg (Scene.ofTurn hearings) (hstep _)

/-- The last callback hears its arguments and the completion is over. -/
theorem iterate_applyLast (operation : Operation) (last : FunctionRef) {arguments : List Value}
    (hshort : arguments.length ≤ 1) (n : Nat) :
    (Scene.next conduct s.frames.length)^[n + 1]
        (Scene.ofTurn hearings (s.applyLast e h operation last arguments)) =
      ⟨s, hearings ++ [(last, ⟨.undefined, arguments.map (told s.heap)⟩)]⟩ := by
  rcases refusal_or_host last arguments hshort with ⟨exception, hrefusal⟩ | hhost
  · rw [applyLast_of_refusal s e h hrefusal]
    exact next_iterate_of_over conduct s _ (n + 1)
  · rw [applyLast_of_host s e h arguments hhost, Function.iterate_succ_apply]
    refine (congrArg _ (next_concluding conduct s e h _ operation last)).trans ?_
    exact next_iterate_of_over conduct s _ n

/-- Once a listener has thrown, the last callback hears the exception and the completion is
over. -/
theorem iterate_stopLines (lines : LineDelivery) (exception : ScriptException) (n : Nat) :
    (Scene.next conduct s.frames.length)^[n + 1]
        (Scene.ofTurn hearings (s.stopLines e h lines exception)) =
      ⟨s, hearings ++ [(lines.done, ⟨.undefined, [.value exception.value]⟩)]⟩ :=
  iterate_applyLast conduct s e h hearings .readFromFile lines.done
    (Nat.le_refl [exception.value].length) n

/-- The delivery of lines tells the callbacks what `lineCalls` says and comes to an end. -/
theorem iterate_nextLine (lines : LineDelivery) {n : Nat} (hn : lines.rest.lines.length ≤ n) :
    (Scene.next conduct s.frames.length)^[n + 1]
        (Scene.ofTurn hearings (s.nextLine e h lines)) =
      ⟨s, hearings ++
        lineCalls conduct lines.this lines.listener lines.done lines.rest.lines hearings⟩ := by
  induction hcursor : lines.rest using Cursor.lines.induct generalizing lines hearings n with
  | case1 cursor hnone =>
    subst hcursor
    have hshort : ([] : List Value).length ≤ 1 := Nat.zero_le 1
    rw [nextLine_of_none s e h hnone, Cursor.lines_of_none hnone]
    exact iterate_applyLast conduct s e h hearings .readFromFile lines.done hshort n
  | case2 cursor line rest hsome ih =>
    subst hcursor
    rw [Cursor.lines_of_some hsome] at hn ⊢
    rcases refusal_or_host lines.listener [lineValue line] (Nat.le_refl 1) with
      ⟨exception, hrefusal⟩ | hhost
    · rw [nextLine_of_refusal s e h hsome hrefusal, ofTurn_applied, iterate_stopLines,
        lineCalls_of_refusal hrefusal, List.append_assoc]
      rfl
    · let heard : LineDelivery := { lines with rest := rest, delivered := lines.delivered + 1 }
      let call : FunctionRef × Heard := (lines.listener, ⟨lines.this, [.value (lineValue line)]⟩)
      have hscene : Scene.ofTurn hearings (s.nextLine e h lines) =
          ⟨s.enter e (.listening h heard), hearings ++ [call]⟩ := by
        rw [nextLine_of_host s e h hsome hhost]
        rfl
      obtain ⟨n, rfl⟩ : ∃ k, n = k + 1 := Nat.exists_eq_add_one.mpr (Nat.lt_of_lt_of_le
        (Nat.succ_pos rest.lines.length) hn)
      rw [hscene, Function.iterate_succ_apply, next_listening, lineCalls_of_host hhost]
      dsimp only [heard]
      cases conduct lines.listener (heardBy lines.listener (hearings ++ [call])) with
      | value _ =>
        have hcall := ih (hearings ++ [call]) heard (Nat.le_of_succ_le_succ hn) rfl
        rw [List.append_assoc] at hcall
        exact hcall
      | thrown exception =>
        have hcall := iterate_stopLines conduct s e h (hearings ++ [call]) heard exception n
        rw [List.append_assoc] at hcall
        exact hcall

/-- A fatal error tells no callback anything, and once its hook has returned the completion is
over. -/
theorem iterate_reportFatal (error : ScriptError) (n : Nat) :
    (Scene.next conduct s.frames.length)^[n + 1]
        (Scene.ofTurn hearings (s.reportFatal e error)) = ⟨s, hearings⟩ := by
  have hsame : (⟨s, hearings ++ []⟩ : Scene) = ⟨s, hearings⟩ :=
    congrArg (Scene.mk s) (List.append_nil hearings)
  unfold State.reportFatal
  split
  · rw [Function.iterate_succ_apply]
    have hnext : Scene.next conduct s.frames.length ⟨s.enter e .reporting, hearings ++ []⟩ =
        ⟨s, hearings⟩ := by
      rw [next_of_going, List.append_nil]
      exact hsame
    exact (congrArg _ hnext).trans (next_iterate_of_over conduct s hearings n)
  · exact (congrArg _ hsame).trans (next_iterate_of_over conduct s hearings (n + 1))

/-- What the arguments of the last callback tell depends on the result only. -/
theorem told_lastArguments (operation : Operation) (result : NativeResult) (heap : Heap) :
    (lastArguments operation result heap).1.map (told (lastArguments operation result heap).2) =
      toldOf operation result := by
  cases operation with
  | read =>
    exact congrArg (fun properties => [Told.object properties])
      (heap.properties_newObject (readProperties result))
  | stat =>
    exact congrArg (fun properties => [Told.object properties])
      (heap.properties_newObject (statProperties result))
  | readFromFile | write | move | remove => cases result <;> rfl

/-- A completion has at least one activity to wait for. -/
theorem activityCount_eq_succ (result : NativeResult) : ∃ n, activityCount result = n + 1 := by
  cases result with
  | ok answer => exact ⟨_, rfl⟩
  | failed error => exact ⟨0, rfl⟩

/-- Handing over a result tells the callbacks what `deliveryCalls` says and comes to an end, with
nothing but new objects left behind. -/
theorem iterate_complete (operation : Operation) (callbacks : Callbacks) (result : NativeResult) :
    ∃ heap, (Scene.next conduct s.frames.length)^[activityCount result]
        (Scene.ofTurn hearings (s.complete e h operation callbacks result)) =
      ⟨{ s with heap := heap }, hearings ++
        deliveryCalls conduct (s.global e) operation callbacks result hearings⟩ := by
  have hlast : (Scene.next conduct s.frames.length)^[activityCount result]
      (Scene.ofTurn hearings (State.applyLast
        { s with heap := (lastArguments operation result s.heap).2 } e h operation callbacks.last
        (lastArguments operation result s.heap).1)) =
      ⟨{ s with heap := (lastArguments operation result s.heap).2 },
        hearings ++ [(callbacks.last, ⟨.undefined, toldOf operation result⟩)]⟩ := by
    obtain ⟨n, hcount⟩ := activityCount_eq_succ result
    rw [hcount, ← told_lastArguments operation result s.heap]
    exact iterate_applyLast conduct { s with heap := (lastArguments operation result s.heap).2 } e h
      hearings operation callbacks.last (length_lastArguments operation result s.heap) n
  obtain ⟨listener, last⟩ := callbacks
  cases listener with
  | none => exact ⟨_, hlast⟩
  | some listener =>
    cases result with
    | failed error => exact ⟨_, hlast⟩
    | ok answer =>
      refine ⟨s.heap, ?_⟩
      by_cases hobject : (s.global e).isObject = true
      · simp only [State.complete, deliveryCalls, hobject, if_true]
        exact iterate_nextLine conduct s e h hearings _ (Nat.le_refl _)
      · simp only [State.complete, deliveryCalls, hobject, Bool.false_eq_true, if_false,
          List.append_nil]
        exact iterate_reportFatal conduct s e hearings _ _

end Activities

/-! ## Whole completions -/

/-- What a completion comes to when callbacks only listen: its ticket is gone and, if its engine
lives, its registration; everything else is as before up to new objects, and the callbacks heard
`completionCalls`. -/
theorem complete_eq (conduct : Conduct) {s : State} (hearings : Hearings)
    {t : Ticket} {result : NativeResult} (hregistered : Registered s)
    (hredeems : Redeems s (.fire t.id result) t) :
    ∃ heap, Scene.complete conduct ⟨s, hearings⟩ (t, result) =
      ⟨{ s.finish t with heap := heap },
        hearings ++ completionCalls conduct s (t, result) hearings⟩ := by
  obtain ⟨hticket, operation, hpurpose, haccepts⟩ := hredeems.of_fire
  by_cases halive : s.isAlive t.engine = true
  · obtain ⟨callbacks, hget, hlength, hok⟩ := hregistered.callbacks hredeems.mem hpurpose
    have hstep : step s (.fire t.id result) =
        (s.settle t).complete t.engine t.handle operation callbacks result :=
      hredeems.step_complete hpurpose halive hget hlength
    obtain ⟨heap, hiterate⟩ :=
      iterate_complete conduct (s.settle t) t.engine t.handle hearings operation callbacks result
    refine ⟨heap, ?_⟩
    have hcalls : completionCalls conduct s (t, result) hearings =
        deliveryCalls conduct (s.global t.engine) operation callbacks result hearings := by
      simp only [completionCalls, hpurpose, halive, if_true, State.storedFor, hget,
        Option.getD_some, hok]
    rw [Scene.complete, Scene.take, hstep, hcalls, State.finish, if_pos halive]
    rw [State.global_settle] at hiterate
    exact hiterate
  · have hdead : s.isAlive t.engine = false := by simpa using halive
    refine ⟨s.heap, ?_⟩
    have hcalls : completionCalls conduct s (t, result) hearings = [] := by
      simp only [completionCalls, hpurpose, hdead, Bool.false_eq_true, if_false]
    rw [Scene.complete, Scene.take, hredeems.step_gone hdead, hcalls, State.finish, if_neg halive]
    exact next_iterate_of_over conduct (s.spend t) _ _

end ScriptFiles.Bridge
