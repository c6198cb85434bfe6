import ScriptFiles.Proofs.Bridge.Outcomes

/-!
# Completions and resumptions from the first turn to the last

What a completion or a resumption that finds its engine alive does in all turns of its own, the one
in which it is made and those in which its activity goes on. A completion reads lines by the
protocol or tells the result in one call of the last callback (`HandsOver`). A resumption delivers
the stored values, and reports the error with which the host ends the delivery (`resumedEffects`).
-/

namespace ScriptFiles.Bridge

variable {s : State} {e : EngineId} {h : Handle} {base : List Frame}

/-! ## Completions -/

/-- What the completion of an operation does with its callbacks in the turn in which it is made and
in its own turns from then on: content to deliver by lines is read by the protocol, and any other
result is told in one call of the last callback. -/
def HandsOver (s : State) (e : EngineId) (h : Handle) (operation : Operation)
    (callbacks : Callbacks) (result : NativeResult) (turn : Turn) (own : List (Move × Turn)) :
    Prop :=
  match callbacks.listener with
  | some listener =>
    effects turn.events ++ turnEffects own =
      readEffects s e h listener callbacks.last (turnOutcomes own) result
  | none =>
    ∃ arguments, Tells turn.state.heap operation result arguments ∧
      effects turn.events ++ turnEffects own =
        [.applied (lastInvocation e h operation callbacks.last arguments)]

/-- A completion that finds its engine alive hands its result over to the stored callbacks. -/
theorem Redeems.handsOver {t : Ticket} {operation : Operation} {callbacks : Callbacks}
    {result : NativeResult} (hredeems : Redeems s (.fire t.id result) t) (hformed : Formed s)
    (hpurpose : t.purpose = .operation operation) (halive : s.isAlive t.engine = true)
    (hlength : callbacks.functions.length = operation.callbackCount)
    (hstored : (s.registry t.engine).get? t.handle =
      some (callbacks.functions.map Value.function)) (later : List Move) :
    let fired := step s (.fire t.id result)
    HandsOver s t.engine t.handle operation callbacks result fired
      (ownTurns s.frames.length fired.state later) := by
  obtain ⟨-, operation', hpurpose', haccepts⟩ := hredeems.of_fire
  obtain rfl : operation = operation' := by simpa [hpurpose] using hpurpose'
  obtain ⟨_ | listener, last⟩ := callbacks
  · have hturn := hredeems.step_complete hpurpose halive hstored hlength
    have hafter := hformed.step (.fire t.id result)
    have hnone : (Callbacks.mk none last).listener.isSome → result.error?.isSome :=
      fun hsome => absurd hsome Bool.false_ne_true
    rw [hturn] at hafter ⊢
    exact complete_told_effects hnone haccepts later hafter
  · obtain rfl : operation = .readFromFile := (Callbacks.isSome_listener_iff hlength).mp rfl
    exact hredeems.read_effects hformed hpurpose halive hstored later

/-! ## Resumptions -/

/-- The effects of the turns in which a delivery to the host goes on: none, or the report of the
error with which the host ends it, with the hook that is installed then. -/
def resumedEffects (e : EngineId) : List (Move × Turn) → List Event
  | [] => []
  | (.delivered none, _) :: _ => []
  | (.delivered (some error), turn) :: _ => [.fatal e (turn.state.hook e) error]
  | _ :: rest => resumedEffects e rest

/-- A turn that does not end the delivery changes nothing about its effects. -/
theorem resumedEffects_of_other {m : Move} (hother : ∀ error, m ≠ .delivered error) (turn : Turn)
    (rest : List (Move × Turn)) : resumedEffects e ((m, turn) :: rest) = resumedEffects e rest := by
  cases m with
  | delivered error => exact absurd rfl (hother error)
  | _ => rfl

/-- What the host ends while it takes delivered values is the delivery, or nothing. -/
theorem step_of_delivering {m : Move} (hframes : s.frames = ⟨e, .delivering h⟩ :: base)
    (hends : m.ends = true) :
    ((∀ error, m ≠ .delivered error) ∧ step s m = refuse s) ∨
      (m = .delivered none ∧ step s m = ⟨{ s with frames := base }, [], .finished⟩) ∨
      ∃ error, m = .delivered (some error) ∧
        step s m = State.reportFatal { s with frames := base } e error := by
  cases m with
  | delivered error =>
    cases error with
    | none => exact Or.inr (Or.inl ⟨rfl, by simp only [step, hframes]⟩)
    | some error => exact Or.inr (Or.inr ⟨error, rfl, by simp only [step, hframes]⟩)
  | return_ outcome =>
    exact Or.inl ⟨by simp, by simp only [step, State.return_, hframes, Option.getD_none]⟩
  | acknowledge | reported => exact Or.inl ⟨by simp, by simp only [step, hframes]⟩
  | _ => contradiction

/-- Reporting a fatal error installs no hook. -/
theorem hook_reportFatal (s : State) (e e' : EngineId) (error : ScriptError) :
    (s.reportFatal e error).state.hook e' = s.hook e' := by
  rcases state_reportFatal s e error with hstate | hstate <;> rw [hstate]
  rfl

/-- A run goes on while the host takes delivered values as the host ends the delivery. -/
theorem delivering_effects (hformed : Formed s) (moves : List Move) (inner : List Frame)
    (hframes : s.frames = inner ++ ⟨e, .delivering h⟩ :: base) :
    turnEffects (ownTurns base.length s moves) =
      resumedEffects e (ownTurns base.length s moves) := by
  induction moves generalizing s inner with
  | nil => rfl
  | cons m rest ih =>
    have hformedStep := hformed.step m
    by_cases hown : s.frames.length = base.length + 1 ∧ m.ends = true
    · have hinnermost := frames_of_length hframes hown.1
      rw [ownTurns_of_innermost rest hinnermost hown.2, turnEffects_cons]
      rcases step_of_delivering hinnermost hown.2 with
        ⟨hother, hstep⟩ | ⟨rfl, hstep⟩ | ⟨error, rfl, hstep⟩
      · rw [resumedEffects_of_other hother, hstep]
        exact ih hformed [] hinnermost
      · have hended : ownTurns base.length { s with frames := base } rest = [] :=
          ownTurns_of_ended rest rfl
        rw [hstep, hended]
        rfl
      · obtain ⟨heffects, hafter⟩ := reportFatal_effects { s with frames := base } e error
        rw [hstep] at hformedStep ⊢
        rw [heffects, turnEffects_of_rest hformedStep rest hafter rfl, resumedEffects,
          hook_reportFatal]
        rfl
    · obtain ⟨inner', hafter⟩ := (answers_step hformed.seated m).keeps hframes nofun hown
      rw [ownTurns_of_other rest hframes hown]
      exact ih hformedStep inner' hafter

/-- A resumption that finds its engine alive asks the host to take the stored values. -/
theorem Redeems.step_resumed {t : Ticket} {values : List Value}
    (hredeems : Redeems s (.resume t.id) t) (halive : s.isAlive t.engine = true)
    (hstored : (s.registry t.engine).get? t.handle = some values) :
    step s (.resume t.id) =
      ⟨(s.settle t).enter t.engine (.delivering t.handle),
        [.delivered t.engine t.handle values], .deliver t.engine t.handle values⟩ := by
  obtain ⟨hticket, hpurpose⟩ := hredeems.of_resume
  rw [step_resume hticket hpurpose, resume_eq, if_pos halive, hstored]

/-- A resumption that finds its engine alive delivers the stored values, and reports the error with
which the host ends the delivery. -/
theorem Redeems.resumed_effects {t : Ticket} {values : List Value}
    (hredeems : Redeems s (.resume t.id) t) (hformed : Formed s)
    (halive : s.isAlive t.engine = true)
    (hstored : (s.registry t.engine).get? t.handle = some values) (later : List Move) :
    let resumed := step s (.resume t.id)
    let own := ownTurns s.frames.length resumed.state later
    effects resumed.events ++ turnEffects own =
      .delivered t.engine t.handle values :: resumedEffects t.engine own := by
  have hafter := hformed.step (.resume t.id)
  rw [hredeems.step_resumed halive hstored] at hafter ⊢
  exact congrArg _ (delivering_effects hafter later [] rfl)

end ScriptFiles.Bridge
