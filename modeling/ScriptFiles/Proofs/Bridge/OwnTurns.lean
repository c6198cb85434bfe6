import ScriptFiles.Proofs.Bridge.Ledger

/-!
# The turns of one activity

Activities go on inside each other. While others go on inside an activity, moves come and go on
top of it and leave it where it is; it goes on itself only when it is innermost and the host ends
what it waited for. `ownTurns` picks those turns out of a run, by the number of activities outside
the one that is followed.
-/

namespace ScriptFiles.Bridge

/-- A move that ends what the innermost activity waits for. -/
def Move.ends : Move → Bool
  | .return_ _ | .acknowledge | .delivered _ | .reported => true
  | _ => false

/-- The turns in which the activity with `depth` activities outside it is innermost and goes on,
up to its end. -/
def ownTurns (depth : Nat) (s : State) : List Move → List (Move × Turn)
  | [] => []
  | m :: rest =>
    if s.frames.length ≤ depth then []
    else if s.frames.length = depth + 1 ∧ m.ends = true then
      (m, step s m) :: ownTurns depth (step s m).state rest
    else ownTurns depth (step s m).state rest

/-- An event that is more than a log entry. -/
def Event.isEffect : Event → Bool
  | .logged _ => false
  | _ => true

/-- The events that are more than log entries. -/
def effects (events : List Event) : List Event :=
  events.filter Event.isEffect

/-- The effects of turns. -/
def turnEffects (turns : List (Move × Turn)) : List Event :=
  turns.flatMap fun turn => effects turn.2.events

/-- How the function ends that a move returns from. -/
def Move.outcome? : Move → Option Outcome
  | .return_ outcome => some outcome
  | _ => none

/-- How the functions end that turns return from. -/
def turnOutcomes (turns : List (Move × Turn)) : List Outcome :=
  turns.filterMap fun turn => turn.1.outcome?

@[simp] theorem turnEffects_nil : turnEffects [] = [] := rfl

/-- The effects of turns begin with those of the first one. -/
@[simp] theorem turnEffects_cons (m : Move) (turn : Turn) (rest : List (Move × Turn)) :
    turnEffects ((m, turn) :: rest) = effects turn.events ++ turnEffects rest := rfl

@[simp] theorem turnOutcomes_nil : turnOutcomes [] = [] := rfl

/-- A turn that returns from a function has its outcome. -/
@[simp] theorem turnOutcomes_return (outcome : Outcome) (turn : Turn)
    (rest : List (Move × Turn)) :
    turnOutcomes ((.return_ outcome, turn) :: rest) = outcome :: turnOutcomes rest := rfl

/-- A turn that returns from no function has no outcome. -/
theorem turnOutcomes_of_none {m : Move} (houtcome : m.outcome? = none) (turn : Turn)
    (rest : List (Move × Turn)) : turnOutcomes ((m, turn) :: rest) = turnOutcomes rest :=
  List.filterMap_cons_none houtcome

variable {s : State} {base : List Frame} {frame : Frame}

/-! ## Stack discipline -/

/-- A move that ends nothing leaves all activities where they are. -/
theorem Answers.grows {m : Move} {turn : Turn} (hanswers : Answers s m turn)
    (hends : m.ends = false) : ∃ inner, turn.state.frames = inner ++ s.frames := by
  have hreport (s' : State) (e : EngineId) (error : ScriptError) :
      ∃ inner, (s'.reportFatal e error).state.frames = inner ++ s'.frames := by
    rcases state_reportFatal s' e error with hstate | hstate <;> rw [hstate]
    · exact ⟨[], rfl⟩
    · exact ⟨[⟨e, .reporting⟩], rfl⟩
  cases hanswers with
  | refused | turnedAway _ _ | stored _ | gone _ _ | unstored _ _ _ | abandoned _ => exact ⟨[], rfl⟩
  | hosted _ huntouched _ => exact ⟨[], huntouched.frames⟩
  | @called e _ _ _ _ _ => exact ⟨[⟨e, .call⟩], rfl⟩
  | @issued e _ _ _ _ _ _ _ _ => exact ⟨[⟨e, .asking⟩, ⟨e, .call⟩], rfl⟩
  | mismatched _ _ _ _ _ | contextless _ _ _ _ _ _ _ => exact hreport _ _ _
  | delivered _ _ _ _ _ hturn =>
    rcases hturn.frames with hframes | ⟨a, -, hframes⟩
    · exact ⟨[], hframes⟩
    · exact ⟨[_], hframes⟩
  | @resumed t _ _ _ _ => exact ⟨[⟨t.engine, .delivering t.handle⟩], rfl⟩
  | returned _ | heard _ _ | concluded _ | acknowledged _ | handedOver _ | failed _
  | reported _ => contradiction

/-- A move that is made inside an activity leaves it where it is. -/
theorem Shift.keeps {frames inner : List Frame} {first : Frame} (hshift : Shift s frames)
    (hframes : s.frames = first :: inner ++ frame :: base) (hcall : frame.activity ≠ .call) :
    ∃ inner', frames = inner' ++ frame :: base := by
  cases hshift with
  | same => exact ⟨first :: inner, hframes⟩
  | @entered e a _ _ => exact ⟨⟨e, a⟩ :: first :: inner, by rw [hframes]; rfl⟩
  | @asked e _ => exact ⟨⟨e, .asking⟩ :: ⟨e, .call⟩ :: first :: inner, by rw [hframes]; rfl⟩
  | left hbefore _ =>
    rw [hbefore, List.cons_append, List.cons.injEq] at hframes
    exact ⟨inner, hframes.2⟩
  | acknowledged hbefore =>
    rw [hbefore, List.cons_append, List.cons.injEq] at hframes
    cases inner with
    | nil =>
      obtain ⟨rfl, -⟩ := List.cons.inj hframes.2
      exact absurd rfl hcall
    | cons second inner => exact ⟨inner, (List.cons.inj hframes.2).2⟩
  | @followed e _ a' _ hbefore _ _ =>
    rw [hbefore, List.cons_append, List.cons.injEq] at hframes
    exact ⟨⟨e, a'⟩ :: inner, by rw [hframes.2]; rfl⟩

/-- A move leaves an activity where it is unless it ends what the activity waits for. -/
theorem Answers.keeps {m : Move} {turn : Turn} (hanswers : Answers s m turn) {inner : List Frame}
    (hframes : s.frames = inner ++ frame :: base) (hcall : frame.activity ≠ .call)
    (hown : ¬(s.frames.length = base.length + 1 ∧ m.ends = true)) :
    ∃ inner', turn.state.frames = inner' ++ frame :: base := by
  cases hends : m.ends with
  | false =>
    obtain ⟨new, hafter⟩ := hanswers.grows hends
    exact ⟨new ++ inner, by rw [hafter, hframes, List.append_assoc]⟩
  | true =>
    cases inner with
    | nil => exact absurd ⟨by rw [hframes]; rfl, hends⟩ hown
    | cons first inner => exact hanswers.shift.keeps hframes hcall

/-! ## Own turns -/

/-- An activity that has ended has no more turns. -/
theorem ownTurns_of_ended (moves : List Move) (hframes : s.frames = base) :
    ownTurns base.length s moves = [] := by
  cases moves with
  | nil => rfl
  | cons m rest => rw [ownTurns, if_pos (Nat.le_of_eq (congrArg List.length hframes))]

/-- An activity that is innermost has the next turn when the host ends what it waits for. -/
theorem ownTurns_of_innermost {m : Move} (rest : List Move) (hframes : s.frames = frame :: base)
    (hends : m.ends = true) :
    ownTurns base.length s (m :: rest) =
      (m, step s m) :: ownTurns base.length (step s m).state rest := by
  have hlength : s.frames.length = base.length + 1 := by rw [hframes]; rfl
  rw [ownTurns, if_neg (by omega), if_pos ⟨hlength, hends⟩]

/-- A turn of others is no turn of an activity. -/
theorem ownTurns_of_other {m : Move} (rest : List Move) {inner : List Frame}
    (hframes : s.frames = inner ++ frame :: base)
    (hown : ¬(s.frames.length = base.length + 1 ∧ m.ends = true)) :
    ownTurns base.length s (m :: rest) = ownTurns base.length (step s m).state rest := by
  have hlength : base.length < s.frames.length := by
    rw [hframes, List.length_append, List.length_cons]
    omega
  rw [ownTurns, if_neg (by omega), if_neg hown]

/-- An activity with only its own outside it is innermost. -/
theorem frames_of_length {inner : List Frame} (hframes : s.frames = inner ++ frame :: base)
    (hlength : s.frames.length = base.length + 1) : s.frames = frame :: base := by
  rw [hframes, List.length_append, List.length_cons] at hlength
  obtain rfl : inner = [] := List.eq_nil_of_length_eq_zero (by omega)
  exact hframes

/-- The effects of the turns of an activity are among the events of the run. -/
theorem sublist_ownTurns (depth : Nat) (s : State) (moves : List Move) :
    (turnEffects (ownTurns depth s moves)).Sublist (trace s moves) := by
  induction moves generalizing s with
  | nil => exact List.Sublist.refl _
  | cons m rest ih =>
    rw [ownTurns, trace_cons]
    split
    · exact List.nil_sublist _
    · split
      · exact List.filter_sublist.append (ih _)
      · exact (ih _).trans (List.sublist_append_right _ _)

/-! ## Activities that only end -/

/-- An activity that does nothing more than end: a last callback or a fatal hook runs. -/
def Activity.isFinal : Activity → Bool
  | .concluding .. | .reporting => true
  | _ => false

/-- Ending an activity that only ends has no effect. -/
theorem step_of_final {m : Move} (hframes : s.frames = frame :: base)
    (hfinal : frame.activity.isFinal = true) (hends : m.ends = true) :
    effects (step s m).events = [] ∧
      ((step s m).state.frames = base ∨ (step s m).state.frames = frame :: base) := by
  obtain ⟨e, a⟩ := frame
  cases a with
  | concluding operation h last =>
    cases m with
    | return_ outcome =>
      simp only [step, State.return_, hframes, Option.getD_some]
      cases outcome <;> exact ⟨rfl, Or.inl rfl⟩
    | acknowledge | delivered _ | reported =>
      simp only [step, hframes]
      exact ⟨rfl, Or.inr hframes⟩
    | _ => contradiction
  | reporting =>
    cases m with
    | return_ outcome =>
      simp only [step, State.return_, hframes, Option.getD_none]
      exact ⟨rfl, Or.inr hframes⟩
    | reported =>
      simp only [step, hframes]
      exact ⟨rfl, Or.inl trivial⟩
    | acknowledge | delivered _ =>
      simp only [step, hframes]
      exact ⟨rfl, Or.inr hframes⟩
    | _ => contradiction
  | _ => contradiction

/-- The turns of an activity that only ends have no effect. -/
theorem turnEffects_of_final (hformed : Formed s) (moves : List Move) (inner : List Frame)
    (hframes : s.frames = inner ++ frame :: base) (hfinal : frame.activity.isFinal = true) :
    turnEffects (ownTurns base.length s moves) = [] := by
  have hcall : frame.activity ≠ .call := by
    rintro heq
    rw [heq] at hfinal
    contradiction
  induction moves generalizing s inner with
  | nil => rfl
  | cons m rest ih =>
    by_cases hown : s.frames.length = base.length + 1 ∧ m.ends = true
    · have hinnermost := frames_of_length hframes hown.1
      obtain ⟨heffects, hafter⟩ := step_of_final hinnermost hfinal hown.2
      rw [ownTurns_of_innermost rest hinnermost hown.2, turnEffects_cons, heffects]
      rcases hafter with hended | hsame
      · rw [ownTurns_of_ended rest hended]
        rfl
      · exact ih (hformed.step m) [] hsame
    · obtain ⟨inner', hafter⟩ := (answers_step hformed.seated m).keeps hframes hcall hown
      rw [ownTurns_of_other rest hframes hown]
      exact ih (hformed.step m) inner' hafter

end ScriptFiles.Bridge
