import ScriptFiles.Proofs.Bridge.Answers

/-!
# Activities, engines and runs

What one move does to the activities (`Shift`) and to the engines, and what follows for every
state of a run: activities and tickets belong to engines that exist, ticket numbers are never
used twice, and an engine that neither is held nor has anything going on inside it stays that
way for good.
-/

namespace ScriptFiles.Bridge

/-! ## Deliveries -/

/-- A delivery changes nothing but the heap and the activities. -/
theorem Delivery.engines_eq {s : State} {e : EngineId} {h : Handle} {operation : Operation}
    {last : FunctionRef} {turn : Turn} (hturn : Delivery s e h operation last turn) :
    turn.state.engines = s.engines ∧ turn.state.tickets = s.tickets ∧
      turn.state.ticketCount = s.ticketCount := by
  induction hturn with
  | concluded _ | concluding _ | listening _ _ _ => exact ⟨rfl, rfl, rfl⟩
  | allLines _ ih | stopped _ ih | refused _ _ ih => exact ih

/-- A delivery ends the completion or leaves it waiting for one callback. -/
theorem Delivery.frames {s : State} {e : EngineId} {h : Handle} {operation : Operation}
    {last : FunctionRef} {turn : Turn} (hturn : Delivery s e h operation last turn) :
    turn.state.frames = s.frames ∨
      ∃ a, a ≠ .asking ∧ turn.state.frames = ⟨e, a⟩ :: s.frames := by
  induction hturn with
  | concluded _ => exact Or.inl rfl
  | concluding _ => exact Or.inr ⟨.concluding operation h last, nofun, rfl⟩
  | @listening lines _ _ _ _ => exact Or.inr ⟨.listening h lines, nofun, rfl⟩
  | allLines _ ih | stopped _ ih | refused _ _ ih => exact ih

/-- Ending the last callback ends the completion. -/
@[simp] theorem state_conclude (s : State) (operation : Operation) (last : FunctionRef)
    (outcome : Outcome) : (s.conclude operation last outcome).state = s := by
  cases outcome <;> rfl

/-- Reporting a fatal error at most enters the hook. -/
theorem state_reportFatal (s : State) (e : EngineId) (error : ScriptError) :
    (s.reportFatal e error).state = s ∨ (s.reportFatal e error).state = s.enter e .reporting := by
  unfold State.reportFatal
  split
  · exact Or.inr rfl
  · exact Or.inl rfl

/-- Reporting a fatal error is never refused. -/
theorem prompt_reportFatal {s : State} {e : EngineId} {error : ScriptError} :
    (s.reportFatal e error).prompt ≠ .refused := by
  unfold State.reportFatal
  split <;> nofun

/-- A delivery is never refused. -/
theorem Delivery.prompt_ne {s : State} {e : EngineId} {h : Handle} {operation : Operation}
    {last : FunctionRef} {turn : Turn} (hturn : Delivery s e h operation last turn) :
    turn.prompt ≠ .refused := by
  induction hturn with
  | concluded _ | concluding _ | listening _ _ _ => nofun
  | allLines _ ih | stopped _ ih | refused _ _ ih => exact ih

/-- Redeeming a ticket is never refused. -/
theorem Redeems.prompt_ne {s : State} {m : Move} {t : Ticket} (hredeems : Redeems s m t) :
    (step s m).prompt ≠ .refused := by
  cases hredeems with
  | fire hticket hpurpose haccepts =>
    rw [step_fire hticket hpurpose haccepts, fire_eq]
    split
    · split
      · nofun
      · split
        · exact prompt_reportFatal
        · next callbacks hcallbacks =>
          have hlines :=
            Callbacks.isSome_listener_iff (Operation.callbacks?_eq_ok_iff.mp hcallbacks).2
          rcases complete_cases (s.settle t) t.engine t.handle _ callbacks _ hlines.mp with
            ⟨-, -, -, hturn⟩ | ⟨-, heap, hturn⟩
          · rw [hturn]
            exact prompt_reportFatal
          · exact hturn.prompt_ne
    · nofun
  | resume hticket hpurpose =>
    rw [step_resume hticket hpurpose, resume_eq]
    split
    · split <;> nofun
    · nofun

/-- A completion that is not refused redeems a ticket. -/
theorem exists_redeems {s : State} {id : Nat} {result : NativeResult}
    (hprompt : (step s (.fire id result)).prompt ≠ .refused) :
    ∃ t, t.id = id ∧ Redeems s (.fire id result) t := by
  simp only [step] at hprompt
  cases hticket : s.ticket? id with
  | none => simp [hticket, refuse] at hprompt
  | some t =>
    obtain rfl := id_of_ticket? hticket
    cases hpurpose : t.purpose with
    | embedder => simp [hticket, hpurpose, refuse] at hprompt
    | operation operation =>
      cases haccepts : operation.accepts result with
      | false => simp [hticket, hpurpose, haccepts, guarded, refuse] at hprompt
      | true => exact ⟨t, rfl, .fire hticket hpurpose haccepts⟩

/-! ## Activities -/

/-- What a move does to the activities: nothing, enter one, enter a call that asks the service,
end the innermost one, end a call that asked, or follow the innermost one up by another one. -/
inductive Shift (s : State) : List Frame → Prop
  | same : Shift s s.frames
  | entered {e : EngineId} {a : Activity} (halive : s.isAlive e = true) (ha : a ≠ .asking) :
      Shift s (⟨e, a⟩ :: s.frames)
  | asked {e : EngineId} (halive : s.isAlive e = true) :
      Shift s (⟨e, .asking⟩ :: ⟨e, .call⟩ :: s.frames)
  | left {frame : Frame} {outer : List Frame} (hframes : s.frames = frame :: outer)
      (ha : frame.activity ≠ .asking) : Shift s outer
  | acknowledged {e e' : EngineId} {outer : List Frame}
      (hframes : s.frames = ⟨e, .asking⟩ :: ⟨e', .call⟩ :: outer) : Shift s outer
  | followed {e : EngineId} {a a' : Activity} {outer : List Frame}
      (hframes : s.frames = ⟨e, a⟩ :: outer) (ha : a ≠ .asking) (ha' : a' ≠ .asking) :
      Shift s (⟨e, a'⟩ :: outer)

/-- Every move shifts the activities. -/
theorem Answers.shift {s : State} {m : Move} {turn : Turn} (hanswers : Answers s m turn) :
    Shift s turn.state.frames := by
  cases hanswers with
  | refused | turnedAway _ _ | stored _ | gone _ _ | unstored _ _ _ | abandoned _ => exact .same
  | hosted _ huntouched _ =>
    rw [huntouched.frames]
    exact .same
  | called halive _ => exact .entered halive nofun
  | issued halive _ _ => exact .asked halive
  | @mismatched t _ _ _ error _ _ halive _ _ =>
    rcases state_reportFatal (s.settle t) t.engine error with hstate | hstate <;> rw [hstate]
    · exact .same
    · exact .entered halive nofun
  | @contextless t _ _ _ _ _ halive _ _ _ _ =>
    rcases state_reportFatal (s.settle t) t.engine contextError with hstate | hstate <;> rw [hstate]
    · exact .same
    · exact .entered halive nofun
  | delivered _ _ halive _ _ hturn =>
    rcases hturn.frames with hframes | ⟨a, ha, hframes⟩ <;> rw [hframes]
    · exact .same
    · exact .entered halive ha
  | resumed _ halive _ => exact .entered halive nofun
  | returned hframes => exact .left hframes nofun
  | heard hframes hturn =>
    rcases hturn.frames with hafter | ⟨a, ha, hafter⟩ <;> rw [hafter]
    · exact .left hframes nofun
    · exact .followed hframes nofun ha
  | concluded hframes =>
    rw [state_conclude]
    exact .left hframes nofun
  | acknowledged hframes => exact .acknowledged hframes
  | handedOver hframes => exact .left hframes nofun
  | @failed e _ outer error hframes =>
    rcases state_reportFatal { s with frames := outer } e error with hstate | hstate <;> rw [hstate]
    · exact .left hframes nofun
    · exact .followed hframes nofun nofun
  | reported hframes => exact .left hframes nofun

/-- Activities stay seated. -/
theorem Shift.seated {s : State} {frames : List Frame} (hshift : Shift s frames)
    (hseated : Seated s.frames) : Seated frames := by
  cases hshift with
  | same => exact hseated
  | entered _ ha => exact ⟨fun h => absurd h ha, hseated⟩
  | asked _ => exact ⟨fun _ => ⟨_, _, rfl⟩, nofun, hseated⟩
  | left hframes _ =>
    rw [hframes] at hseated
    exact hseated.2
  | acknowledged hframes =>
    rw [hframes] at hseated
    exact hseated.2.2
  | followed hframes _ ha' =>
    rw [hframes] at hseated
    exact ⟨fun h => absurd h ha', hseated.2⟩

/-- Something goes on afterwards only inside engines that lived before. -/
theorem Shift.alive {s : State} {frames : List Frame} (hshift : Shift s frames) {frame : Frame}
    (hframe : frame ∈ frames) : s.isAlive frame.engine = true := by
  cases hshift with
  | same => exact State.isAlive_of_mem hframe
  | entered halive _ =>
    rcases List.mem_cons.mp hframe with rfl | hold
    · exact halive
    · exact State.isAlive_of_mem hold
  | asked halive =>
    rcases List.mem_cons.mp hframe with rfl | hrest
    · exact halive
    · rcases List.mem_cons.mp hrest with rfl | hold
      · exact halive
      · exact State.isAlive_of_mem hold
  | left hframes _ =>
    refine State.isAlive_of_mem ?_
    rw [hframes]
    exact List.mem_cons_of_mem _ hframe
  | acknowledged hframes =>
    refine State.isAlive_of_mem ?_
    rw [hframes]
    exact List.mem_cons_of_mem _ (List.mem_cons_of_mem _ hframe)
  | @followed e a _ _ hframes _ _ =>
    rcases List.mem_cons.mp hframe with rfl | hold
    · have hfirst : (⟨e, a⟩ : Frame) ∈ s.frames := by
        rw [hframes]
        exact List.mem_cons_self
      have halive := State.isAlive_of_mem hfirst
      exact halive
    · refine State.isAlive_of_mem ?_
      rw [hframes]
      exact List.mem_cons_of_mem _ hold

/-! ## Engines -/

/-- The same engines are retained. -/
theorem Retains.of_eq {s s' : State} (hengines : s'.engines = s.engines) : Retains s s' where
  engines := Nat.le_of_eq (congrArg List.length hengines.symm)
  held e _ hheld := by rwa [State.isHeld, State.engine?, hengines] at hheld

/-- Retaining engines twice is retaining them. -/
theorem Retains.trans {s s' s'' : State} (hfirst : Retains s s') (hsecond : Retains s' s'') :
    Retains s s'' where
  engines := Nat.le_trans hfirst.engines hsecond.engines
  held e he hheld :=
    hfirst.held e he (hsecond.held e (Nat.lt_of_lt_of_le he hfirst.engines) hheld)

/-- Registering retains all engines. -/
theorem retains_register (s : State) (e : EngineId) (values : List Value) (purpose : Purpose) :
    Retains s (s.register e values purpose).2 where
  engines := Nat.le_of_eq (s.length_engines_register e values purpose).symm
  held e' _ hheld := by rwa [State.isHeld_register] at hheld

/-- Taking a registration out retains all engines. -/
theorem retains_settle (s : State) (t : Ticket) : Retains s (s.settle t) where
  engines := Nat.le_of_eq (s.length_engines_settle t).symm
  held e _ hheld := by rwa [State.isHeld_settle] at hheld

/-- Reporting a fatal error retains all engines. -/
theorem retains_reportFatal (s : State) (e : EngineId) (error : ScriptError) :
    Retains s (s.reportFatal e error).state := by
  rcases state_reportFatal s e error with hstate | hstate <;> rw [hstate]
  · exact .of_eq rfl
  · exact .of_eq rfl

/-- Every move retains all engines. -/
theorem Answers.retains {s : State} {m : Move} {turn : Turn} (hanswers : Answers s m turn) :
    Retains s turn.state := by
  cases hanswers with
  | hosted _ huntouched _ => exact huntouched.toRetains
  | refused | turnedAway _ _ | called _ _ | gone _ _ | unstored _ _ _ | abandoned _ | returned _
  | acknowledged _ | handedOver _ | reported _ => exact .of_eq rfl
  | @issued e _ _ arguments _ operation _ _ _ =>
    exact (retains_register s e (operation.callbacks arguments) (.operation operation)).trans
      (.of_eq rfl)
  | @stored e values _ => exact retains_register s e values .embedder
  | mismatched _ _ _ _ _ | contextless _ _ _ _ _ _ _ =>
    exact (retains_settle s _).trans (retains_reportFatal _ _ _)
  | delivered _ _ _ _ _ hturn => exact (retains_settle s _).trans (.of_eq hturn.engines_eq.1)
  | resumed _ _ _ => exact (retains_settle s _).trans (.of_eq rfl)
  | heard _ hturn => exact .of_eq hturn.engines_eq.1
  | concluded _ => rw [state_conclude]; exact .of_eq rfl
  | @failed e _ outer error _ =>
    have houter : Retains s { s with frames := outer } := .of_eq rfl
    exact houter.trans (retains_reportFatal _ e error)

/-- An engine that exists and does not live any more. -/
def State.IsDead (s : State) (e : EngineId) : Prop :=
  e < s.engines.length ∧ s.isAlive e = false

/-- No move brings a dead engine back to life. -/
theorem Answers.isDead {s : State} {m : Move} {turn : Turn} (hanswers : Answers s m turn)
    {e : EngineId} (hdead : s.IsDead e) : turn.state.IsDead e := by
  obtain ⟨he, hdead⟩ := hdead
  have hidle := Bool.or_eq_false_iff.mp hdead
  refine ⟨Nat.lt_of_lt_of_le he hanswers.retains.engines, Bool.or_eq_false_iff.mpr ⟨?_, ?_⟩⟩
  · rw [Bool.eq_false_iff]
    intro hheld
    rw [hanswers.retains.held e he hheld] at hidle
    exact Bool.noConfusion hidle.1
  · rw [State.isBusy, List.any_eq_false]
    intro frame hframe hengine
    obtain rfl : frame.engine = e := by simpa using hengine
    rw [hanswers.shift.alive hframe] at hdead
    exact Bool.noConfusion hdead

end ScriptFiles.Bridge
