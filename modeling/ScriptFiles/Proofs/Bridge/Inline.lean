import ScriptFiles.Proofs.Bridge.Unnoticed
import ScriptFiles.Proofs.Bridge.Validation

/-!
# Completions inside their call and after it

The native service may complete an operation before the call of the operation returns, or later.
A completion that comes at once finds the call and the asking of the service outside its own
activities; one that comes later does not. Nothing else tells the two apart: what goes on outside
the activities of a completion decides about nothing but which engines live, and the engine of a
completion lives while the completion goes on. So a host that behaves the same hears the same.
-/

namespace ScriptFiles.Bridge

/-- The state with further activities outside its own. -/
def State.over (s : State) (outer : List Frame) : State :=
  { s with frames := s.frames ++ outer }

/-- The activities of a state over others come first. -/
@[simp] theorem frames_over (s : State) (outer : List Frame) :
    (s.over outer).frames = s.frames ++ outer := rfl

/-- Completions do not notice what goes on outside. -/
theorem unnoticed_over (outer : List Frame) : Unnoticed (·.over outer) where
  heap _ := rfl
  global _ _ := rfl
  hook _ _ := rfl
  registry _ _ := rfl
  ticket? _ _ := rfl
  setHeap _ _ := rfl
  enter _ _ _ := rfl
  spend _ _ := rfl
  settle _ _ := rfl

/-! ## One move -/

variable {s c : State} {outer : List Frame}

/-- A condition that does not depend on what goes on outside guards alike. -/
theorem guarded_over (c : State) (outer : List Frame) (condition : Bool) (turn : Turn) :
    guarded (c.over outer) condition (turn.map (·.over outer)) =
      (guarded c condition turn).map (·.over outer) := by
  cases condition <;> rfl

/-- The host calls a function alike whatever goes on outside. -/
theorem call_over (c : State) (outer : List Frame) (invocation : Invocation) :
    (c.over outer).call invocation = (c.call invocation).map (·.over outer) := by
  cases hbody : invocation.function.body with
  | host =>
    rw [State.call, State.call, apply_of_host hbody, apply_of_host hbody]
    rfl
  | entry label operation =>
    simp only [State.call, State.apply, hbody]
    cases operation.rejection label invocation.arguments <;> rfl

/-- Operations are published alike whatever goes on outside. -/
theorem install_over (c : State) (outer : List Frame) (e : EngineId) (name : String) :
    (c.over outer).install e name = (c.install e name).map (·.over outer) := by
  have hglobal : (c.over outer).global e = c.global e := rfl
  rw [State.install, State.install, hglobal]
  cases c.global e <;> rfl

/-- Ending the innermost activity does not mind what goes on outside. -/
theorem step_over_of_ends {m : Move} (hends : m.ends = true) (hseated : Seated c.frames)
    (hinner : c.frames ≠ []) (outer : List Frame) :
    step (c.over outer) m = (step c m).map (·.over outer) := by
  obtain ⟨⟨e, a⟩, rest, hframes⟩ := List.exists_cons_of_ne_nil hinner
  have houter : (c.over outer).frames = ⟨e, a⟩ :: (rest ++ outer) := by
    rw [frames_over, hframes, List.cons_append]
  rw [hframes] at hseated
  cases m with
  | return_ outcome =>
    simp only [step, State.return_, hframes, houter]
    cases a with
    | listening h lines =>
      cases outcome with
      | value _ => exact (unnoticed_over outer).nextLine { c with frames := rest } e h lines
      | thrown exception =>
        exact (unnoticed_over outer).stopLines { c with frames := rest } e h lines exception
    | concluding operation h last => cases outcome <;> rfl
    | _ => rfl
  | acknowledge =>
    simp only [step, hframes, houter]
    cases a with
    | asking =>
      obtain ⟨e', base, rfl⟩ := hseated.1 rfl
      rfl
    | _ => rfl
  | delivered error =>
    simp only [step, hframes, houter]
    cases a with
    | delivering h =>
      cases error with
      | none => rfl
      | some error => exact (unnoticed_over outer).reportFatal { c with frames := rest } e error
    | _ => rfl
  | reported =>
    simp only [step, hframes, houter]
    cases a <;> rfl
  | _ => contradiction

/-- A move leads to the same turn whatever goes on outside, as long as the same engines live. -/
def Unswayed (c : State) (alive : EngineId → Bool) (m : Move) : Prop :=
  ∃ turn : Turn, ∀ outer, (∀ e, (c.over outer).isAlive e = alive e) →
    step (c.over outer) m = turn.map (·.over outer)

variable {alive : EngineId → Bool}

/-- A move that does not ask which engines live is not swayed. -/
theorem Unswayed.of_blind {m : Move}
    (hsame : ∀ outer, step (c.over outer) m = (step c m).map (·.over outer)) :
    Unswayed c alive m :=
  ⟨step c m, fun outer _ => hsame outer⟩

/-- A move for a ticket that does not wait is not swayed. -/
theorem Unswayed.of_missing {id : Nat} (hticket : c.ticket? id = none) :
    (∀ result, Unswayed c alive (.fire id result)) ∧ Unswayed c alive (.resume id) := by
  have hmissing (outer : List Frame) : (c.over outer).ticket? id = none := hticket
  constructor
  · refine fun result => .of_blind fun outer => ?_
    simp only [step, hmissing, hticket]
    rfl
  · refine .of_blind fun outer => ?_
    simp only [step, hmissing, hticket]
    rfl

/-- A completion is not swayed. -/
theorem unswayed_fire (c : State) (alive : EngineId → Bool) (id : Nat) (result : NativeResult) :
    Unswayed c alive (.fire id result) := by
  cases hticket : c.ticket? id with
  | none => exact (Unswayed.of_missing hticket).1 result
  | some t =>
    have hfound (outer : List Frame) : (c.over outer).ticket? id = some t := hticket
    cases hpurpose : t.purpose with
    | embedder =>
      refine .of_blind fun outer => ?_
      simp only [step, hfound, hticket, hpurpose]
      rfl
    | operation operation =>
      refine ⟨guarded c (operation.accepts result)
        (if alive t.engine then c.completed t operation result else c.missed t),
        fun outer halive => ?_⟩
      simp only [step, hfound, hpurpose]
      rw [fire_eq_completed, halive, (unnoticed_over outer).completed,
        (unnoticed_over outer).missed, ← guarded_over, apply_ite (Turn.map · _)]

/-- A resumption is not swayed. -/
theorem unswayed_resume (c : State) (alive : EngineId → Bool) (id : Nat) :
    Unswayed c alive (.resume id) := by
  cases hticket : c.ticket? id with
  | none => exact (Unswayed.of_missing hticket).2
  | some t =>
    have hfound (outer : List Frame) : (c.over outer).ticket? id = some t := hticket
    refine ⟨guarded c (t.purpose = .embedder)
      (if alive t.engine then c.resumed t else c.missed t), fun outer halive => ?_⟩
    simp only [step, hfound]
    rw [resume_eq_resumed, halive, (unnoticed_over outer).resumed,
      (unnoticed_over outer).missed, ← guarded_over, apply_ite (Turn.map · _)]

/-- No move is swayed that does not end an activity outside. -/
theorem unswayed_step (hseated : Seated c.frames) {m : Move}
    (hinner : m.ends = true → c.frames ≠ []) (alive : EngineId → Bool) :
    Unswayed c alive m := by
  cases m with
  | createEngine | createObject | createFunction _ | setProperty _ _ _ | removeProperty _ _
  | bind _ _ => exact .of_blind fun outer => rfl
  | dropEngine e =>
    refine .of_blind fun outer => ?_
    simp only [step]
    rw [← guarded_over]
    rfl
  | abandon id =>
    refine .of_blind fun outer => ?_
    simp only [step, (unnoticed_over outer).ticket?]
    cases c.ticket? id <;> rfl
  | return_ _ | acknowledge | delivered _ | reported =>
    exact .of_blind (step_over_of_ends rfl hseated (hinner rfl))
  | setGlobal e value =>
    refine ⟨guarded c (alive e) ⟨c.modifyEngine e fun engine => { engine with global := value },
      [], .done⟩, fun outer halive => ?_⟩
    rw [← guarded_over, ← halive]
    rfl
  | setHook e hook =>
    refine ⟨guarded c (alive e) ⟨c.modifyEngine e fun engine => { engine with hook := some hook },
      [], .done⟩, fun outer halive => ?_⟩
    rw [← guarded_over, ← halive]
    rfl
  | install e name =>
    refine ⟨guarded c (alive e) (c.install e name), fun outer halive => ?_⟩
    rw [← guarded_over, ← install_over, ← halive]
    rfl
  | call e function this arguments =>
    refine ⟨guarded c (alive e) (c.call ⟨e, function, this, arguments, .host⟩),
      fun outer halive => ?_⟩
    rw [← guarded_over, ← call_over, ← halive]
    rfl
  | store e values =>
    refine ⟨guarded c (alive e) (c.store e values), fun outer halive => ?_⟩
    rw [← guarded_over, ← halive]
    rfl
  | fire id result => exact unswayed_fire c alive id result
  | resume id => exact unswayed_resume c alive id

/-! ## The activities of a completion -/

/-- The outermost of these activities, if there is one, goes on in an engine and asks nothing of
the native service. -/
def Rooted (e : EngineId) (frames : List Frame) : Prop :=
  ∀ frame ∈ frames.getLast?, frame.engine = e ∧ frame.activity ≠ .asking

namespace Rooted

variable {e : EngineId} {frame : Frame} {frames : List Frame}

/-- No activities at all are rooted. -/
theorem nil : Rooted e [] := by simp [Rooted]

/-- A single activity is rooted unless it asks the native service. -/
theorem singleton {a : Activity} (ha : a ≠ .asking) : Rooted e [⟨e, a⟩] := by
  simpa [Rooted] using ha

/-- Further activities inside do not matter. -/
theorem cons_iff (hne : frames ≠ []) : Rooted e (frame :: frames) ↔ Rooted e frames := by
  cases frames with
  | nil => contradiction
  | cons second rest => simp [Rooted]

/-- What goes on outside the innermost activity is rooted. -/
theorem tail (hrooted : Rooted e (frame :: frames)) : Rooted e frames := by
  cases frames with
  | nil => exact nil
  | cons second rest => exact (cons_iff (by simp)).mp hrooted

/-- The innermost activity can be followed up in its engine. -/
theorem follow {e' : EngineId} {a a' : Activity} (hrooted : Rooted e (⟨e', a⟩ :: frames))
    (ha' : a' ≠ .asking) : Rooted e (⟨e', a'⟩ :: frames) := by
  cases frames with
  | nil =>
    have hengine : e' = e := (hrooted ⟨e', a⟩ rfl).1
    rw [hengine]
    exact singleton ha'
  | cons second rest => exact (cons_iff (by simp)).mpr hrooted.tail

/-- Rooted activities are seated if they are with others outside. -/
theorem seated (hrooted : Rooted e frames) {outer : List Frame}
    (hseated : Seated (frames ++ outer)) : Seated frames := by
  induction frames with
  | nil => trivial
  | cons frame rest ih =>
    refine ⟨fun hasking => ?_, ih hrooted.tail hseated.2⟩
    cases rest with
    | nil => exact absurd hasking (hrooted frame rfl).2
    | cons second rest =>
      obtain ⟨e', base, hcall⟩ := hseated.1 hasking
      exact ⟨e', rest, by rw [(List.cons.inj hcall).1]⟩

/-- The engine of rooted activities lives, whatever goes on outside. -/
theorem isAlive (hrooted : Rooted e c.frames) (hinner : c.frames ≠ []) (outer : List Frame) :
    (c.over outer).isAlive e = true := by
  have hlast := hrooted _ (List.getLast?_eq_some_getLast hinner)
  have hmem : c.frames.getLast hinner ∈ (c.over outer).frames :=
    List.mem_append_left _ (List.getLast_mem hinner)
  rw [← hlast.1]
  exact State.isAlive_of_mem hmem

/-- Rooted activities stay rooted as long as there are any. -/
theorem shift {frames : List Frame} (hrooted : Rooted e c.frames) (hseated : Seated c.frames)
    (hinner : c.frames ≠ []) (hshift : Shift (c.over outer) (frames ++ outer)) :
    Rooted e frames := by
  have hpushed (new : List Frame) (hafter : frames ++ outer = new ++ (c.frames ++ outer)) :
      frames = new ++ c.frames :=
    List.append_cancel_right (hafter.trans (List.append_assoc _ _ _).symm)
  obtain ⟨first, rest, hframes⟩ := List.exists_cons_of_ne_nil hinner
  have hover : (c.over outer).frames = first :: (rest ++ outer) := by
    rw [frames_over, hframes, List.cons_append]
  rw [hframes] at hseated
  generalize hafter : frames ++ outer = total at hshift
  cases hshift with
  | same => exact hpushed [] hafter ▸ hrooted
  | @entered e' a _ _ => exact hpushed [⟨e', a⟩] hafter ▸ (cons_iff hinner).mpr hrooted
  | @asked e' _ =>
    rw [hpushed [⟨e', .asking⟩, ⟨e', .call⟩] hafter]
    exact (cons_iff (by simp)).mpr ((cons_iff hinner).mpr hrooted)
  | left hbefore _ =>
    obtain ⟨-, rfl⟩ := List.cons.inj (hover.symm.trans hbefore)
    rw [List.append_cancel_right hafter]
    exact (hframes ▸ hrooted).tail
  | @acknowledged e' _ _ hbefore =>
    obtain ⟨rfl, hrest⟩ := List.cons.inj (hover.symm.trans hbefore)
    obtain ⟨_, rest, rfl⟩ := hseated.1 rfl
    obtain ⟨-, rfl⟩ := List.cons.inj hrest
    rw [List.append_cancel_right hafter]
    exact (hframes ▸ hrooted).tail.tail
  | @followed e' a a' _ hbefore _ ha' =>
    obtain ⟨rfl, rfl⟩ := List.cons.inj (hover.symm.trans hbefore)
    have hfollowed : frames = ⟨e', a'⟩ :: rest := List.append_cancel_right hafter
    rw [hfollowed]
    exact (hframes ▸ hrooted).follow ha'

end Rooted

/-- A completion goes on, if it does, in the engine of its ticket. -/
theorem frames_step_fire (hseated : Seated s.frames) {id : Nat} (result : NativeResult) {t : Ticket}
    (hticket : s.ticket? id = some t) :
    (step s (.fire id result)).state.frames = s.frames ∨
      ∃ a, a ≠ .asking ∧ (step s (.fire id result)).state.frames = ⟨t.engine, a⟩ :: s.frames := by
  have hsame {u : Ticket} (hredeems : Redeems s (.fire id result) u) : u = t :=
    Option.some.inj (hredeems.of_fire.1.symm.trans hticket)
  have hreported (s' : State) (error : ScriptError) :
      (s'.reportFatal t.engine error).state.frames = s'.frames ∨
        ∃ a, a ≠ .asking ∧
          (s'.reportFatal t.engine error).state.frames = ⟨t.engine, a⟩ :: s'.frames := by
    rcases state_reportFatal s' t.engine error with hstate | hstate <;> rw [hstate]
    · exact Or.inl rfl
    · exact Or.inr ⟨.reporting, nofun, rfl⟩
  have hanswers := answers_step hseated (.fire id result)
  generalize step s (.fire id result) = turn at hanswers
  cases hanswers with
  | refused => exact Or.inl rfl
  | hosted hhosted _ _ => contradiction
  | gone _ _ | unstored _ _ _ => exact Or.inl rfl
  | mismatched hredeems _ _ _ _ | contextless hredeems _ _ _ _ _ _ =>
    obtain rfl := hsame hredeems
    exact hreported _ _
  | delivered hredeems _ _ _ _ hturn =>
    obtain rfl := hsame hredeems
    exact hturn.frames

/-! ## A run of moves -/

/-- The moves of a host that are made before all activities inside a number of others are over. -/
def movesInside (depth : Nat) (s : State) : List Move → List Move
  | [] => []
  | m :: rest =>
    if depth < s.frames.length then m :: movesInside depth (step s m).state rest else []

/-- What the host is shown of a turn. -/
def Turn.shown (turn : Turn) : List Event × Prompt :=
  (turn.events, turn.prompt)

/-- Turns that show the same have the same events. -/
theorem events_eq_of_shown {turns turns' : List Turn}
    (hshown : turns'.map Turn.shown = turns.map Turn.shown) :
    turns'.flatMap Turn.events = turns.flatMap Turn.events := by
  have hread (turns : List Turn) :
      turns.flatMap Turn.events = (turns.map Turn.shown).flatMap Prod.fst := by
    rw [List.flatMap_map]
    rfl
  rw [hread, hread, hshown]

/-- The same engines live over other activities, if those differ in one engine only, which lives
either way. -/
theorem isAlive_over {e : EngineId} {outer outer' : List Frame}
    (hothers : ∀ e', e' ≠ e →
      outer.any (·.engine == e') = outer'.any (·.engine == e'))
    (halive : (c.over outer).isAlive e = true) (halive' : (c.over outer').isAlive e = true)
    (e' : EngineId) : (c.over outer').isAlive e' = (c.over outer).isAlive e' := by
  by_cases heq : e' = e
  · rw [heq, halive, halive']
  · have hheld : (c.over outer').isHeld e' = (c.over outer).isHeld e' := rfl
    simp only [State.isAlive, State.isBusy, frames_over, List.any_append, hothers e' heq, hheld]

/-- Activities of one engine go on alike over different activities outside, up to their end. -/
theorem run_over {e : EngineId} {outer outer' : List Frame} (behaviour : List Move)
    (hformed : Formed (c.over outer)) (hrooted : Rooted e c.frames)
    (hothers : ∀ e', e' ≠ e →
      outer.any (·.engine == e') = outer'.any (·.engine == e')) :
    let moves := movesInside outer.length (c.over outer) behaviour
    movesInside outer'.length (c.over outer') behaviour = moves ∧
      (run (c.over outer') moves).map Turn.shown = (run (c.over outer) moves).map Turn.shown ∧
      ∃ c' : State, after (c.over outer) moves = c'.over outer ∧
        after (c.over outer') moves = c'.over outer' := by
  induction behaviour generalizing c with
  | nil => exact ⟨rfl, rfl, c, rfl, rfl⟩
  | cons m rest ih =>
    have hlength (outer : List Frame) :
        outer.length < (c.over outer).frames.length ↔ c.frames ≠ [] := by
      rw [frames_over, List.length_append, ← List.length_pos_iff]
      omega
    by_cases hinner : c.frames = []
    · have hover (outer : List Frame) : movesInside outer.length (c.over outer) (m :: rest) = [] := by
        rw [movesInside, if_neg fun hlt => (hlength outer).mp hlt hinner]
      rw [hover, hover]
      exact ⟨rfl, rfl, c, rfl, rfl⟩
    · have hseated := hrooted.seated hformed.seated
      obtain ⟨turn, hturn⟩ := unswayed_step hseated (fun _ => hinner) (c.over outer).isAlive
      have hstep := hturn outer fun _ => rfl
      have hstep' := hturn outer' <| isAlive_over hothers
        (hrooted.isAlive hinner outer) (hrooted.isAlive hinner outer')
      have hnext : Rooted e turn.state.frames := by
        have hshift := (answers_step hformed.seated m).shift
        rw [hstep] at hshift
        exact hrooted.shift hseated hinner hshift
      have hformed' : Formed (turn.state.over outer) := by
        have hformed' := hformed.step m
        rwa [hstep] at hformed'
      obtain ⟨hmoves, hshown, c', hafter, hafter'⟩ := ih hformed' hnext
      rw [movesInside, movesInside, if_pos ((hlength outer).mpr hinner),
        if_pos ((hlength outer').mpr hinner), hstep, hstep']
      refine ⟨congrArg (m :: ·) hmoves, ?_, c', ?_, ?_⟩
      · simp only [run, hstep, hstep', List.map_cons]
        exact congrArg _ hshown
      · rw [after_cons, hstep]
        exact hafter
      · rw [after_cons, hstep']
        exact hafter'

/-! ## The two completions of a call -/

/-- A ticket that waits is found by its number. -/
theorem Formed.ticket?_of_mem (hformed : Formed s) {t : Ticket} (ht : t ∈ s.tickets) :
    s.ticket? t.id = some t := by
  have hfound : (s.ticket? t.id).isSome := List.find?_isSome.mpr ⟨t, ht, beq_self_eq_true _⟩
  obtain ⟨u, hu⟩ := Option.isSome_iff_exists.mp hfound
  have hsame := hformed.distinct u (List.mem_of_find?_eq_some hu) t ht (id_of_ticket? hu)
  rw [hu, hsame]

/-- A completion begins alike over different activities outside, and goes on in the engine of its
ticket if it does. -/
theorem fire_over {t : Ticket} {outer outer' : List Frame} (hformed : Formed (c.over outer))
    (hidle : c.frames = []) (ht : t ∈ c.tickets) (result : NativeResult)
    (halive : ∀ e, (c.over outer').isAlive e = (c.over outer).isAlive e) :
    ∃ turn : Turn, step (c.over outer) (.fire t.id result) = turn.map (·.over outer) ∧
      step (c.over outer') (.fire t.id result) = turn.map (·.over outer') ∧
      Rooted t.engine turn.state.frames := by
  obtain ⟨turn, hturn⟩ := unswayed_fire c (c.over outer).isAlive t.id result
  have hstep := hturn outer fun _ => rfl
  refine ⟨turn, hstep, hturn outer' halive, ?_⟩
  have hticket : (c.over outer).ticket? t.id = some t := hformed.ticket?_of_mem ht
  have hframes := frames_step_fire hformed.seated result hticket
  rw [hstep, frames_over, hidle] at hframes
  rcases hframes with hsame | ⟨a, ha, hentered⟩
  · have hnone : turn.state.frames = [] := List.append_cancel_right hsame
    rw [hnone]
    exact .nil
  · have hone : turn.state.frames = [⟨t.engine, a⟩] := List.append_cancel_right hentered
    rw [hone]
    exact .singleton ha

/-- A completion goes alike over different activities outside, from its beginning to its end. -/
theorem completion_over {t : Ticket} {outer outer' : List Frame} (behaviour : List Move)
    (hformed : Formed (c.over outer)) (hidle : c.frames = []) (ht : t ∈ c.tickets)
    (hheld : c.isHeld t.engine = true) (result : NativeResult)
    (hothers : ∀ e, e ≠ t.engine → outer.any (·.engine == e) = outer'.any (·.engine == e)) :
    let first := step (c.over outer) (.fire t.id result)
    let second := step (c.over outer') (.fire t.id result)
    let moves := movesInside outer.length first.state behaviour
    movesInside outer'.length second.state behaviour = moves ∧
      (second :: run second.state moves).map Turn.shown =
        (first :: run first.state moves).map Turn.shown ∧
      ∃ c' : State, after first.state moves = c'.over outer ∧
        after second.state moves = c'.over outer' := by
  have halive (base : List Frame) : (c.over base).isAlive t.engine = true := by
    have hover : (c.over base).isHeld t.engine = true := hheld
    exact State.isAlive_of_isHeld hover
  obtain ⟨turn, hfirst, hsecond, hrooted⟩ := fire_over hformed hidle ht result
    (isAlive_over hothers (halive outer) (halive outer'))
  have hformed' : Formed (turn.state.over outer) := by
    have hstep := hformed.step (.fire t.id result)
    rwa [hfirst] at hstep
  intro first second moves
  obtain ⟨hmoves, hshown, c', hend, hend'⟩ := run_over behaviour hformed' hrooted hothers
  have hfirst : first = turn.map (·.over outer) := hfirst
  have hsecond : second = turn.map (·.over outer') := hsecond
  simp only [moves, hfirst, hsecond, List.map_cons]
  exact ⟨hmoves, congrArg _ hshown, c', hend, hend'⟩

/-- After an accepted call, the state without any activities has the ticket of the call waiting. -/
theorem exists_idle_of_call {e : EngineId} {function : FunctionRef} {this : Value}
    {arguments : List Value} {label : String} {operation : Operation}
    (hheld : s.isHeld e = true) (hbody : function.body = .entry label operation)
    (haccepted : operation.rejection label arguments = none) :
    let called := step s (.call e function this arguments)
    called.prompt = .serve s.ticketCount (operation.request arguments) ∧
    ∃ c : State, called.state = c.over (⟨e, .asking⟩ :: ⟨e, .call⟩ :: s.frames) ∧ c.frames = [] ∧
      s.nextTicket e (.operation operation) ∈ c.tickets ∧ c.isHeld e = true := by
  intro called
  have hcalled : called = issuing s ⟨e, function, this, arguments, .host⟩ operation :=
    step_call_of_accepted (State.isAlive_of_isHeld hheld) hbody haccepted
  have hregister := State.isHeld_register s e e (operation.callbacks arguments) (.operation operation)
  rw [hcalled]
  exact ⟨rfl, { (issuing s ⟨e, function, this, arguments, .host⟩ operation).state with frames := [] },
    rfl, rfl, List.mem_append_right _ (List.mem_singleton_self _), hregister.trans hheld⟩

/-- The host may let a call return before a completion or after it: if both orders show the same
on the way, they have the same events and end in the same state. -/
theorem acknowledge_swap {call fire : Move} {moves : List Move} {state : State} {outcome : Outcome}
    (hparked : step (step s call).state .acknowledge = ⟨state, [], .returned outcome⟩)
    (hlast : step (after (step (step s call).state fire).state moves) .acknowledge =
      ⟨after (step state fire).state moves, [], .returned outcome⟩)
    (hshown : ((step (step s call).state fire) ::
        run (step (step s call).state fire).state moves).map Turn.shown =
      ((step state fire) :: run (step state fire).state moves).map Turn.shown) :
    trace s (call :: fire :: (moves ++ [.acknowledge])) =
        trace s (call :: .acknowledge :: fire :: moves) ∧
      after s (call :: fire :: (moves ++ [.acknowledge])) =
        after s (call :: .acknowledge :: fire :: moves) := by
  have hevents : (step (step s call).state fire).events ++
        trace (step (step s call).state fire).state moves =
      (step state fire).events ++ trace (step state fire).state moves := events_eq_of_shown hshown
  constructor
  · simp only [trace_cons, trace_append, trace_nil, hparked, hlast, List.append_nil,
      List.nil_append, hevents]
  · simp only [after_cons, after_append, after_nil, hparked, hlast]

/-- Completing at once and completing after the call agree. Let the host hold an engine, call an
operation through it with accepted arguments, and complete the request with some result, either
before the call returns or right after it. Whatever moves the host makes while the completion goes
on, they are as many in both runs, they show the host the same events and prompts, and they change
the same but for the activities. When the completion is over and the call has returned, it returned
`undefined` either way, the two runs have had the same events, and they end in the same state. -/
theorem inline_deferred_agree (before behaviour : List Move) {e : EngineId}
    {function : FunctionRef} (this : Value) (arguments : List Value) {label : String}
    {operation : Operation} (result : NativeResult)
    (hheld : (after {} before).isHeld e = true)
    (hbody : function.body = .entry label operation)
    (haccepted : operation.rejection label arguments = none) :
    let s := after {} before
    let call : Move := .call e function this arguments
    let fire : Move := .fire s.ticketCount result
    let called := step s call
    let parked := step called.state .acknowledge
    let inline := step called.state fire
    let deferred := step parked.state fire
    let moves := movesInside s.frames.length deferred.state behaviour
    let inlineEnd := after inline.state moves
    let deferredEnd := after deferred.state moves
    called.prompt = .serve s.ticketCount (operation.request arguments) ∧
    parked.prompt = .returned (.value .undefined) ∧
    movesInside (s.frames.length + 2) inline.state behaviour = moves ∧
    (inline :: run inline.state moves).map Turn.shown =
      (deferred :: run deferred.state moves).map Turn.shown ∧
    { inlineEnd with frames := deferredEnd.frames } = deferredEnd ∧
    (deferredEnd.frames.length ≤ s.frames.length →
      (step inlineEnd .acknowledge).prompt = .returned (.value .undefined) ∧
      trace s (call :: fire :: (moves ++ [.acknowledge])) =
        trace s (call :: .acknowledge :: fire :: moves) ∧
      after s (call :: fire :: (moves ++ [.acknowledge])) =
        after s (call :: .acknowledge :: fire :: moves)) := by
  intro s call fire called parked inline deferred moves inlineEnd deferredEnd
  have hformed : Formed s := formed_empty.after before
  obtain ⟨hserve, c, hcalled, hidle, ht, hheld'⟩ :
      called.prompt = .serve s.ticketCount (operation.request arguments) ∧ _ :=
    exists_idle_of_call hheld hbody haccepted
  let outer : List Frame := ⟨e, .asking⟩ :: ⟨e, .call⟩ :: s.frames
  -- the call ends with the acknowledgement as soon as nothing goes on inside it
  have hreturns {c : State} (hidle : c.frames = []) :
      step (c.over outer) .acknowledge = ⟨c.over s.frames, [], .returned (.value .undefined)⟩ := by
    simp only [State.over, hidle]
    rfl
  have hparked : parked = ⟨c.over s.frames, [], .returned (.value .undefined)⟩ := by
    change step called.state .acknowledge = _
    rw [hcalled, hreturns hidle]
  have hformed' : Formed (c.over s.frames) := by
    have hafter := (hformed.step call).step .acknowledge
    change Formed parked.state at hafter
    rwa [hparked] at hafter
  have hothers (e' : EngineId) (hne : e' ≠ e) :
      s.frames.any (·.engine == e') = outer.any (·.engine == e') := by
    simp [outer, hne.symm]
  have hagree := completion_over behaviour hformed' hidle ht hheld' result hothers
  rw [← hcalled, show c.over s.frames = parked.state by rw [hparked]] at hagree
  obtain ⟨hmoves, hshown, c', hdeferredEnd, hinlineEnd⟩ := hagree
  have hinlineEnd : inlineEnd = c'.over outer := hinlineEnd
  have hdeferredEnd : deferredEnd = c'.over s.frames := hdeferredEnd
  refine ⟨hserve, by rw [hparked], hmoves, hshown, ?_, fun hover => ?_⟩
  · rw [hinlineEnd, hdeferredEnd]
    rfl
  · have hidle' : c'.frames = [] := by
      rw [hdeferredEnd, frames_over, List.length_append] at hover
      exact List.eq_nil_of_length_eq_zero (by omega)
    have hlast : step inlineEnd .acknowledge = ⟨deferredEnd, [], .returned (.value .undefined)⟩ := by
      rw [hinlineEnd, hdeferredEnd, hreturns hidle']
    have hparked' : parked = ⟨parked.state, [], .returned (.value .undefined)⟩ := by rw [hparked]
    exact ⟨by rw [hlast], acknowledge_swap hparked' hlast hshown⟩

/-- A read by lines of one line whose listener replaces the global. Its callbacks return before the
call does or after it: either way the listener hears the line with the old global, the last callback
hears that all lines were heard, and the log has the same two entries. What else the host had in
mind comes too late for both. -/
theorem inline_deferred_agree_replaced_global :
    let s := after {} [.createEngine]
    let readFromFile : FunctionRef := ⟨0, "readFromFile", .entry "fs" .readFromFile⟩
    let listener : FunctionRef := ⟨1, "listener", .host⟩
    let done : FunctionRef := ⟨2, "done", .host⟩
    let arguments : List Value := [.string "notes.txt", .function listener, .function done]
    let call : Move := .call 0 readFromFile .undefined arguments
    let fire : Move := .fire 0 (.ok (.content [104, 105]))
    let moves : List Move :=
      [.setGlobal 0 (.string "new"), .return_ (.value .undefined), .return_ (.value .undefined)]
    let happened : List Event :=
      [.applied ⟨0, readFromFile, .undefined, arguments, .host⟩,
        issuedEvent .readFromFile ⟨1⟩ (.read "notes.txt"),
        .requested 0 0 ⟨1⟩ (.read "notes.txt"),
        .applied ⟨0, listener, s.global 0, [.string "hi"], .listener ⟨1⟩⟩,
        allLinesEvent ⟨1⟩ 1,
        .applied ⟨0, done, .undefined, [], .last .readFromFile ⟨1⟩⟩]
    s.isHeld 0 = true ∧ Operation.rejection .readFromFile "fs" arguments = none ∧
      trace s (call :: fire :: (moves ++ [.acknowledge])) =
        trace s (call :: .acknowledge :: fire :: moves) ∧
      trace s (call :: fire :: (moves ++ [.acknowledge])) = happened ∧
      after s (call :: fire :: (moves ++ [.acknowledge])) =
        after s (call :: .acknowledge :: fire :: moves) ∧
      (after s (call :: .acknowledge :: fire :: moves)).global 0 = .string "new" := by
  intro s readFromFile listener done arguments call fire moves happened
  have hheld : s.isHeld 0 = true := by decide
  have hbody : readFromFile.body = .entry "fs" .readFromFile := rfl
  have haccepted : Operation.rejection .readFromFile "fs" arguments = none := by decide
  obtain ⟨-, -, -, -, -, hends⟩ := inline_deferred_agree [.createEngine] (moves ++ [.createEngine])
    .undefined arguments (.ok (.content [104, 105])) hheld hbody haccepted
  obtain ⟨-, hinline, hafter⟩ := hends (by decide)
  have htrace : trace s (call :: fire :: (moves ++ [.acknowledge])) =
      trace s (call :: .acknowledge :: fire :: moves) := hinline
  have hdeferred : trace s (call :: .acknowledge :: fire :: moves) = happened := by
    decide +kernel
  exact ⟨hheld, haccepted, htrace, htrace.trans hdeferred, hafter, by decide⟩

end ScriptFiles.Bridge
