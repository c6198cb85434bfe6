import ScriptFiles.Proofs.Bridge.Redemptions
import ScriptFiles.Proofs.Bridge.Unnoticed

/-!
# Letting go of an engine

Once the host has let go of an engine, the engine lives exactly as long as something goes on inside
it, and it never comes back. Nothing happens in a dead engine any more: a completion that finds its
engine dead uses up its own ticket and changes nothing else, so it cannot touch another engine,
whatever the handles there are. A completion that is made inside an activity of its engine is
delivered as if the host still held the engine: its callbacks hear the result, over all turns that
the delivery takes.
-/

namespace ScriptFiles.Bridge

/-! ## Events of an engine -/

/-- The engine in which something happened; log entries belong to none. -/
def Event.engine? : Event → Option EngineId
  | .logged _ => none
  | .applied invocation => some invocation.engine
  | .requested e _ _ _ | .delivered e _ _ | .fatal e _ _ => some e

variable {s : State}

/-- Whatever happens in an engine happens while it lives. -/
theorem Answers.isAlive_of_event {m : Move} {turn : Turn} (hanswers : Answers s m turn)
    {e : EngineId} {event : Event} (hevent : event ∈ turn.events)
    (hengine : event.engine? = some e) : s.isAlive e = true := by
  rcases hanswers.issuing_or_happens with
    ⟨invocation, operation, label, halive, -, -, rfl⟩ | hhappens
  · rcases mem_events_issuing hevent with rfl | ⟨_, _, _, rfl⟩ | ⟨id, h, rfl⟩
    · exact Option.some.inj hengine ▸ halive
    · contradiction
    · exact Option.some.inj hengine ▸ halive
  · cases hhappens event hevent with
    | said | gone | unstored _ _ | unreported => contradiction
    | applied halive _ | delivered halive | fatal halive _ =>
      exact Option.some.inj hengine ▸ halive

/-- Nothing ever happens again in a dead engine, and it stays dead. -/
theorem Formed.silent (hformed : Formed s) {e : EngineId} (hdead : s.IsDead e)
    (moves : List Move) :
    (Bridge.after s moves).IsDead e ∧ ∀ event ∈ trace s moves, event.engine? ≠ some e := by
  induction moves generalizing s with
  | nil => exact ⟨hdead, fun event hevent => absurd hevent List.not_mem_nil⟩
  | cons m rest ih =>
    have hanswers := answers_step hformed.seated m
    obtain ⟨hafter, hrest⟩ := ih (hformed.step m) (hanswers.isDead hdead)
    refine ⟨hafter, fun event hevent hengine => ?_⟩
    rcases List.mem_append.mp hevent with hfirst | hlater
    · have halive := hanswers.isAlive_of_event hfirst hengine
      rw [hdead.2] at halive
      contradiction
    · exact hrest event hlater hengine

/-! ## As if the engine was held -/

/-- The state in which the host holds an engine. -/
def State.hold (s : State) (e : EngineId) : State :=
  s.modifyEngine e fun engine => { engine with held := true }

/-- The turn that leads to the state in which the host holds an engine. -/
def Turn.hold (turn : Turn) (e : EngineId) : Turn :=
  { turn with state := turn.state.hold e }

/-- Completions do not notice whether an engine is held. -/
theorem unnoticed_hold (e : EngineId) : Unnoticed (·.hold e) where
  heap _ := rfl
  global s e' := State.global_modifyEngine s e e' fun _ => rfl
  hook s e' := State.hook_modifyEngine s e e' fun _ => rfl
  registry s e' := State.registry_modifyEngine s e e' fun _ => rfl
  ticket? _ _ := rfl
  setHeap _ _ := rfl
  enter _ _ _ := rfl
  spend _ _ := rfl
  settle s t := by
    have hregistry : (s.hold e).registry t.engine = s.registry t.engine :=
      State.registry_modifyEngine s e t.engine fun _ => rfl
    simp only [State.settle, hregistry]
    exact State.modifyEngine_comm (s.spend t) e t.engine fun _ => rfl

/-- An engine inside which something goes on lives. -/
theorem isAlive_of_isBusy {e : EngineId} (hbusy : s.isBusy e = true) : s.isAlive e = true := by
  rw [State.isAlive, hbusy, Bool.or_true]

/-- A completion that is made while something goes on inside its engine goes as if the host held
the engine. -/
theorem Redeems.step_hold {m : Move} {t : Ticket} (hredeems : Redeems s m t)
    (hbusy : s.isBusy t.engine = true) :
    step (s.hold t.engine) m = (step s m).hold t.engine := by
  have halive := isAlive_of_isBusy hbusy
  have halive' : (s.hold t.engine).isAlive t.engine = true := isAlive_of_isBusy hbusy
  cases hredeems with
  | @fire _ operation result hticket hpurpose haccepts =>
    have hticket' : (s.hold t.engine).ticket? t.id = some t := hticket
    rw [step_fire hticket hpurpose haccepts, step_fire hticket' hpurpose haccepts,
      fire_eq_completed, fire_eq_completed, if_pos halive, if_pos halive']
    exact (unnoticed_hold t.engine).completed s t operation result
  | resume hticket hpurpose =>
    have hticket' : (s.hold t.engine).ticket? t.id = some t := hticket
    rw [step_resume hticket hpurpose, step_resume hticket' hpurpose, resume_eq_resumed,
      resume_eq_resumed, if_pos halive, if_pos halive']
    exact (unnoticed_hold t.engine).resumed s t

/-! ## Dropped engines -/

/-- A run retains all engines. -/
theorem Formed.retains_after (hformed : Formed s) (moves : List Move) :
    Retains s (Bridge.after s moves) := by
  induction moves generalizing s with
  | nil => exact .of_eq rfl
  | cons m rest ih =>
    exact (answers_step hformed.seated m).retains.trans (ih (hformed.step m))

/-- An engine that the host let go of is not held in any later state. -/
theorem isHeld_of_dropped {before later : List Move} {e : EngineId}
    (hheld : (after {} before).isHeld e = true) :
    e < (after {} (before ++ .dropEngine e :: later)).engines.length ∧
      (after {} (before ++ .dropEngine e :: later)).isHeld e = false := by
  have hformed := formed_empty.after before
  have he := State.lt_of_isHeld hheld
  have hdropped : (step (after {} before) (.dropEngine e)).state =
      (after {} before).modifyEngine e fun engine => { engine with held := false } := by
    simp only [step, guarded, hheld, if_true]
  have hretains := (hformed.step (.dropEngine e)).retains_after later
  have hexists : e < (step (after {} before) (.dropEngine e)).state.engines.length := by
    rw [hdropped, State.length_engines_modifyEngine]
    exact he
  rw [after_append, after_cons]
  refine ⟨Nat.lt_of_lt_of_le hexists hretains.engines, ?_⟩
  rw [Bool.eq_false_iff]
  intro hlater
  have hstill := hretains.held e hexists hlater
  rw [hdropped, State.isHeld, State.engine?_modifyEngine] at hstill
  cases hengine : (after {} before).engine? e <;> simp [hengine] at hstill

/-- Teardown of an engine. From the moment the host lets go of an engine, the engine lives exactly
while something goes on inside it. Once it is dead it stays dead, and nothing happens in it any
more. A completion or resumption that finds it dead leaves one log entry and ends at once; it uses
its own ticket up and leaves objects, activities, every other ticket and all engines with their
registries and globals as they are, whatever handles they use.

A completion or resumption that is made while something goes on inside the engine goes as if the
host still held the engine. With few enough registrations, a completion hands its result over to
the callbacks that are stored for it: in the turn in which it is made and its own turns from then
on, whatever the host does in between, lines are read by the protocol with all calls and reports
that come of it, and any other result is told in one call of the last callback. No other turn of
the run calls those callbacks for it. A resumption delivers the stored values, and the error with
which the host ends the delivery is reported. -/
theorem engine_teardown (before later : List Move) {e : EngineId}
    (hheld : (after {} before).isHeld e = true) :
    let moves := before ++ .dropEngine e :: later
    let s := after {} moves
    s.isAlive e = s.isBusy e ∧
    (s.isAlive e = false → ∀ more,
      (after s more).isAlive e = false ∧ ∀ event ∈ trace s more, event.engine? ≠ some e) ∧
    (∀ m t, Redeems s m t → t.engine = e → s.isAlive e = false →
      (step s m).events = [goneEvent t.handle] ∧ (step s m).prompt = .finished ∧
        (step s m).state.heap = s.heap ∧ (step s m).state.engines = s.engines ∧
        (step s m).state.frames = s.frames ∧
        ∀ u, u ∈ (step s m).state.tickets ↔ u ∈ s.tickets ∧ u ≠ t) ∧
    ∀ m t, Redeems s m t → t.engine = e → s.isBusy e = true →
      step (s.hold e) m = (step s m).hold e ∧
      (s.ticketCount < UInt64.size → ∀ operation result, t.purpose = .operation operation →
        m = .fire t.id result →
        ∃ callbacks, (s.registry e).get? t.handle =
            some (callbacks.functions.map Value.function) ∧
          callbacks.functions.length = operation.callbackCount ∧
          step s m = (s.settle t).complete e t.handle operation callbacks result ∧
          ∀ more,
            let own := ownTurns s.frames.length (step s m).state more
            HandsOver s e t.handle operation callbacks result (step s m) own ∧
            ((after {} (moves ++ m :: more)).ticketCount < UInt64.size →
              calls e t.handle (trace {} (moves ++ m :: more)) =
                calls e t.handle (effects (step s m).events ++ turnEffects own))) ∧
      (s.ticketCount < UInt64.size → m = .resume t.id →
        ∃ values, (s.registry e).get? t.handle = some values ∧
          (step s m).prompt = .deliver e t.handle values ∧
          (step s m).state.frames = ⟨e, .delivering t.handle⟩ :: s.frames ∧
          ∀ more,
            let own := ownTurns s.frames.length (step s m).state more
            effects (step s m).events ++ turnEffects own =
              .delivered e t.handle values :: resumedEffects e own) := by
  intro moves s
  have hformed : Formed s := formed_empty.after _
  obtain ⟨he, hdropped⟩ : e < s.engines.length ∧ s.isHeld e = false := isHeld_of_dropped hheld
  refine ⟨?_, fun hdead more => ?_, ?_, ?_⟩
  · rw [State.isAlive, hdropped, Bool.false_or]
  · obtain ⟨hafter, hsilent⟩ := hformed.silent ⟨he, hdead⟩ more
    exact ⟨hafter.2, hsilent⟩
  · rintro m t hredeems rfl hdead
    rw [hredeems.step_gone hdead]
    refine ⟨rfl, rfl, rfl, rfl, rfl, fun u => ?_⟩
    rw [State.mem_tickets_spend]
    refine and_congr_right fun hu =>
      ⟨fun hid heq => hid (congrArg Ticket.id heq), fun hne hid => ?_⟩
    exact hne (hformed.distinct u hu t hredeems.mem hid)
  · rintro m t hredeems rfl hbusy
    have halive := isAlive_of_isBusy hbusy
    refine ⟨hredeems.step_hold hbusy, ?_, ?_⟩
    · rintro hfew operation result hpurpose rfl
      obtain ⟨callbacks, hstored, hlength, -⟩ :=
        (registered_after _ hfew).callbacks hredeems.mem hpurpose
      refine ⟨callbacks, hstored, hlength,
        hredeems.step_complete hpurpose halive hstored hlength, fun more => ⟨?_, fun hfew => ?_⟩⟩
      · exact hredeems.handsOver hformed hpurpose halive hlength hstored more
      · exact calls_of_completion callbacks hredeems hpurpose hlength hstored hfew
    · rintro hfew rfl
      obtain ⟨values, hstored, -⟩ := (registered_after _ hfew).stored t hredeems.mem
      have hturn := hredeems.step_resumed halive hstored
      exact ⟨values, hstored, by rw [hturn], by rw [hturn]; rfl,
        hredeems.resumed_effects hformed halive hstored⟩

/-- The host lets go of the first engine while its read is outstanding. A second engine with an
outstanding read under the same handle is left alone when the read of the first one completes. When
the host lets go of the first engine in a listener instead, a second read that completes while the
listener still runs is delivered from its line to the end. -/
theorem engine_teardown_same_handle :
    let later : List Move :=
      [.createEngine,
        .call 1 ⟨3, "read", .entry "fs" .read⟩ .undefined
          [.string "notes.txt", .function ⟨4, "callback", .host⟩],
        .acknowledge]
    let s := after {} (callToRead ++ .dropEngine 0 :: later)
    let turn := step s (.fire 0 (.ok (.content [])))
    let hears : FunctionRef := ⟨5, "hears", .host⟩
    let ends : FunctionRef := ⟨6, "ends", .host⟩
    let listening : List Move :=
      callToRead ++
        [.call 0 ⟨0, "readFromFile", .entry "fs" .readFromFile⟩ .undefined
            [.string "more.txt", .function hears, .function ends],
          .acknowledge, .fire 0 (.ok (.content [97]))]
    let inside := after {} (listening ++ [.dropEngine 0])
    let nested := step inside (.fire 1 (.ok (.content [98])))
    let more : List Move := [.return_ (.value .undefined), .return_ (.value .undefined)]
    (after {} callToRead).isHeld 0 = true ∧ s.isAlive 0 = false ∧
      ((s.registry 1).get? ⟨1⟩).isSome ∧
      turn.events = [goneEvent ⟨1⟩] ∧ turn.state.engines = s.engines ∧
      inside.isHeld 0 = false ∧ inside.isBusy 0 = true ∧
      effects nested.events ++ turnEffects (ownTurns inside.frames.length nested.state more) =
        [.applied ⟨0, hears, inside.global 0, [.string "b"], .listener ⟨2⟩⟩,
          .applied ⟨0, ends, .undefined, [], .last .readFromFile ⟨2⟩⟩] := by
  intro later s turn hears ends listening inside nested more
  have hheld : (after {} callToRead).isHeld 0 = true := by decide
  have hdead : s.isAlive 0 = false := by decide
  let t : Ticket := ⟨0, 0, ⟨1⟩, .operation .readFromFile⟩
  have hredeems : Redeems s (.fire t.id (.ok (.content []))) t := .fire (by decide) rfl (by decide)
  obtain ⟨-, -, hgone, -⟩ := engine_teardown callToRead later hheld
  obtain ⟨hevents, -, -, hengines, -⟩ := hgone _ t hredeems rfl hdead
  -- the read that completes inside the listener, after the host let go
  have hbusy : inside.isBusy 0 = true := by decide
  let u : Ticket := ⟨1, 0, ⟨2⟩, .operation .readFromFile⟩
  have hinside : Redeems inside (.fire u.id (.ok (.content [98]))) u :=
    .fire (by decide) rfl (by decide)
  obtain ⟨-, -, -, hlive⟩ := engine_teardown listening [] (e := 0) (by decide)
  obtain ⟨-, hcompleted, -⟩ := hlive _ u hinside rfl hbusy
  obtain ⟨callbacks, hstored, hlength, -, hdelivered⟩ := hcompleted (by decide) _ _ rfl rfl
  have hcall : (inside.registry 0).get? ⟨2⟩ = some [.function hears, .function ends] := by decide
  obtain rfl : callbacks = ⟨some hears, ends⟩ := by
    have hvalues := Option.some.inj (hcall.symm.trans hstored)
    have hok := (Operation.callbacks?_eq_ok_iff (h := ⟨2⟩)).mpr ⟨hvalues, hlength⟩
    exact (Except.ok.inj hok).symm
  obtain ⟨hover, -⟩ := hdelivered more
  have houtcomes : turnOutcomes (ownTurns inside.frames.length nested.state more) =
      [.value .undefined, .value .undefined] := by
    decide
  refine ⟨hheld, hdead, by decide, hevents, hengines, by decide, hbusy, hover.trans ?_⟩
  rw [houtcomes]
  decide +kernel

end ScriptFiles.Bridge
