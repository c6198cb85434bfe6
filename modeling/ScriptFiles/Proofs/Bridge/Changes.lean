import ScriptFiles.Bridge.Step
import ScriptFiles.Proofs.Registry

/-!
# The parts of the state that a change touches

The bridge changes its state in few ways: it enters an activity, registers values, gives a
ticket up, and takes a registration out together with its ticket. Here stands, for each of them,
what becomes of the tickets, the registries, the activities and the engines. Applying a function or
ending one leaves all objects as they are.
-/

namespace ScriptFiles.Bridge.State

/-- The state without a ticket, and without the registration that the ticket completes. -/
def settle (s : State) (t : Ticket) : State :=
  (s.spend t).modifyEngine t.engine fun engine =>
    { engine with registry := (s.registry t.engine).without t.handle }

/-- The ticket of the next registration on an engine. -/
def nextTicket (s : State) (e : EngineId) (purpose : Purpose) : Ticket :=
  ⟨s.ticketCount, e, (s.registry e).nextHandle, purpose⟩

/-! ## Engines -/

/-- Changing an engine changes no other one. -/
theorem engine?_modifyEngine (s : State) (e e' : EngineId) (change : Engine → Engine) :
    (s.modifyEngine e change).engine? e' =
      (s.engine? e').map fun engine => if e' = e then change engine else engine := by
  simp only [modifyEngine, engine?, List.getElem?_modify, @eq_comm _ e e']
  rfl

/-- Changing an engine makes none. -/
@[simp] theorem length_engines_modifyEngine (s : State) (e : EngineId) (change : Engine → Engine) :
    (s.modifyEngine e change).engines.length = s.engines.length := by
  simp [modifyEngine]

/-- A change that keeps what is read off an engine keeps it for all engines. -/
theorem map_engine?_modifyEngine {α : Type} (s : State) (e e' : EngineId)
    {change : Engine → Engine} {read : Engine → α}
    (hkeep : ∀ engine, read (change engine) = read engine) :
    ((s.modifyEngine e change).engine? e').map read = (s.engine? e').map read := by
  rw [engine?_modifyEngine, Option.map_map]
  refine congrFun (congrArg Option.map (funext fun engine => ?_)) _
  simp only [Function.comp_apply]
  split
  · exact hkeep engine
  · rfl

/-- A change that keeps whether the engine is held keeps it for all engines. -/
theorem isHeld_modifyEngine (s : State) (e e' : EngineId) {change : Engine → Engine}
    (hkeep : ∀ engine, (change engine).held = engine.held) :
    (s.modifyEngine e change).isHeld e' = s.isHeld e' := by
  have hread := congrArg (Option.any id) (map_engine?_modifyEngine s e e' hkeep)
  rwa [Option.any_map, Option.any_map] at hread

/-- A change that keeps the registry keeps it for all engines. -/
theorem registry_modifyEngine (s : State) (e e' : EngineId) {change : Engine → Engine}
    (hkeep : ∀ engine, (change engine).registry = engine.registry) :
    (s.modifyEngine e change).registry e' = s.registry e' := by
  rw [registry, registry, map_engine?_modifyEngine s e e' hkeep]

/-- A change that keeps the global keeps it for all engines. -/
theorem global_modifyEngine (s : State) (e e' : EngineId) {change : Engine → Engine}
    (hkeep : ∀ engine, (change engine).global = engine.global) :
    (s.modifyEngine e change).global e' = s.global e' := by
  rw [global, global, map_engine?_modifyEngine s e e' hkeep]

/-- A change that keeps the hook keeps it for all engines. -/
theorem hook_modifyEngine (s : State) (e e' : EngineId) {change : Engine → Engine}
    (hkeep : ∀ engine, (change engine).hook = engine.hook) :
    (s.modifyEngine e change).hook e' = s.hook e' := by
  have hread := congrArg (Option.bind · id) (map_engine?_modifyEngine s e e' hkeep)
  rwa [Option.bind_map, Option.bind_map] at hread

/-- Changes that do not mind each other's order can be made in either one. -/
theorem modifyEngine_comm (s : State) (e e' : EngineId) {first second : Engine → Engine}
    (hcomm : ∀ engine, first (second engine) = second (first engine)) :
    (s.modifyEngine e first).modifyEngine e' second =
      (s.modifyEngine e' second).modifyEngine e first := by
  have hengines : (s.engines.modify e first).modify e' second =
      (s.engines.modify e' second).modify e first := by
    refine List.ext_getElem? fun i => ?_
    simp only [List.getElem?_modify]
    cases s.engines[i]? with
    | none => rfl
    | some engine =>
      by_cases hfirst : e = i <;> by_cases hsecond : e' = i <;> simp [hfirst, hsecond, hcomm]
  simp only [modifyEngine, hengines]

/-- An engine that exists can be given a registry. -/
theorem registry_modifyEngine_self (s : State) {e : EngineId} (registry : Registry)
    (he : e < s.engines.length) :
    (s.modifyEngine e fun engine => { engine with registry := registry }).registry e =
      registry := by
  have hengine : s.engine? e = some s.engines[e] := List.getElem?_eq_getElem he
  simp [State.registry, engine?_modifyEngine, hengine]

/-- Giving an engine a registry changes no other engine's registry. -/
theorem registry_modifyEngine_of_ne (s : State) {e e' : EngineId} (registry : Registry)
    (hne : e' ≠ e) :
    (s.modifyEngine e fun engine => { engine with registry := registry }).registry e' =
      s.registry e' := by
  simp [State.registry, engine?_modifyEngine, hne]

/-- A held engine exists. -/
theorem lt_of_isHeld {s : State} {e : EngineId} (hheld : s.isHeld e = true) :
    e < s.engines.length := by
  by_cases he : e < s.engines.length
  · exact he
  · simp [isHeld, engine?, List.getElem?_eq_none (Nat.le_of_not_lt he)] at hheld

/-- An engine lives while the host holds it. -/
theorem isAlive_of_isHeld {s : State} {e : EngineId} (hheld : s.isHeld e = true) :
    s.isAlive e = true := by
  rw [isAlive, hheld, Bool.true_or]

/-- An engine lives while an activity goes on inside it. -/
theorem isAlive_of_mem {s : State} {frame : Frame} (hframe : frame ∈ s.frames) :
    s.isAlive frame.engine = true := by
  have hbusy : s.isBusy frame.engine = true :=
    List.any_eq_true.mpr ⟨frame, hframe, beq_self_eq_true _⟩
  rw [isAlive, hbusy, Bool.or_true]

/-! ## Entering an activity -/

/-- An activity that is entered is innermost. -/
@[simp] theorem frames_enter (s : State) (e : EngineId) (a : Activity) :
    (s.enter e a).frames = ⟨e, a⟩ :: s.frames := rfl

/-! ## Registering -/

/-- A registration has the next ticket waiting. -/
@[simp] theorem tickets_register (s : State) (e : EngineId) (values : List Value)
    (purpose : Purpose) :
    (s.register e values purpose).2.tickets = s.tickets ++ [s.nextTicket e purpose] := rfl

/-- A registration makes one ticket. -/
@[simp] theorem ticketCount_register (s : State) (e : EngineId) (values : List Value)
    (purpose : Purpose) : (s.register e values purpose).2.ticketCount = s.ticketCount + 1 := rfl

/-- A registration makes no engine. -/
@[simp] theorem length_engines_register (s : State) (e : EngineId) (values : List Value)
    (purpose : Purpose) :
    (s.register e values purpose).2.engines.length = s.engines.length := by
  simp [register]

/-- A registration leaves alone which engines the host holds. -/
@[simp] theorem isHeld_register (s : State) (e e' : EngineId) (values : List Value)
    (purpose : Purpose) : (s.register e values purpose).2.isHeld e' = s.isHeld e' :=
  isHeld_modifyEngine s e e' fun _ => rfl

/-- Registering stores the values on the engine. -/
theorem registry_register_self (s : State) {e : EngineId} (values : List Value)
    (purpose : Purpose) (he : e < s.engines.length) :
    (s.register e values purpose).2.registry e = ((s.registry e).store values).2 :=
  registry_modifyEngine_self s _ he

/-- Registering touches no other engine's registry. -/
theorem registry_register_of_ne (s : State) {e e' : EngineId} (values : List Value)
    (purpose : Purpose) (hne : e' ≠ e) :
    (s.register e values purpose).2.registry e' = s.registry e' :=
  registry_modifyEngine_of_ne s _ hne

/-! ## Giving a ticket up -/

/-- Using a ticket up takes nothing out of a registry. -/
@[simp] theorem registry_spend (s : State) (t : Ticket) (e : EngineId) :
    (s.spend t).registry e = s.registry e := rfl

/-- Using a ticket up kills no engine. -/
@[simp] theorem isAlive_spend (s : State) (t : Ticket) (e : EngineId) :
    (s.spend t).isAlive e = s.isAlive e := rfl

/-- The tickets left are those of other numbers. -/
theorem mem_tickets_spend {s : State} {t u : Ticket} :
    u ∈ (s.spend t).tickets ↔ u ∈ s.tickets ∧ u.id ≠ t.id := by
  simp [spend]

/-! ## Taking a registration out -/

/-- Settling a ticket makes no engine. -/
@[simp] theorem length_engines_settle (s : State) (t : Ticket) :
    (s.settle t).engines.length = s.engines.length :=
  length_engines_modifyEngine _ _ _

/-- Settling a ticket leaves alone which engines the host holds. -/
@[simp] theorem isHeld_settle (s : State) (t : Ticket) (e : EngineId) :
    (s.settle t).isHeld e = s.isHeld e :=
  isHeld_modifyEngine _ _ _ fun _ => rfl

/-- Settling a ticket leaves alone the globals. -/
@[simp] theorem global_settle (s : State) (t : Ticket) (e : EngineId) :
    (s.settle t).global e = s.global e :=
  global_modifyEngine _ _ _ fun _ => rfl

/-- Settling a ticket leaves alone the hooks. -/
@[simp] theorem hook_settle (s : State) (t : Ticket) (e : EngineId) :
    (s.settle t).hook e = s.hook e :=
  hook_modifyEngine _ _ _ fun _ => rfl

/-- Only the entry of the ticket leaves the registry of its engine. -/
theorem registry_settle_self (s : State) {t : Ticket} (he : t.engine < s.engines.length) :
    (s.settle t).registry t.engine = (s.registry t.engine).without t.handle :=
  registry_modifyEngine_self (s.spend t) _ he

/-- No other engine's registry changes. -/
theorem registry_settle_of_ne (s : State) {t : Ticket} {e : EngineId} (hne : e ≠ t.engine) :
    (s.settle t).registry e = s.registry e :=
  registry_modifyEngine_of_ne (s.spend t) _ hne

/-- No handle is taken back. -/
theorem lastId_settle (s : State) {t : Ticket} (he : t.engine < s.engines.length) (e : EngineId) :
    ((s.settle t).registry e).lastId = (s.registry e).lastId := by
  by_cases heq : e = t.engine
  · subst heq
    rw [s.registry_settle_self he, Registry.lastId_without]
  · rw [s.registry_settle_of_ne heq]

/-- The values of every other registration stay. -/
theorem get?_settle_of_ne (s : State) {t : Ticket} (he : t.engine < s.engines.length)
    {e : EngineId} {h : Handle} (hne : e = t.engine → h ≠ t.handle) :
    ((s.settle t).registry e).get? h = (s.registry e).get? h := by
  by_cases heq : e = t.engine
  · subst heq
    rw [s.registry_settle_self he, Registry.get?_without_of_ne _ (hne rfl)]
  · rw [s.registry_settle_of_ne heq]

/-- Taking stored values is looking them up and removing their entry. -/
theorem takeStored_spend (s : State) (t : Ticket) :
    (s.spend t).takeStored t.engine t.handle =
      ((s.registry t.engine).get? t.handle).map fun values => (values, s.settle t) := by
  rw [takeStored, registry_spend, Registry.take_eq]
  cases (s.registry t.engine).get? t.handle <;> rfl

/-! ## Objects -/

/-- Applying a function makes and changes no object. -/
theorem heap_apply {s : State} {invocation : Invocation} {turn : Turn}
    (h : s.apply invocation = .awaiting turn) : turn.state.heap = s.heap := by
  unfold apply at h
  split at h
  · cases h
    rfl
  · split at h
    · cases h
    · cases h
      rfl

/-- Applying the last callback changes no object. -/
theorem heap_applyLast (s : State) (e : EngineId) (h : Handle) (operation : Operation)
    (last : FunctionRef) (arguments : List Value) :
    (s.applyLast e h operation last arguments).state.heap = s.heap := by
  unfold applyLast
  dsimp only
  split
  · rfl
  · next happly =>
    have hheap := heap_apply happly
    exact hheap

/-- Going on to the next line changes no object. -/
theorem heap_nextLine (s : State) (e : EngineId) (h : Handle) (lines : LineDelivery) :
    (s.nextLine e h lines).state.heap = s.heap := by
  unfold nextLine
  split
  · exact heap_applyLast ..
  · dsimp only
    split
    · exact heap_applyLast ..
    · next happly =>
      have hheap := heap_apply happly
      exact hheap

/-- Reporting a fatal error changes no object. -/
theorem heap_reportFatal (s : State) (e : EngineId) (error : ScriptError) :
    (s.reportFatal e error).state.heap = s.heap := by
  unfold reportFatal
  split <;> rfl

/-- Ending a function makes and changes no object. -/
theorem heap_return_ {s : State} {outcome : Outcome} {turn : Turn}
    (h : s.return_ outcome = some turn) : turn.state.heap = s.heap := by
  unfold return_ at h
  split at h
  · cases h
    rfl
  · dsimp only at h
    split at h
    · cases h
      exact heap_nextLine ..
    · cases h
      exact heap_applyLast ..
  · cases h
    unfold conclude
    split <;> rfl
  · cases h

end ScriptFiles.Bridge.State
