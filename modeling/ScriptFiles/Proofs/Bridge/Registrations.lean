import ScriptFiles.Proofs.Bridge.Books
import ScriptFiles.Proofs.Bridge.Happenings

/-!
# Every outstanding completion finds its callbacks

In every state of a run with fewer registrations than the counter of handles can number, each
waiting ticket has a registration of its own on its engine, and that of an operation holds as
many functions as the operation has callbacks. So a completion never misses its stored values and
never finds wrong ones, and the only fatal error of the operations is a global that is no object.
-/

namespace ScriptFiles.Bridge

/-! ## Runs -/

/-- A run of two parts ends where the second part leads from the end of the first. -/
@[simp] theorem after_append (s : State) (first second : List Move) :
    after s (first ++ second) = after (after s first) second := by
  rw [after, after, after, List.foldl_append]

@[simp] theorem after_nil (s : State) : after s [] = s := rfl

/-- A run goes on from the state after its first move. -/
@[simp] theorem after_cons (s : State) (m : Move) (rest : List Move) :
    after s (m :: rest) = after (step s m).state rest := rfl

/-- The first state: no engine, no ticket, nothing going on. -/
theorem formed_empty : Formed {} :=
  ⟨trivial, by simp, by simp, by simp⟩

/-- Every run keeps engines and tickets formed. -/
theorem Formed.after {s : State} (hformed : Formed s) (moves : List Move) :
    Formed (after s moves) := by
  induction moves generalizing s with
  | nil => exact hformed
  | cons m rest ih => exact ih (hformed.step m)

/-- No move takes a registration back from the count. -/
theorem Formed.ticketCount_le_step {s : State} (hformed : Formed s) (m : Move) :
    s.ticketCount ≤ (Bridge.step s m).state.ticketCount := by
  cases (answers_step hformed.seated m).booked with
  | entered _ _ hbooks _ _ =>
    rw [hbooks.ticketCount, State.ticketCount_register]
    exact Nat.le_succ _
  | kept hbooks _ _ | settled _ hbooks _ _ | lost _ _ hbooks _ _ | abandoned _ hbooks _ _ =>
    exact Nat.le_of_eq hbooks.ticketCount.symm

/-- No run takes a registration back from the count. -/
theorem Formed.ticketCount_le_after {s : State} (hformed : Formed s) (moves : List Move) :
    s.ticketCount ≤ (Bridge.after s moves).ticketCount := by
  induction moves generalizing s with
  | nil => exact Nat.le_refl _
  | cons m rest ih => exact Nat.le_trans (hformed.ticketCount_le_step m) (ih (hformed.step m))

/-- A run that ends below the limit of the counters starts below it. -/
theorem Formed.few {s : State} (hformed : Formed s) {moves : List Move}
    (hfew : (Bridge.after s moves).ticketCount < UInt64.size) : s.ticketCount < UInt64.size :=
  Nat.lt_of_le_of_lt (hformed.ticketCount_le_after moves) hfew

/-- A run that ends below the limit of the counters stays below it. -/
theorem Formed.few_append {s : State} (hformed : Formed s) {first rest : List Move}
    (hfew : (Bridge.after s (first ++ rest)).ticketCount < UInt64.size) :
    (Bridge.after s first).ticketCount < UInt64.size := by
  rw [after_append] at hfew
  exact (hformed.after first).few hfew

/-- A run that ends below the limit of the counters is below it after each of its moves. -/
theorem few_step {first rest : List Move} {m : Move}
    (hfew : (after {} (first ++ m :: rest)).ticketCount < UInt64.size) :
    (step (after {} first) m).state.ticketCount < UInt64.size := by
  rw [after_append, after_cons] at hfew
  exact ((formed_empty.after first).step m).few hfew

/-! ## Registrations -/

/-- A handle was drawn on an engine. -/
def State.Drawn (s : State) (e : EngineId) (h : Handle) : Prop :=
  h.id.toNat ≤ (s.registry e).lastId.toNat

/-- Registries are sound, no handle number exceeds the count of registrations, no two tickets
share a registration, and each ticket has a registration that fits its purpose. -/
structure Registered (s : State) : Prop where
  sound : ∀ e, (s.registry e).Sound
  counted : ∀ e, (s.registry e).lastId.toNat ≤ s.ticketCount
  apart : ∀ t ∈ s.tickets, ∀ u ∈ s.tickets, t.engine = u.engine → t.handle = u.handle → t = u
  stored : ∀ t ∈ s.tickets,
    ∃ values, (s.registry t.engine).get? t.handle = some values ∧ Fits t.purpose values

/-- Nothing is registered at first. -/
theorem registered_empty : Registered {} :=
  ⟨fun _ => Registry.sound_empty, fun _ => Nat.le_refl _, by simp, by simp⟩

/-- Books that are the same are registered alike. -/
theorem Registered.of_sameBooks {s s' : State} (hregistered : Registered s)
    (hbooks : SameBooks s s') : Registered s' where
  sound e := by
    rw [hbooks.registry]
    exact hregistered.sound e
  counted e := by
    rw [hbooks.registry, hbooks.ticketCount]
    exact hregistered.counted e
  apart := by
    rw [hbooks.tickets]
    exact hregistered.apart
  stored t ht := by
    rw [hbooks.tickets] at ht
    rw [hbooks.registry]
    exact hregistered.stored t ht

variable {s : State} (hregistered : Registered s)

include hregistered

/-- The counter of an engine has room for as many registrations as are still to be counted. -/
theorem Registered.room (hfew : s.ticketCount + 1 < UInt64.size) (e : EngineId) :
    (s.registry e).lastId.toNat + 1 < UInt64.size :=
  Nat.lt_of_le_of_lt (Nat.succ_le_succ (hregistered.counted e)) hfew

/-- The handle of a waiting ticket was drawn on its engine. -/
theorem Registered.drawn {t : Ticket} (ht : t ∈ s.tickets) : s.Drawn t.engine t.handle := by
  obtain ⟨values, hget, -⟩ := hregistered.stored t ht
  exact (hregistered.sound t.engine).le_lastId hget

/-- A handle that was drawn is not the next one. -/
theorem Registered.ne_nextHandle (hfew : s.ticketCount + 1 < UInt64.size) {e : EngineId}
    {h : Handle} (hdrawn : s.Drawn e h) : h ≠ (s.registry e).nextHandle := by
  rintro rfl
  rw [State.Drawn, Registry.toNat_nextHandle (hregistered.room hfew e)] at hdrawn
  omega

/-- Registering on an engine draws one more handle there. -/
theorem Registered.lastId_register (hfew : s.ticketCount + 1 < UInt64.size) {e : EngineId}
    (values : List Value) (purpose : Purpose) (he : e < s.engines.length) :
    ((s.register e values purpose).2.registry e).lastId.toNat =
      (s.registry e).lastId.toNat + 1 := by
  rw [s.registry_register_self values purpose he, Registry.lastId_store]
  exact Registry.toNat_nextHandle (hregistered.room hfew e)

/-- Registering leaves the values under drawn handles alone. -/
theorem Registered.get?_register (hfew : s.ticketCount + 1 < UInt64.size) {e e' : EngineId}
    {h : Handle} (hdrawn : s.Drawn e' h) (values : List Value) (purpose : Purpose)
    (he : e < s.engines.length) :
    ((s.register e values purpose).2.registry e').get? h = (s.registry e').get? h := by
  by_cases heq : e' = e
  · subst heq
    rw [s.registry_register_self values purpose he,
      Registry.get?_store_of_ne _ _ (hregistered.ne_nextHandle hfew hdrawn)]
  · rw [s.registry_register_of_ne values purpose heq]

/-- Registering fitting values keeps everything registered. -/
theorem Registered.register {e : EngineId} {values : List Value} {purpose : Purpose}
    (he : e < s.engines.length) (hfits : Fits purpose values)
    (hfew : s.ticketCount + 1 < UInt64.size) :
    Registered (s.register e values purpose).2 where
  sound e' := by
    by_cases heq : e' = e
    · subst heq
      rw [s.registry_register_self values purpose he]
      exact (hregistered.sound e').store (hregistered.room hfew e') values
    · rw [s.registry_register_of_ne values purpose heq]
      exact hregistered.sound e'
  counted e' := by
    have hcounted := hregistered.counted e'
    rw [State.ticketCount_register]
    by_cases heq : e' = e
    · subst heq
      rw [hregistered.lastId_register hfew values purpose he]
      omega
    · rw [s.registry_register_of_ne values purpose heq]
      omega
  apart t ht u hu hengine hhandle := by
    rw [State.tickets_register] at ht hu
    rcases List.mem_append.mp ht with ht | ht <;> rcases List.mem_append.mp hu with hu | hu
    · exact hregistered.apart t ht u hu hengine hhandle
    · obtain rfl := List.mem_singleton.mp hu
      have hdrawn := hregistered.drawn ht
      rw [hengine] at hdrawn
      exact absurd hhandle (hregistered.ne_nextHandle hfew hdrawn)
    · obtain rfl := List.mem_singleton.mp ht
      have hdrawn := hregistered.drawn hu
      rw [← hengine] at hdrawn
      exact absurd hhandle.symm (hregistered.ne_nextHandle hfew hdrawn)
    · rw [List.mem_singleton.mp ht, List.mem_singleton.mp hu]
  stored t ht := by
    rw [State.tickets_register] at ht
    rcases List.mem_append.mp ht with ht | ht
    · obtain ⟨old, hget, hold⟩ := hregistered.stored t ht
      refine ⟨old, ?_, hold⟩
      rw [hregistered.get?_register hfew (hregistered.drawn ht) values purpose he, hget]
    · obtain rfl := List.mem_singleton.mp ht
      refine ⟨values, ?_, hfits⟩
      change ((s.register e values purpose).2.registry e).get? (s.registry e).nextHandle = _
      rw [s.registry_register_self values purpose he, Registry.get?_store_self]

/-- Using a ticket up keeps everything registered. -/
theorem Registered.spend (t : Ticket) : Registered (s.spend t) where
  sound := hregistered.sound
  counted := hregistered.counted
  apart u hu v hv :=
    hregistered.apart u (State.mem_tickets_spend.mp hu).1 v (State.mem_tickets_spend.mp hv).1
  stored u hu := hregistered.stored u (State.mem_tickets_spend.mp hu).1

/-- Redeeming a ticket takes only its own registration. -/
theorem Registered.settle {t : Ticket} (ht : t ∈ s.tickets) (he : t.engine < s.engines.length) :
    Registered (s.settle t) where
  sound e := by
    by_cases heq : e = t.engine
    · subst heq
      rw [s.registry_settle_self he]
      exact (hregistered.sound t.engine).without t.handle
    · rw [s.registry_settle_of_ne heq]
      exact hregistered.sound e
  counted e := by
    rw [s.lastId_settle he]
    exact hregistered.counted e
  apart u hu v hv :=
    hregistered.apart u (State.mem_tickets_spend.mp hu).1 v (State.mem_tickets_spend.mp hv).1
  stored u hu := by
    obtain ⟨hu, hid⟩ := State.mem_tickets_spend.mp hu
    obtain ⟨values, hget, hfits⟩ := hregistered.stored u hu
    refine ⟨values, ?_, hfits⟩
    rw [s.get?_settle_of_ne he, hget]
    exact fun hengine hhandle =>
      hid (congrArg Ticket.id (hregistered.apart u hu t ht hengine hhandle))

omit hregistered

/-- One move keeps everything registered below the limit of the counters. -/
theorem Registered.step (hregistered : Registered s) (hformed : Formed s) {m : Move}
    (hfew : (Bridge.step s m).state.ticketCount < UInt64.size) :
    Registered (Bridge.step s m).state := by
  cases (answers_step hformed.seated m).booked with
  | kept hbooks _ _ => exact hregistered.of_sameBooks hbooks
  | entered halive hfits hbooks _ _ =>
    rw [hbooks.ticketCount, State.ticketCount_register] at hfew
    exact (hregistered.register (hformed.lt_of_isAlive halive) hfits hfew).of_sameBooks hbooks
  | settled hredeems hbooks _ _ =>
    have hticket := hredeems.mem
    exact (hregistered.settle hticket (hformed.tickets _ hticket).1).of_sameBooks hbooks
  | lost _ _ hbooks _ _ | abandoned _ hbooks _ _ => exact (hregistered.spend _).of_sameBooks hbooks

/-- Every run keeps everything registered below the limit of the counters. -/
theorem Registered.after (hregistered : Registered s) (hformed : Formed s) (moves : List Move)
    (hfew : (Bridge.after s moves).ticketCount < UInt64.size) :
    Registered (Bridge.after s moves) := by
  induction moves generalizing s with
  | nil => exact hregistered
  | cons m rest ih =>
    have hfewStep := (hformed.step m).few hfew
    exact ih (hregistered.step hformed hfewStep) (hformed.step m) hfew

/-- In every run with few enough registrations everything is registered. -/
theorem registered_after (moves : List Move)
    (hfew : (Bridge.after {} moves).ticketCount < UInt64.size) :
    Registered (Bridge.after {} moves) :=
  registered_empty.after formed_empty moves hfew

/-- No move takes a drawn handle back. -/
theorem Registered.drawn_step (hregistered : Registered s) (hformed : Formed s) {m : Move}
    (hfew : (Bridge.step s m).state.ticketCount < UInt64.size) {e : EngineId} {h : Handle}
    (hdrawn : s.Drawn e h) : (Bridge.step s m).state.Drawn e h := by
  cases (answers_step hformed.seated m).booked with
  | kept hbooks _ _ | lost _ _ hbooks _ _ | abandoned _ hbooks _ _ =>
    rw [State.Drawn, hbooks.registry]
    exact hdrawn
  | @entered e' values purpose halive _ hbooks _ _ =>
    have he := hformed.lt_of_isAlive halive
    rw [hbooks.ticketCount, State.ticketCount_register] at hfew
    rw [State.Drawn, hbooks.registry]
    by_cases heq : e = e'
    · subst heq
      rw [hregistered.lastId_register hfew values purpose he]
      exact Nat.le_succ_of_le hdrawn
    · rw [s.registry_register_of_ne values purpose heq]
      exact hdrawn
  | settled hredeems hbooks _ _ =>
    rw [State.Drawn, hbooks.registry, s.lastId_settle (hformed.tickets _ hredeems.mem).1]
    exact hdrawn

/-! ## Completions -/

/-- A waiting ticket of an operation has its callbacks registered. -/
theorem Registered.callbacks (hregistered : Registered s) {t : Ticket} {operation : Operation}
    (ht : t ∈ s.tickets) (hpurpose : t.purpose = .operation operation) :
    ∃ callbacks, (s.registry t.engine).get? t.handle =
        some (callbacks.functions.map Value.function) ∧
      callbacks.functions.length = operation.callbackCount ∧
      operation.callbacks? t.handle (callbacks.functions.map Value.function) = .ok callbacks := by
  obtain ⟨values, hget, hfits⟩ := hregistered.stored t ht
  rw [hpurpose] at hfits
  obtain ⟨functions, hlength, rfl⟩ := hfits
  obtain ⟨callbacks, rfl⟩ := exists_callbacks hlength
  exact ⟨callbacks, hget, hlength, Operation.callbacks?_eq_ok_iff.mpr ⟨rfl, hlength⟩⟩

/-- A completion of a living engine hands its result to the stored callbacks. -/
theorem Redeems.step_complete {t : Ticket} {callbacks : Callbacks} {operation : Operation}
    {result : NativeResult} (hredeems : Redeems s (.fire t.id result) t)
    (hpurpose : t.purpose = .operation operation) (halive : s.isAlive t.engine = true)
    (hget : (s.registry t.engine).get? t.handle = some (callbacks.functions.map Value.function))
    (hlength : callbacks.functions.length = operation.callbackCount) :
    Bridge.step s (.fire t.id result) =
      (s.settle t).complete t.engine t.handle operation callbacks result := by
  have hok : operation.callbacks? t.handle (callbacks.functions.map Value.function) =
      .ok callbacks := Operation.callbacks?_eq_ok_iff.mpr ⟨rfl, hlength⟩
  obtain ⟨hticket, operation', hpurpose', haccepts⟩ := hredeems.of_fire
  obtain rfl : operation = operation' := by simpa [hpurpose] using hpurpose'
  rw [Bridge.step_fire hticket hpurpose haccepts, fire_eq, if_pos halive, hget]
  simp only [hok]

/-- A completion or resumption of a dead engine uses its ticket up and does nothing else. -/
theorem Redeems.step_gone {m : Move} {t : Ticket} (hredeems : Redeems s m t)
    (hdead : s.isAlive t.engine = false) :
    Bridge.step s m = ⟨s.spend t, [goneEvent t.handle], .finished⟩ := by
  have hnot : ¬s.isAlive t.engine = true := by simp [hdead]
  cases hredeems with
  | fire hticket hpurpose haccepts =>
    rw [Bridge.step_fire hticket hpurpose haccepts, fire_eq, if_neg hnot]
  | resume hticket hpurpose => rw [step_resume hticket hpurpose, resume_eq, if_neg hnot]

/-! ## Events -/

/-- An event that neither speaks of missing values nor is a fatal error, except one that the host
raises itself or one that comes from a global that is no object. -/
def Benign (m : Move) (event : Event) : Prop :=
  (∀ h, event ≠ unstoredEvent h) ∧
    ∀ e hook error, event = .fatal e hook error →
      error = contextError ∨ m = .delivered (some error)

/-- What is said of operations is benign. -/
theorem benign_sayOperation (m : Move) (level : Log.Level) (message : String)
    (fields : List (String × Log.FieldValue)) :
    Benign m (sayOperation level message fields) := by
  refine ⟨fun h heq => ?_, nofun⟩
  simp [unstoredEvent, sayEngine, sayOperation, Log.Event.say, engineTarget,
    operationTarget] at heq

/-- What is said of engines is benign unless it is a warning. -/
theorem benign_sayEngine (m : Move) {level : Log.Level} (message : String)
    (fields : List (String × Log.FieldValue)) (hlevel : level ≠ .warn) :
    Benign m (sayEngine level message fields) := by
  refine ⟨fun h heq => hlevel ?_, nofun⟩
  simp only [unstoredEvent, sayEngine, Log.Event.say, Event.logged.injEq, Log.Event.mk.injEq] at heq
  exact heq.1

/-- Whatever happens when everything is registered is benign. -/
theorem Registered.benign {s : State} (hregistered : Registered s) {m : Move} {turn : Turn}
    (hanswers : Answers s m turn) {event : Event} (hevent : event ∈ turn.events) :
    Benign m event := by
  rcases hanswers.issuing_or_happens with ⟨invocation, operation, label, -, -, -, rfl⟩ | hhappens
  · rcases mem_events_issuing hevent with rfl | ⟨level, message, fields, rfl⟩ | ⟨id, h, rfl⟩
    · exact ⟨nofun, nofun⟩
    · exact benign_sayOperation m level message fields
    · exact ⟨nofun, nofun⟩
  · cases hhappens event hevent with
    | said => exact benign_sayOperation m _ _ _
    | gone | unreported => exact benign_sayEngine m _ _ nofun
    | unstored hredeems hget =>
      obtain ⟨values, hstored, -⟩ := hregistered.stored _ hredeems.mem
      rw [hget] at hstored
      contradiction
    | applied _ _ | delivered _ => exact ⟨nofun, nofun⟩
    | fatal _ hraises =>
      refine ⟨nofun, fun _ _ _ heq => ?_⟩
      cases heq
      rcases hraises with ⟨t, operation, values, hredeems, hpurpose, hget, herror⟩ | hbenign
      · obtain ⟨callbacks, hstored, -, hok⟩ := hregistered.callbacks hredeems.mem hpurpose
        rw [hget, Option.some.injEq] at hstored
        rw [hstored, hok] at herror
        contradiction
      · exact hbenign

/-- In every state of a run with fewer registrations than handles, each outstanding completion of
an operation has its own callbacks registered on its engine, two for reading by lines and one
otherwise, all of them functions. When it fires while the engine lives, they are taken out and
pass the check. No completion is ever without stored values, and what is reported as fatal is a
global that is no object or an error that the host's own resumption code returned. -/
theorem outstanding_completions_registered (moves : List Move)
    (hfew : (Bridge.after {} moves).ticketCount < UInt64.size) :
    (∀ t ∈ (Bridge.after {} moves).tickets, ∀ operation, t.purpose = .operation operation →
      ∃ functions : List FunctionRef,
        functions.length = (if operation = .readFromFile then 2 else 1) ∧
        ((Bridge.after {} moves).registry t.engine).get? t.handle =
          some (functions.map Value.function)) ∧
    (∀ t operation result, Redeems (Bridge.after {} moves) (.fire t.id result) t →
      t.purpose = .operation operation → (Bridge.after {} moves).isAlive t.engine = true →
      ∃ values registry callbacks,
        ((Bridge.after {} moves).registry t.engine).take t.handle = some (values, registry) ∧
        operation.callbacks? t.handle values = .ok callbacks) ∧
    ∀ m, ∀ event ∈ (Bridge.step (Bridge.after {} moves) m).events,
      (∀ h, event ≠ unstoredEvent h) ∧
      ∀ e hook error, event = .fatal e hook error →
        (∃ message, error = .invalidContext message) ∨ m = .delivered (some error) := by
  have hregistered := registered_after moves hfew
  have hformed := formed_empty.after moves
  refine ⟨fun t ht operation hpurpose => ?_, fun t operation result hredeems hpurpose _ => ?_,
    fun m event hevent => ?_⟩
  · obtain ⟨callbacks, hget, hlength, -⟩ := hregistered.callbacks ht hpurpose
    refine ⟨callbacks.functions, ?_, hget⟩
    rw [hlength]
    cases operation <;> rfl
  · obtain ⟨callbacks, hget, -, hok⟩ := hregistered.callbacks hredeems.mem hpurpose
    refine ⟨_, ((Bridge.after {} moves).registry t.engine).without t.handle, callbacks, ?_, hok⟩
    rw [Registry.take_eq, hget]
    rfl
  · obtain ⟨hstored, hfatal⟩ := hregistered.benign (answers_step hformed.seated m) hevent
    refine ⟨hstored, fun e hook error heq => ?_⟩
    rcases hfatal e hook error heq with rfl | hhost
    · exact Or.inl ⟨_, rfl⟩
    · exact Or.inr hhost

/-- An engine is made, and reading by lines is called and not yet completed. -/
def callToRead : List Move :=
  [.createEngine,
    .call 0 ⟨0, "readFromFile", .entry "fs" .readFromFile⟩ .undefined
      [.string "notes.txt", .function ⟨1, "listener", .host⟩, .function ⟨2, "done", .host⟩],
    .acknowledge]

/-- The outstanding completion of a call to read by lines finds its two functions. -/
theorem outstanding_completions_registered_callToRead :
    (Bridge.after {} callToRead).ticketCount < UInt64.size ∧
      ∃ functions : List FunctionRef, functions.length = 2 ∧
        ((Bridge.after {} callToRead).registry 0).get? ⟨1⟩ =
          some (functions.map Value.function) := by
  have hfew : (Bridge.after {} callToRead).ticketCount < UInt64.size := by decide
  obtain ⟨hstored, -, -⟩ := outstanding_completions_registered callToRead hfew
  exact ⟨hfew, hstored ⟨0, 0, ⟨1⟩, .operation .readFromFile⟩ (by decide) .readFromFile rfl⟩

end ScriptFiles.Bridge
