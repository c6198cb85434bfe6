import ScriptFiles.Proofs.Bridge.LastCalls

/-!
# From a call to its completion

An accepted call reserves a handle and a ticket for itself. Whatever the host does next, nobody
else gets either of them, and the values of the call stay under the handle until the ticket is
redeemed (`Reserved`). A ticket that was redeemed or given up never comes back (`Spent`). So when
the ticket is redeemed while the engine lives, the completion works on the callbacks that the call
was made with.
-/

namespace ScriptFiles.Bridge

/-! ## Accepted calls -/

/-- An accepted call: its engine and the request that it makes. -/
def Event.accepted? : Event → Option (EngineId × Request)
  | .applied invocation =>
    invocation.accepted?.map fun operation =>
      (invocation.engine, operation.request invocation.arguments)
  | _ => none

/-- A native request and its engine. -/
def Event.request? : Event → Option (EngineId × Request)
  | .requested e _ _ request => some (e, request)
  | _ => none

variable {s : State}

/-- What happens outside of accepted calls starts no operation and makes no request. -/
theorem Happens.idle {m : Move} {event : Event} (hhappens : Happens s m event) :
    event.accepted? = none ∧ event.request? = none := by
  cases hhappens with
  | said | gone | unstored _ _ | unreported | delivered _ | fatal _ _ => exact ⟨rfl, rfl⟩
  | applied _ hnone =>
    rw [Event.accepted?, hnone]
    exact ⟨rfl, rfl⟩

/-- An accepted call starts its operation. -/
theorem accepted?_of_entry {invocation : Invocation} {label : String} {operation : Operation}
    (hbody : invocation.function.body = .entry label operation)
    (haccepted : operation.rejection label invocation.arguments = none) :
    invocation.accepted? = some operation := by
  simp only [Invocation.accepted?, hbody, haccepted, if_true]

/-- The accepted calls of a turn are its native requests. -/
theorem Answers.accepted_eq {m : Move} {turn : Turn} (hanswers : Answers s m turn) :
    turn.events.filterMap Event.accepted? = turn.events.filterMap Event.request? := by
  rcases hanswers.issuing_or_happens with
    ⟨invocation, operation, label, -, hbody, haccepted, rfl⟩ | hhappens
  · have hsome := accepted?_of_entry hbody haccepted
    simp [issuing, List.filterMap_cons, Event.accepted?, Event.request?, hsome, issuedEvent,
      sayOperation]
  · rw [List.filterMap_eq_nil_iff.mpr fun event hevent => (hhappens event hevent).idle.1,
      List.filterMap_eq_nil_iff.mpr fun event hevent => (hhappens event hevent).idle.2]

/-- A turn with an accepted call is the turn of that call. -/
theorem Answers.eq_issuing {m : Move} {turn : Turn} (hanswers : Answers s m turn)
    {invocation : Invocation} {operation : Operation}
    (hevent : .applied invocation ∈ turn.events)
    (haccepted : invocation.accepted? = some operation) :
    s.isAlive invocation.engine = true ∧
      (∃ label, operation.rejection label invocation.arguments = none) ∧
      turn = issuing s invocation operation := by
  rcases hanswers.issuing_or_happens with
    ⟨other, operation', label, halive, hbody, hnone, rfl⟩ | hhappens
  · obtain rfl : invocation = other := by
      rcases List.mem_cons.mp hevent with heq | hrest
      · simpa using heq
      · simp [issuedEvent, sayOperation] at hrest
    rw [accepted?_of_entry hbody hnone, Option.some.injEq] at haccepted
    subst haccepted
    exact ⟨halive, ⟨label, hnone⟩, rfl⟩
  · have hnone := (hhappens _ hevent).idle.1
    rw [Event.accepted?, haccepted] at hnone
    contradiction

/-! ## Reservations -/

/-- Nobody else has or gets the number or the handle of a ticket, and the values of the ticket are
stored for as long as it waits. -/
structure Reserved (s : State) (t : Ticket) (values : List Value) : Prop where
  drawn : s.Drawn t.engine t.handle
  counted : t.id < s.ticketCount
  alone : ∀ u ∈ s.tickets, u.engine = t.engine → u.handle = t.handle → u = t
  numbered : ∀ u ∈ s.tickets, u.id = t.id → u = t
  stored : t ∈ s.tickets → (s.registry t.engine).get? t.handle = some values

/-- A ticket that waited once and does not any more. -/
structure Spent (s : State) (id : Nat) : Prop where
  counted : id < s.ticketCount
  gone : ∀ t ∈ s.tickets, t.id ≠ id

/-- A new registration reserves its ticket. -/
theorem Registered.reserved_register (hregistered : Registered s) (hformed : Formed s)
    (hfew : s.ticketCount + 1 < UInt64.size) {e : EngineId} (values : List Value)
    (purpose : Purpose) (he : e < s.engines.length) :
    Reserved (s.register e values purpose).2 (s.nextTicket e purpose) values where
  drawn := by
    rw [State.Drawn]
    change (s.registry e).nextHandle.id.toNat ≤
      ((s.register e values purpose).2.registry e).lastId.toNat
    refine Nat.le_of_eq ?_
    rw [hregistered.lastId_register hfew values purpose he,
      Registry.toNat_nextHandle (hregistered.room hfew e)]
  counted := Nat.lt_succ_self _
  alone u hu hengine hhandle := by
    rcases List.mem_append.mp hu with hold | hnew
    · have hdrawn := hregistered.drawn hold
      rw [hengine] at hdrawn
      exact absurd hhandle (hregistered.ne_nextHandle hfew hdrawn)
    · exact List.mem_singleton.mp hnew
  numbered u hu hid := by
    rcases List.mem_append.mp hu with hold | hnew
    · exact absurd hid (Nat.ne_of_lt (hformed.tickets u hold).2)
    · exact List.mem_singleton.mp hnew
  stored _ := by
    change ((s.register e values purpose).2.registry e).get? (s.registry e).nextHandle = _
    rw [s.registry_register_self values purpose he, Registry.get?_store_self]

variable {t : Ticket} {values : List Value}

/-- What keeps the books keeps a reservation. -/
theorem Reserved.of_sameBooks {s' : State} (hreserved : Reserved s t values)
    (hbooks : SameBooks s s') : Reserved s' t values where
  drawn := by
    rw [State.Drawn, hbooks.registry]
    exact hreserved.drawn
  counted := by
    rw [hbooks.ticketCount]
    exact hreserved.counted
  alone := by
    rw [hbooks.tickets]
    exact hreserved.alone
  numbered := by
    rw [hbooks.tickets]
    exact hreserved.numbered
  stored := by
    rw [hbooks.tickets, hbooks.registry]
    exact hreserved.stored

/-- An accepted call has a ticket with its callbacks reserved, the last of them its last
argument. -/
structure Issued (turn : Turn) (invocation : Invocation) (operation : Operation)
    (t : Ticket) (callbacks : Callbacks) : Prop where
  engine : t.engine = invocation.engine
  purpose : t.purpose = .operation operation
  requested : .requested invocation.engine t.id t.handle
    (operation.request invocation.arguments) ∈ turn.events
  values : operation.callbacks invocation.arguments = callbacks.functions.map Value.function
  length : callbacks.functions.length = operation.callbackCount
  last : invocation.arguments.getLast? = some (.function callbacks.last)
  reserved : Reserved turn.state t (callbacks.functions.map Value.function)
  waiting : t ∈ turn.state.tickets

/-- The turn of an accepted call issues the next ticket. -/
theorem Registered.issued_issuing (hregistered : Registered s) (hformed : Formed s)
    {invocation : Invocation} {operation : Operation} {label : String}
    (hfew : s.ticketCount + 1 < UInt64.size) (halive : s.isAlive invocation.engine = true)
    (hnone : operation.rejection label invocation.arguments = none) :
    ∃ callbacks, Issued (issuing s invocation operation) invocation operation
      (s.nextTicket invocation.engine (.operation operation)) callbacks := by
  obtain ⟨callbacks, hvalues, hlength, hlast⟩ := Operation.callbacks_of_accepted hnone
  have hreserved := hregistered.reserved_register hformed hfew
    (operation.callbacks invocation.arguments) (.operation operation)
    (hformed.lt_of_isAlive halive)
  refine ⟨callbacks, rfl, rfl, ?_, hvalues, hlength, hlast, ?_, ?_⟩
  · exact List.mem_cons_of_mem _ (List.mem_cons_of_mem _ (List.mem_singleton_self _))
  · rw [← hvalues]
    exact hreserved.of_sameBooks (.of_eq rfl rfl rfl)
  · exact List.mem_append_right _ (List.mem_singleton_self _)

/-- Every accepted call is issued. -/
theorem Registered.issued (hregistered : Registered s) (hformed : Formed s) {m : Move}
    {invocation : Invocation} {operation : Operation}
    (hfew : (Bridge.step s m).state.ticketCount < UInt64.size)
    (hevent : .applied invocation ∈ (Bridge.step s m).events)
    (haccepted : invocation.accepted? = some operation) :
    ∃ t callbacks, Issued (Bridge.step s m) invocation operation t callbacks := by
  obtain ⟨halive, ⟨label, hnone⟩, hturn⟩ :=
    (answers_step hformed.seated m).eq_issuing hevent haccepted
  rw [hturn] at hfew ⊢
  exact ⟨_, hregistered.issued_issuing hformed hfew halive hnone⟩

/-- Using any ticket up keeps a reservation. -/
theorem Reserved.spend (hreserved : Reserved s t values) (u : Ticket) :
    Reserved (s.spend u) t values where
  drawn := hreserved.drawn
  counted := hreserved.counted
  alone v hv := hreserved.alone v (State.mem_tickets_spend.mp hv).1
  numbered v hv := hreserved.numbered v (State.mem_tickets_spend.mp hv).1
  stored ht := hreserved.stored (State.mem_tickets_spend.mp ht).1

/-- Redeeming any ticket keeps a reservation. -/
theorem Reserved.settle (hreserved : Reserved s t values) (hformed : Formed s) {u : Ticket}
    (hu : u ∈ s.tickets) : Reserved (s.settle u) t values where
  drawn := by
    rw [State.Drawn, s.lastId_settle (hformed.tickets u hu).1]
    exact hreserved.drawn
  counted := hreserved.counted
  alone v hv := hreserved.alone v (State.mem_tickets_spend.mp hv).1
  numbered v hv := hreserved.numbered v (State.mem_tickets_spend.mp hv).1
  stored ht := by
    obtain ⟨ht, hid⟩ := State.mem_tickets_spend.mp ht
    rw [s.get?_settle_of_ne (hformed.tickets u hu).1 fun hengine hhandle => ?_]
    · exact hreserved.stored ht
    · exact hid (congrArg Ticket.id (hreserved.alone u hu hengine.symm hhandle.symm)).symm

/-- Registering keeps the reservations there are. -/
theorem Reserved.register (hreserved : Reserved s t values) (hregistered : Registered s)
    (hfew : s.ticketCount + 1 < UInt64.size) {e : EngineId} (values' : List Value)
    (purpose : Purpose) (he : e < s.engines.length) :
    Reserved (s.register e values' purpose).2 t values := by
  have hcounted := hreserved.counted
  have hother : t.engine = e → (s.nextTicket e purpose).handle ≠ t.handle := by
    rintro rfl hhandle
    exact hregistered.ne_nextHandle hfew hreserved.drawn hhandle.symm
  constructor
  · rw [State.Drawn]
    have hdrawn := hreserved.drawn
    by_cases heq : t.engine = e
    · subst heq
      rw [hregistered.lastId_register hfew values' purpose he]
      exact Nat.le_succ_of_le hdrawn
    · rw [s.registry_register_of_ne values' purpose heq]
      exact hdrawn
  · exact Nat.lt_succ_of_lt hcounted
  · intro u hu hengine hhandle
    rcases List.mem_append.mp hu with hold | hnew
    · exact hreserved.alone u hold hengine hhandle
    · obtain rfl := List.mem_singleton.mp hnew
      exact absurd hhandle (hother hengine.symm)
  · intro u hu hid
    rcases List.mem_append.mp hu with hold | hnew
    · exact hreserved.numbered u hold hid
    · obtain rfl := List.mem_singleton.mp hnew
      exact absurd hid.symm (Nat.ne_of_lt hcounted)
  · intro ht
    rcases List.mem_append.mp ht with hold | hnew
    · rw [hregistered.get?_register hfew hreserved.drawn values' purpose he]
      exact hreserved.stored hold
    · obtain rfl := List.mem_singleton.mp hnew
      exact absurd hcounted (Nat.lt_irrefl _)

/-- One move keeps a reservation. -/
theorem Reserved.step (hreserved : Reserved s t values) (hformed : Formed s)
    (hregistered : Registered s) {m : Move}
    (hfew : (Bridge.step s m).state.ticketCount < UInt64.size) :
    Reserved (Bridge.step s m).state t values := by
  cases (answers_step hformed.seated m).booked with
  | kept hbooks _ _ => exact hreserved.of_sameBooks hbooks
  | @entered e values' purpose halive _ hbooks _ _ =>
    rw [hbooks.ticketCount, State.ticketCount_register] at hfew
    have he := hformed.lt_of_isAlive halive
    exact (hreserved.register hregistered hfew values' purpose he).of_sameBooks hbooks
  | settled hredeems hbooks _ _ =>
    exact (hreserved.settle hformed hredeems.mem).of_sameBooks hbooks
  | lost _ _ hbooks _ _ | abandoned _ hbooks _ _ => exact (hreserved.spend _).of_sameBooks hbooks

/-- Every run keeps a reservation. -/
theorem Reserved.after (hreserved : Reserved s t values) (hformed : Formed s)
    (hregistered : Registered s) (moves : List Move)
    (hfew : (Bridge.after s moves).ticketCount < UInt64.size) :
    Reserved (Bridge.after s moves) t values := by
  induction moves generalizing s with
  | nil => exact hreserved
  | cons m rest ih =>
    have hfewStep := (hformed.step m).few hfew
    exact ih (hreserved.step hformed hregistered hfewStep) (hformed.step m)
      (hregistered.step hformed hfewStep) hfew

/-- The ticket of an accepted call stays reserved for the rest of the run. -/
theorem Issued.reserved_run {before rest : List Move} {m : Move} {invocation : Invocation}
    {operation : Operation} {callbacks : Callbacks}
    (hissued : Issued (Bridge.step (Bridge.after {} before) m) invocation operation t callbacks)
    (hfew : (Bridge.after {} (before ++ m :: rest)).ticketCount < UInt64.size) :
    Reserved (Bridge.after {} (before ++ m :: rest)) t (callbacks.functions.map Value.function) := by
  have hformed := formed_empty.after before
  have hregistered := registered_after before (formed_empty.few_append hfew)
  have hcalled := hregistered.step hformed (few_step hfew)
  rw [after_append, after_cons] at hfew ⊢
  exact hissued.reserved.after (hformed.step m) hcalled rest hfew

/-! ## Spent tickets -/

/-- A redeemed ticket is spent. -/
theorem Redeems.spent {m : Move} (hredeems : Redeems s m t) (hformed : Formed s) :
    Spent (step s m).state t.id := by
  have hcounted := (hformed.tickets t hredeems.mem).2
  have hother {u : Ticket} (hu : u ∈ (s.spend t).tickets) : u.id ≠ t.id :=
    (State.mem_tickets_spend.mp hu).2
  have hstarted : Bridge.started? m (step s m) = some t.id := hredeems.started? hredeems.prompt_ne
  cases (answers_step hformed.seated m).booked with
  | kept _ _ hnone | entered _ _ _ _ hnone | abandoned _ _ _ hnone =>
    rw [hstarted] at hnone
    contradiction
  | settled hredeems' hbooks _ hstarted' | lost hredeems' _ hbooks _ hstarted' =>
    rw [hstarted, Option.some.injEq] at hstarted'
    obtain rfl := hformed.distinct _ hredeems.mem _ hredeems'.mem hstarted'
    refine ⟨by rw [hbooks.ticketCount]; exact hcounted, fun u hu => ?_⟩
    rw [hbooks.tickets] at hu
    exact hother hu

/-- No move brings a spent ticket back. -/
theorem Spent.step {id : Nat} (hspent : Spent s id) (hformed : Formed s) (m : Move) :
    Spent (Bridge.step s m).state id := by
  refine ⟨Nat.lt_of_lt_of_le hspent.counted (hformed.ticketCount_le_step m), fun u hu => ?_⟩
  cases (answers_step hformed.seated m).booked with
  | kept hbooks _ _ =>
    rw [hbooks.tickets] at hu
    exact hspent.gone u hu
  | entered _ _ hbooks _ _ =>
    rw [hbooks.tickets] at hu
    rcases List.mem_append.mp hu with hold | hnew
    · exact hspent.gone u hold
    · rw [List.mem_singleton.mp hnew]
      exact Nat.ne_of_gt hspent.counted
  | settled _ hbooks _ _ | lost _ _ hbooks _ _ | abandoned _ hbooks _ _ =>
    rw [hbooks.tickets] at hu
    exact hspent.gone u (State.mem_tickets_spend.mp hu).1

/-- No run brings a spent ticket back. -/
theorem Spent.after {id : Nat} (hspent : Spent s id) (hformed : Formed s) (moves : List Move) :
    Spent (Bridge.after s moves) id := by
  induction moves generalizing s with
  | nil => exact hspent
  | cons m rest ih => exact ih (hspent.step hformed m) (hformed.step m)

/-! ## Handles that were not used yet -/

/-- A ticket waits for the handle of an engine. -/
def Awaited (s : State) (e : EngineId) (h : Handle) : Prop :=
  ∃ t ∈ s.tickets, t.engine = e ∧ t.handle = h

/-- After these events no callback was called, and no listener runs, for a handle that was not
drawn yet or whose ticket still waits. -/
def Clean (s : State) (past : List Event) : Prop :=
  ∀ e h, (s.Drawn e h → Awaited s e h) → calls e h past = [] ∧ listeners s e h = []

/-- A handle that was drawn before a move and has a ticket after it had that ticket before. -/
theorem Registered.awaited (hregistered : Registered s) (hformed : Formed s) {m : Move}
    (hfew : (Bridge.step s m).state.ticketCount < UInt64.size) {u : Ticket}
    (hu : u ∈ (Bridge.step s m).state.tickets) (hdrawn : s.Drawn u.engine u.handle) :
    u ∈ s.tickets := by
  cases (answers_step hformed.seated m).booked with
  | kept hbooks _ _ => rwa [hbooks.tickets] at hu
  | entered _ _ hbooks _ _ =>
    rw [hbooks.ticketCount, State.ticketCount_register] at hfew
    rw [hbooks.tickets] at hu
    rcases List.mem_append.mp hu with hold | hnew
    · exact hold
    · obtain rfl := List.mem_singleton.mp hnew
      exact absurd rfl (hregistered.ne_nextHandle hfew hdrawn)
  | settled _ hbooks _ _ | lost _ _ hbooks _ _ | abandoned _ hbooks _ _ =>
    rw [hbooks.tickets] at hu
    exact (State.mem_tickets_spend.mp hu).1

/-- One move keeps unused handles unused. -/
theorem Clean.step {past : List Event} (hclean : Clean s past) (hformed : Formed s)
    (hregistered : Registered s) {m : Move}
    (hfew : (Bridge.step s m).state.ticketCount < UInt64.size) :
    Clean (Bridge.step s m).state (past ++ (Bridge.step s m).events) := by
  intro e h hunused
  have hbefore (hdrawn : s.Drawn e h) :
      ∃ u ∈ (Bridge.step s m).state.tickets, u ∈ s.tickets ∧ u.engine = e ∧ u.handle = h := by
    obtain ⟨u, hu, rfl, rfl⟩ := hunused (hregistered.drawn_step hformed hfew hdrawn)
    exact ⟨u, hu, hregistered.awaited hformed hfew hu hdrawn, rfl, rfl⟩
  obtain ⟨hcalls, hlisteners⟩ := hclean e h fun hdrawn => by
    obtain ⟨u, -, hold, huser⟩ := hbefore hdrawn
    exact ⟨u, hold, huser⟩
  have hquiet : Quiet e h s (Bridge.step s m) := by
    rcases (answers_step hformed.seated m).dealt e h with
      hquiet | ⟨t, hredeems, rfl, rfl⟩ | ⟨_, lines, outer, -, hframes, -⟩
    · exact hquiet
    · -- a ticket that is redeemed cannot wait afterwards
      obtain ⟨u, hu, hold, hengine, hhandle⟩ := hbefore (hregistered.drawn hredeems.mem)
      obtain rfl := hregistered.apart u hold t hredeems.mem hengine hhandle
      exact absurd rfl ((hredeems.spent hformed).gone u hu)
    · simp [listeners, hframes, Frame.listens?] at hlisteners
  exact ⟨by rw [calls_append, hcalls, hquiet.1]; rfl, hquiet.2.trans hlisteners⟩

/-- Every run keeps unused handles unused. -/
theorem Clean.after {past : List Event} (hclean : Clean s past) (hformed : Formed s)
    (hregistered : Registered s) (moves : List Move)
    (hfew : (Bridge.after s moves).ticketCount < UInt64.size) :
    Clean (Bridge.after s moves) (past ++ trace s moves) := by
  induction moves generalizing s past with
  | nil =>
    rw [trace_nil, List.append_nil]
    exact hclean
  | cons m rest ih =>
    have hfewStep := (hformed.step m).few hfew
    rw [trace_cons, ← List.append_assoc]
    exact ih (hclean.step hformed hregistered hfewStep) (hformed.step m)
      (hregistered.step hformed hfewStep) hfew

/-- While its ticket waits, nothing was done for a registration. -/
theorem unused_of_mem (moves : List Move) (ht : t ∈ (after {} moves).tickets)
    (hfew : (after {} moves).ticketCount < UInt64.size) :
    calls t.engine t.handle (trace {} moves) = [] ∧
      listeners (after {} moves) t.engine t.handle = [] := by
  have hempty : Clean {} [] := fun e h _ => ⟨rfl, rfl⟩
  exact hempty.after formed_empty registered_empty moves hfew t.engine t.handle
    fun _ => ⟨t, ht, rfl, rfl⟩

end ScriptFiles.Bridge
