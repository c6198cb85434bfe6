import ScriptFiles.Proofs.Bridge.Shifts

/-!
# Tickets and registrations

Every move does one of few things to the tickets and the registries (`Booked`): nothing,
register values and hand out a ticket, redeem a ticket together with its registration, or use a
ticket up without touching a registration. So every ticket that waits to be redeemed has its own
registration, with the values that its purpose needs, as long as the counters of handles do not
run over (`Registered`).
-/

namespace ScriptFiles.Bridge

/-! ## Changes -/

/-- The same tickets wait and the same values are registered. -/
structure SameBooks (s s' : State) : Prop where
  tickets : s'.tickets = s.tickets
  ticketCount : s'.ticketCount = s.ticketCount
  registry : ∀ e, s'.registry e = s.registry e

/-- What a state without changes to engines and tickets holds is the same. -/
theorem SameBooks.of_eq {s s' : State} (hengines : s'.engines = s.engines)
    (htickets : s'.tickets = s.tickets) (hcount : s'.ticketCount = s.ticketCount) :
    SameBooks s s' where
  tickets := htickets
  ticketCount := hcount
  registry e := by rw [State.registry, State.engine?, hengines]; rfl

/-- Books that are the same twice are the same. -/
theorem SameBooks.trans {s s' s'' : State} (hfirst : SameBooks s s') (hsecond : SameBooks s' s'') :
    SameBooks s s'' where
  tickets := hsecond.tickets.trans hfirst.tickets
  ticketCount := hsecond.ticketCount.trans hfirst.ticketCount
  registry e := (hsecond.registry e).trans (hfirst.registry e)

/-- The values that a registration needs for its purpose: for an operation functions, as many as
it has callbacks. -/
def Fits : Purpose → List Value → Prop
  | .embedder, _ => True
  | .operation operation, values =>
    ∃ functions : List FunctionRef,
      functions.length = operation.callbackCount ∧ values = functions.map Value.function

/-- The ticket of a native request on an engine. -/
def Event.ticketOn? (e : EngineId) : Event → Option Nat
  | .requested e' id _ _ => if e' = e then some id else none
  | _ => none

/-- The ticket of values that the host stored on an engine. -/
def storedOn? (e : EngineId) : Move → Prompt → Option Nat
  | .store e' _, .stored id _ => if e' = e then some id else none
  | _, _ => none

/-- The tickets that a turn opens on an engine, by native requests and by values of the host. -/
def opened (e : EngineId) (m : Move) (turn : Turn) : List Nat :=
  turn.events.filterMap (Event.ticketOn? e) ++ (storedOn? e m turn.prompt).toList

/-- The ticket whose completion a turn starts. -/
def started? (m : Move) (turn : Turn) : Option Nat :=
  match m with
  | .fire id _ | .resume id => if turn.prompt = .refused then none else some id
  | _ => none

/-- What a move does to the books, and what its turn shows of that: nothing, register values,
redeem a ticket with its registration, redeem one whose engine or registration is gone, or give a
ticket up. -/
inductive Booked (s : State) (m : Move) (turn : Turn) : Prop
  | kept (hbooks : SameBooks s turn.state) (hopened : ∀ e, opened e m turn = [])
      (hstarted : started? m turn = none)
  | entered {e : EngineId} {values : List Value} {purpose : Purpose}
      (halive : s.isAlive e = true) (hfits : Fits purpose values)
      (hbooks : SameBooks (s.register e values purpose).2 turn.state)
      (hopened : ∀ e', opened e' m turn = if e = e' then [s.ticketCount] else [])
      (hstarted : started? m turn = none)
  | settled {t : Ticket} (hredeems : Redeems s m t)
      (hbooks : SameBooks (s.settle t) turn.state) (hopened : ∀ e, opened e m turn = [])
      (hstarted : started? m turn = some t.id)
  | lost {t : Ticket} (hredeems : Redeems s m t)
      (hlost : s.isAlive t.engine = false ∨ (s.registry t.engine).get? t.handle = none)
      (hbooks : SameBooks (s.spend t) turn.state) (hopened : ∀ e, opened e m turn = [])
      (hstarted : started? m turn = some t.id)
  | abandoned {t : Ticket} (hticket : t ∈ s.tickets) (hbooks : SameBooks (s.spend t) turn.state)
      (hopened : ∀ e, opened e m turn = []) (hstarted : started? m turn = none)

/-- Reporting a fatal error leaves the books alone. -/
theorem sameBooks_reportFatal (s : State) (e : EngineId) (error : ScriptError) :
    SameBooks s (s.reportFatal e error).state := by
  rcases state_reportFatal s e error with hstate | hstate <;> rw [hstate]
  · exact .of_eq rfl rfl rfl
  · exact .of_eq rfl rfl rfl

/-- A delivery leaves the books alone. -/
theorem Delivery.sameBooks {s : State} {e : EngineId} {h : Handle} {operation : Operation}
    {last : FunctionRef} {turn : Turn} (hturn : Delivery s e h operation last turn) :
    SameBooks s turn.state :=
  .of_eq hturn.engines_eq.1 hturn.engines_eq.2.1 hturn.engines_eq.2.2

/-- A turn without requests opens no ticket, unless the host stores values. -/
theorem opened_eq_nil {m : Move} {turn : Turn} (e : EngineId)
    (hevents : ∀ event ∈ turn.events, event.ticketOn? e = none)
    (hstored : storedOn? e m turn.prompt = none) : opened e m turn = [] := by
  rw [opened, List.filterMap_eq_nil_iff.mpr hevents, hstored]
  rfl

/-- A delivery makes no request. -/
theorem Delivery.ticketOn?_eq {s : State} {e : EngineId} {h : Handle} {operation : Operation}
    {last : FunctionRef} {turn : Turn} (hturn : Delivery s e h operation last turn)
    (e' : EngineId) {event : Event} (hevent : event ∈ turn.events) :
    event.ticketOn? e' = none := by
  rcases hturn.events hevent with ⟨_, rfl, -⟩ | ⟨_, _, _, rfl⟩ <;> rfl

/-- Reporting a fatal error makes no request. -/
theorem ticketOn?_reportFatal {s : State} {e : EngineId} {error : ScriptError} (e' : EngineId)
    {event : Event} (hevent : event ∈ (s.reportFatal e error).events) :
    event.ticketOn? e' = none := by
  rcases events_reportFatal hevent with rfl | rfl <;> rfl

/-- A redeeming move that is not refused starts the completion of its ticket. -/
theorem Redeems.started? {s : State} {m : Move} {t : Ticket} {turn : Turn}
    (hredeems : Redeems s m t) (hprompt : turn.prompt ≠ .refused) :
    started? m turn = some t.id := by
  cases hredeems with
  | fire _ _ _ | resume _ _ => exact if_neg hprompt

/-- A redeeming move stores nothing. -/
theorem Redeems.storedOn? {s : State} {m : Move} {t : Ticket} (hredeems : Redeems s m t)
    (e : EngineId) (prompt : Prompt) : storedOn? e m prompt = none := by
  cases hredeems with
  | fire _ _ _ | resume _ _ => rfl

/-- Every move is booked. -/
theorem Answers.booked {s : State} {m : Move} {turn : Turn} (hanswers : Answers s m turn) :
    Booked s m turn := by
  have hself {s' : State} : SameBooks s' s' := .of_eq rfl rfl rfl
  cases hanswers with
  | refused m =>
    refine .kept hself (fun e => ?_) ?_
    · cases m <;> rfl
    · cases m <;> rfl
  | hosted hhosted huntouched hevents =>
    refine .kept ⟨huntouched.tickets, huntouched.ticketCount, huntouched.registry⟩ (fun e => ?_) ?_
    · refine opened_eq_nil e (fun event hevent => ?_) ?_
      · rcases hevents with hnone | ⟨name, hone⟩
        · rw [hnone] at hevent
          exact absurd hevent List.not_mem_nil
        · rw [hone] at hevent
          rw [List.mem_singleton.mp hevent]
          rfl
      · cases m <;> first | rfl | contradiction
    · cases m <;> first | rfl | contradiction
  | turnedAway _ _ | called _ _ | returned _ | acknowledged _ | handedOver _
  | reported _ => exact .kept (.of_eq rfl rfl rfl) (fun _ => rfl) rfl
  | @issued e _ _ arguments _ operation halive _ haccepted =>
    obtain ⟨callbacks, hvalues, hlength, -⟩ := Operation.callbacks_of_accepted haccepted
    have hfits : Fits (.operation operation) (operation.callbacks arguments) :=
      ⟨callbacks.functions, hlength, hvalues⟩
    refine .entered halive hfits (.of_eq rfl rfl rfl) (fun e' => ?_) rfl
    by_cases heq : e = e' <;>
      simp [opened, storedOn?, List.filterMap_cons, Event.ticketOn?, issuedEvent, sayOperation, heq]
  | @stored e values halive =>
    have hfits : Fits .embedder values := trivial
    refine .entered halive hfits hself (fun e' => ?_) rfl
    by_cases heq : e = e' <;> simp [opened, storedOn?, heq]
  | gone hredeems hdead =>
    exact .lost hredeems (Or.inl hdead) hself
      (fun e => opened_eq_nil e (by simp [goneEvent, sayEngine, Event.ticketOn?])
        (hredeems.storedOn? e _)) (hredeems.started? nofun)
  | unstored hredeems _ hget =>
    exact .lost hredeems (Or.inr hget) hself
      (fun e => opened_eq_nil e (by simp [unstoredEvent, sayEngine, Event.ticketOn?])
        (hredeems.storedOn? e _)) (hredeems.started? nofun)
  | mismatched hredeems _ _ _ _ | contextless hredeems _ _ _ _ _ _ =>
    exact .settled hredeems (sameBooks_reportFatal _ _ _)
      (fun e => opened_eq_nil e (fun _ => ticketOn?_reportFatal e) (hredeems.storedOn? e _))
      (hredeems.started? prompt_reportFatal)
  | delivered hredeems _ _ _ _ hturn =>
    refine .settled hredeems (SameBooks.trans ?_ hturn.sameBooks)
      (fun e => opened_eq_nil e (fun _ => hturn.ticketOn?_eq e) (hredeems.storedOn? e _))
      (hredeems.started? hturn.prompt_ne)
    exact .of_eq rfl rfl rfl
  | resumed hredeems _ _ =>
    exact .settled hredeems (.of_eq rfl rfl rfl) (fun _ => rfl) (hredeems.started? nofun)
  | abandoned hticket =>
    exact .abandoned (List.mem_of_find?_eq_some hticket) hself (fun _ => rfl) rfl
  | heard _ hturn =>
    refine .kept (SameBooks.trans ?_ hturn.sameBooks)
      (fun e => opened_eq_nil e (fun _ => hturn.ticketOn?_eq e) rfl) rfl
    exact .of_eq rfl rfl rfl
  | @concluded _ _ operation last outer outcome _ =>
    refine .kept ?_ (fun e => opened_eq_nil e (fun event hevent => ?_) rfl) rfl
    · rw [state_conclude]
      exact .of_eq rfl rfl rfl
    · obtain ⟨_, _, _, rfl⟩ := events_conclude hevent
      rfl
  | @failed e _ outer error _ =>
    have houter : SameBooks s { s with frames := outer } := .of_eq rfl rfl rfl
    exact .kept (houter.trans (sameBooks_reportFatal _ e error))
      (fun e => opened_eq_nil e (fun _ => ticketOn?_reportFatal e) rfl) rfl

/-! ## Engines and tickets that exist -/

/-- Activities and tickets belong to engines that exist, and no two tickets share a number. -/
structure Formed (s : State) : Prop where
  seated : Seated s.frames
  frames : ∀ frame ∈ s.frames, frame.engine < s.engines.length
  tickets : ∀ t ∈ s.tickets, t.engine < s.engines.length ∧ t.id < s.ticketCount
  distinct : ∀ t ∈ s.tickets, ∀ u ∈ s.tickets, t.id = u.id → t = u

/-- A living engine exists. -/
theorem Formed.lt_of_isAlive {s : State} (hformed : Formed s) {e : EngineId}
    (halive : s.isAlive e = true) : e < s.engines.length := by
  rw [State.isAlive, Bool.or_eq_true] at halive
  rcases halive with hheld | hbusy
  · exact State.lt_of_isHeld hheld
  · obtain ⟨frame, hframe, hengine⟩ := List.any_eq_true.mp hbusy
    obtain rfl : frame.engine = e := by simpa using hengine
    exact hformed.frames frame hframe

/-- One move keeps engines and tickets formed. -/
theorem Formed.step {s : State} (hformed : Formed s) (m : Move) : Formed (step s m).state := by
  have hanswers := answers_step hformed.seated m
  have hshift := hanswers.shift
  have hretains := hanswers.retains
  refine ⟨hshift.seated hformed.seated, fun frame hframe => ?_, ?_, ?_⟩
  · exact Nat.lt_of_lt_of_le (hformed.lt_of_isAlive (hshift.alive hframe)) hretains.engines
  · intro t ht
    have hold (hmem : t ∈ s.tickets)
        (hcount : s.ticketCount ≤ (Bridge.step s m).state.ticketCount) :
        t.engine < (Bridge.step s m).state.engines.length ∧
          t.id < (Bridge.step s m).state.ticketCount :=
      ⟨Nat.lt_of_lt_of_le (hformed.tickets t hmem).1 hretains.engines,
        Nat.lt_of_lt_of_le (hformed.tickets t hmem).2 hcount⟩
    cases hanswers.booked with
    | kept hbooks _ _ =>
      rw [hbooks.tickets] at ht
      exact hold ht (Nat.le_of_eq hbooks.ticketCount.symm)
    | entered halive _ hbooks _ _ =>
      rw [hbooks.tickets, State.tickets_register] at ht
      have hcount := hbooks.ticketCount
      rw [State.ticketCount_register] at hcount
      rcases List.mem_append.mp ht with hmem | hnew
      · exact hold hmem (by omega)
      · obtain rfl := List.mem_singleton.mp hnew
        refine ⟨Nat.lt_of_lt_of_le (hformed.lt_of_isAlive halive) hretains.engines, ?_⟩
        change s.ticketCount < _
        omega
    | settled _ hbooks _ _ | lost _ _ hbooks _ _ | abandoned _ hbooks _ _ =>
      rw [hbooks.tickets] at ht
      exact hold (State.mem_tickets_spend.mp ht).1 (Nat.le_of_eq hbooks.ticketCount.symm)
  · cases hanswers.booked with
    | kept hbooks _ _ =>
      rw [hbooks.tickets]
      exact hformed.distinct
    | entered _ _ hbooks _ _ =>
      rw [hbooks.tickets, State.tickets_register]
      intro t ht u hu hid
      rcases List.mem_append.mp ht with ht | ht <;> rcases List.mem_append.mp hu with hu | hu
      · exact hformed.distinct t ht u hu hid
      · obtain rfl := List.mem_singleton.mp hu
        exact absurd hid (Nat.ne_of_lt (hformed.tickets t ht).2)
      · obtain rfl := List.mem_singleton.mp ht
        exact absurd hid.symm (Nat.ne_of_lt (hformed.tickets u hu).2)
      · rw [List.mem_singleton.mp ht, List.mem_singleton.mp hu]
    | settled _ hbooks _ _ | lost _ _ hbooks _ _ | abandoned _ hbooks _ _ =>
      rw [hbooks.tickets]
      intro t ht u hu
      exact hformed.distinct t (State.mem_tickets_spend.mp ht).1 u (State.mem_tickets_spend.mp hu).1

end ScriptFiles.Bridge
