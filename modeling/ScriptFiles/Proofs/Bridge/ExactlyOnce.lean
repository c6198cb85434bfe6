import ScriptFiles.Proofs.Bridge.Reservations

/-!
# Exactly-once delivery

The last callback of an accepted call is applied when its completion hands over a result, and
never otherwise. Three stretches of a run are looked at one after the other: before the call
nobody knows its handle, until the completion its ticket waits, and afterwards at most the
listener of a delivery of lines is left, which ends with the last callback.
-/

namespace ScriptFiles.Bridge

/-- A run completes the native request of a ticket, after waiting for it. -/
def Fires (s : State) (id : Nat) (moves waiting : List Move) (result : NativeResult) : Prop :=
  ∃ rest, moves = waiting ++ .fire id result :: rest ∧
    (step (after s waiting) (.fire id result)).prompt ≠ .refused

/-- A completion that finds an engine alive, and an object as the global when it delivers lines. -/
def Answerable (s : State) (e : EngineId) (operation : Operation) (result : NativeResult) : Prop :=
  s.isAlive e = true ∧
    (operation = .readFromFile → result.error? = none → (s.global e).isObject = true)

/-- The last callback was applied exactly once among the calls of it, or it was not applied yet
because the delivery of lines waits for a listener. -/
def CalledBack (s : State) (e : EngineId) (h : Handle) (operation : Operation)
    (last : FunctionRef) (calls : List Event) : Prop :=
  (∃ arguments, calls = [.applied (lastInvocation e h operation last arguments)]) ∨
    (operation = .readFromFile ∧ calls = [] ∧ ∃ lines, ⟨e, .listening h lines⟩ ∈ s.frames)

variable {s : State}

/-! ## From the call to its completion -/

variable {t : Ticket} {values : List Value} {operation : Operation}

/-- Until its completion a reservation is left alone. -/
theorem Reserved.unfired_run (hreserved : Reserved s t values) (hformed : Formed s)
    (hregistered : Registered s) (hpurpose : t.purpose = .operation operation)
    (hlisteners : listeners s t.engine t.handle = []) (moves : List Move)
    (hfew : (Bridge.after s moves).ticketCount < UInt64.size)
    (hunfired : ∀ waiting result, ¬Fires s t.id moves waiting result) :
    lastCalls t.engine t.handle (trace s moves) = [] := by
  refine lastCalls_of_calls (quiet_run hformed hlisteners moves
    fun first m rest u heq hredeems hengine hhandle => ?_).1
  rw [heq] at hfew
  have hfirst := hreserved.after hformed hregistered first (hformed.few_append hfew)
  obtain rfl := hfirst.alone u hredeems.mem hengine hhandle
  have hprompt := hredeems.prompt_ne
  cases hredeems with
  | fire _ _ _ => exact hunfired first _ ⟨rest, heq, hprompt⟩
  | resume _ hembedder =>
    rw [hpurpose] at hembedder
    contradiction

/-- A completion that is not refused redeems the ticket that was reserved under its number. -/
theorem Reserved.redeems (hreserved : Reserved s t values) {result : NativeResult}
    (hprompt : (Bridge.step s (.fire t.id result)).prompt ≠ .refused) :
    Redeems s (.fire t.id result) t := by
  obtain ⟨u, hid, hredeems⟩ := exists_redeems hprompt
  obtain rfl := hreserved.numbered u hredeems.mem hid
  exact hredeems

/-! ## The completion and what follows it -/

/-- Once its ticket is spent and no listener is left, a reservation is left alone for good. -/
theorem Reserved.spent_run (hreserved : Reserved s t values) (hformed : Formed s)
    (hregistered : Registered s) (hspent : Spent s t.id)
    (hlisteners : listeners s t.engine t.handle = []) (moves : List Move)
    (hfew : (Bridge.after s moves).ticketCount < UInt64.size) :
    calls t.engine t.handle (trace s moves) = [] := by
  refine (quiet_run hformed hlisteners moves fun first m rest u heq hredeems hengine hhandle =>
    ?_).1
  rw [heq] at hfew
  have hfirst := hreserved.after hformed hregistered first (hformed.few_append hfew)
  obtain rfl := hfirst.alone u hredeems.mem hengine hhandle
  exact (hspent.after hformed first).gone u hredeems.mem rfl

/-- A delivery of lines that waits for its listener ends with the last callback, or still waits. -/
theorem Reserved.listening_run (hreserved : Reserved s t values) (hformed : Formed s)
    (hregistered : Registered s) (hspent : Spent s t.id) {lines : LineDelivery}
    (hlisteners : listeners s t.engine t.handle = [lines]) (moves : List Move)
    (hfew : (Bridge.after s moves).ticketCount < UInt64.size) :
    (∃ arguments, lastCalls t.engine t.handle (trace s moves) =
        [.applied (lastInvocation t.engine t.handle .readFromFile lines.done arguments)]) ∨
      (lastCalls t.engine t.handle (trace s moves) = [] ∧
        ∃ lines', listeners (Bridge.after s moves) t.engine t.handle = [lines']) := by
  induction moves generalizing s lines with
  | nil => exact Or.inr ⟨rfl, lines, hlisteners⟩
  | cons m rest ih =>
    have hfewStep := (hformed.step m).few hfew
    have hreservedStep := hreserved.step hformed hregistered hfewStep
    have hregisteredStep := hregistered.step hformed hfewStep
    have hspentStep := hspent.step hformed m
    rw [trace_cons, lastCalls_append]
    rcases (answers_step hformed.seated m).dealt t.engine t.handle with
      hquiet | ⟨u, hredeems, hengine, hhandle⟩ | ⟨_, heard, outer, -, hframes, hturn⟩
    · rw [lastCalls_of_calls hquiet.1, List.nil_append]
      exact ih hreservedStep (hformed.step m) hregisteredStep hspentStep
        (hquiet.2.trans hlisteners) hfew
    · obtain rfl := hreserved.alone u hredeems.mem hengine hhandle
      exact absurd rfl (hspent.gone u hredeems.mem)
    · -- the listener that returned is the only one of this registration
      have hheard := listeners_of_listening (s := { s with frames := outer }) hframes
      rw [hlisteners, List.cons.injEq] at hheard
      obtain ⟨rfl, houter⟩ := hheard
      rcases hturn.handed with ⟨arguments, hcalls, hafter⟩ | ⟨-, hcalls, lines', hdone, hafter⟩
      · have hrest := hreservedStep.spent_run (hformed.step m) hregisteredStep hspentStep
          ((listeners_of_concluding hafter).trans houter.symm) rest hfew
        rw [hcalls, lastCalls_of_calls hrest]
        exact Or.inl ⟨arguments, rfl⟩
      · have hwaits := listeners_of_listening hafter
        rw [← houter] at hwaits
        rw [hcalls, List.nil_append, ← hdone]
        exact ih hreservedStep (hformed.step m) hregisteredStep hspentStep hwaits hfew

/-- The completion of a call either cannot be answered and leaves the callbacks alone, or hands
the result to them. -/
theorem Reserved.completed {callbacks : Callbacks} {result : NativeResult}
    (hreserved : Reserved s t (callbacks.functions.map Value.function))
    (hlength : callbacks.functions.length = operation.callbackCount)
    (hpurpose : t.purpose = .operation operation)
    (hredeems : Redeems s (.fire t.id result) t) :
    (¬Answerable s t.engine operation result ∧
        Quiet t.engine t.handle s (Bridge.step s (.fire t.id result))) ∨
      (Answerable s t.engine operation result ∧
        ∃ heap, Delivery { s.settle t with heap := heap } t.engine t.handle operation
          callbacks.last (Bridge.step s (.fire t.id result))) := by
  have hlistener := Callbacks.isSome_listener_iff hlength
  cases halive : s.isAlive t.engine with
  | false =>
    rw [hredeems.step_gone halive]
    exact Or.inl ⟨fun hanswerable => by simp [Answerable, halive] at hanswerable, rfl, rfl⟩
  | true =>
    rw [hredeems.step_complete hpurpose halive (hreserved.stored hredeems.mem) hlength]
    rcases complete_cases (s.settle t) t.engine t.handle operation callbacks result
      hlistener.mp with ⟨hsome, hok, hglobal, hturn⟩ | ⟨hcontext, heap, hturn⟩
    · rw [State.global_settle] at hglobal
      refine Or.inl ⟨fun hanswerable => ?_, ?_⟩
      · have hobject := hanswerable.2 (hlistener.mp hsome) hok
        rw [hglobal] at hobject
        contradiction
      · rw [hturn]
        exact (quiet_reportFatal (s.settle t) t.engine contextError).of_frames rfl
    · refine Or.inr ⟨⟨halive, fun hoperation hok => ?_⟩, heap, hturn⟩
      rw [← State.global_settle s t]
      exact hcontext (hlistener.mpr hoperation) hok

/-- After the completion of a call its last callback is applied once, or only its listener is left
to wait for, when the result can be handed over, and never otherwise. -/
theorem Reserved.completed_run {callbacks : Callbacks} {result : NativeResult}
    (hreserved : Reserved s t (callbacks.functions.map Value.function)) (hformed : Formed s)
    (hregistered : Registered s) (hlength : callbacks.functions.length = operation.callbackCount)
    (hpurpose : t.purpose = .operation operation) (hredeems : Redeems s (.fire t.id result) t)
    (hlisteners : listeners s t.engine t.handle = []) (rest : List Move)
    (hfew : (Bridge.after s (.fire t.id result :: rest)).ticketCount < UInt64.size) :
    let calls := lastCalls t.engine t.handle (trace s (.fire t.id result :: rest))
    (Answerable s t.engine operation result →
        CalledBack (Bridge.after s (.fire t.id result :: rest)) t.engine t.handle operation
          callbacks.last calls) ∧
      (¬Answerable s t.engine operation result → calls = []) := by
  have hformedStep := hformed.step (.fire t.id result)
  have hfewStep := hformedStep.few hfew
  have hreservedStep := hreserved.step hformed hregistered hfewStep
  have hregisteredStep := hregistered.step hformed hfewStep
  have hspent := hredeems.spent hformed
  simp only [CalledBack, trace_cons, lastCalls_append]
  rcases hreserved.completed hlength hpurpose hredeems with
    ⟨hnot, hquiet⟩ | ⟨hanswerable, heap, hturn⟩
  · refine ⟨fun h => absurd h hnot, fun _ => ?_⟩
    have hrest := hreservedStep.spent_run hformedStep hregisteredStep hspent
      (hquiet.2.trans hlisteners) rest hfew
    rw [lastCalls_of_calls hquiet.1, lastCalls_of_calls hrest]
    rfl
  · refine ⟨fun _ => ?_, fun h => absurd hanswerable h⟩
    have hbefore : listeners { s.settle t with heap := heap } t.engine t.handle = [] := hlisteners
    rcases hturn.handed with
      ⟨arguments, hcalls, hafter⟩ | ⟨hoperation, hcalls, lines, hdone, hafter⟩
    · have hrest := hreservedStep.spent_run hformedStep hregisteredStep hspent
        ((listeners_of_concluding hafter).trans hbefore) rest hfew
      rw [hcalls, lastCalls_of_calls hrest]
      exact Or.inl ⟨arguments, rfl⟩
    · have hone := listeners_of_listening hafter
      rw [hbefore] at hone
      rw [hcalls, List.nil_append, hoperation, ← hdone]
      rcases hreservedStep.listening_run hformedStep hregisteredStep hspent hone rest hfew with
        hcalled | ⟨hnone, lines', hwaits⟩
      · exact Or.inl hcalled
      · refine Or.inr ⟨rfl, hnone, lines', ?_⟩
        rw [after_cons]
        exact mem_frames_of_listeners (by rw [hwaits]; exact List.mem_singleton_self lines')

/-! ## Whole runs -/

/-- In every turn of a run the accepted calls are the native requests. -/
theorem Formed.accepted_run (hformed : Formed s) (moves : List Move) :
    ∀ turn ∈ run s moves,
      turn.events.filterMap Event.accepted? = turn.events.filterMap Event.request? := by
  induction moves generalizing s with
  | nil => exact fun turn hturn => absurd hturn List.not_mem_nil
  | cons m rest ih =>
    intro turn hturn
    rcases List.mem_cons.mp hturn with rfl | hrest
    · exact (answers_step hformed.seated m).accepted_eq
    · exact ih (hformed.step m) turn hrest

/-- An accepted call is answered by its last callback exactly once or not at all. -/
theorem Issued.called_back {before : List Move} {m : Move} {invocation : Invocation}
    {callbacks : Callbacks}
    (hissued : Issued (step (after {} before) m) invocation operation t callbacks)
    (later : List Move) (hfew : (after {} (before ++ m :: later)).ticketCount < UInt64.size) :
    let called := (step (after {} before) m).state
    let calls := lastCalls t.engine t.handle (trace {} (before ++ m :: later))
    ((∀ waiting result, ¬Fires called t.id later waiting result) → calls = []) ∧
      ∀ waiting result, Fires called t.id later waiting result →
        lastCalls t.engine t.handle (trace {} (before ++ m :: waiting)) = [] ∧
        (Answerable (after called waiting) t.engine operation result →
          CalledBack (after {} (before ++ m :: later)) t.engine t.handle operation callbacks.last
            calls) ∧
        (¬Answerable (after called waiting) t.engine operation result → calls = []) := by
  have hformed := (formed_empty.after before).step m
  have hregistered := (registered_after before (formed_empty.few_append hfew)).step
    (formed_empty.after before) (m := m)
  have hafter (rest : List Move) :
      after {} (before ++ m :: rest) = after (step (after {} before) m).state rest := by
    rw [after_append, after_cons]
  have htrace (first rest : List Move) :
      trace {} (before ++ m :: (first ++ rest)) = trace {} (before ++ m :: first) ++
        trace (after (step (after {} before) m).state first) rest := by
    rw [← hafter, ← List.cons_append, ← List.append_assoc, trace_append]
  simp only [hafter] at hfew ⊢
  have hcalled := hregistered (hformed.few hfew)
  refine ⟨fun hunfired => ?_, ?_⟩
  · obtain ⟨hbefore, hlisteners⟩ := unused_of_mem (before ++ [m])
      (by rw [hafter]; exact hissued.waiting) (by rw [hafter]; exact hformed.few hfew)
    rw [hafter] at hlisteners
    have hlater := hissued.reserved.unfired_run hformed hcalled hissued.purpose hlisteners later
      hfew hunfired
    rw [← List.nil_append later, htrace, lastCalls_append, lastCalls_of_calls hbefore]
    exact hlater
  · rintro waiting result ⟨rest, rfl, hprompt⟩
    have hfewWaiting := hformed.few_append hfew
    have hreserved := hissued.reserved.after hformed hcalled waiting hfewWaiting
    have hredeems := hreserved.redeems hprompt
    obtain ⟨hbefore, hlisteners⟩ := unused_of_mem (before ++ m :: waiting)
      (by rw [hafter]; exact hredeems.mem) (by rw [hafter]; exact hfewWaiting)
    rw [hafter] at hlisteners
    rw [after_append] at hfew
    have hcompleted := hreserved.completed_run (hformed.after waiting)
      (hcalled.after hformed waiting hfewWaiting) hissued.length hissued.purpose hredeems hlisteners
      rest hfew
    rw [htrace, lastCalls_append, lastCalls_of_calls hbefore, List.nil_append, after_append]
    exact ⟨rfl, hcompleted⟩

/-- Exactly-once delivery and conservation of pending operations. In every state of a run with
fewer registrations than handles, a living engine counts as pending the native requests and the
values stored by the host whose completion was not started, and the native requests are the
accepted calls. The last argument of an accepted call is applied only after its completion fires,
exactly once when the completion finds the engine alive and, for a delivery of lines, an object as
the global, and never otherwise. -/
theorem completions_exactly_once (moves : List Move)
    (hfew : (after {} moves).ticketCount < UInt64.size) :
    (∀ e, (after {} moves).isAlive e = true →
      (after {} moves).pending e = (unstarted (openings e {} moves) (starts {} moves)).length) ∧
    (∀ turn ∈ run {} moves,
      turn.events.filterMap Event.accepted? = turn.events.filterMap Event.request?) ∧
    ∀ before m later, moves = before ++ m :: later →
      ∀ invocation operation, .applied invocation ∈ (step (after {} before) m).events →
        invocation.accepted? = some operation →
        ∃ id h last,
          .requested invocation.engine id h (operation.request invocation.arguments) ∈
            (step (after {} before) m).events ∧
          invocation.arguments.getLast? = some (.function last) ∧
          let called := (step (after {} before) m).state
          let calls := lastCalls invocation.engine h (trace {} moves)
          ((∀ waiting result, ¬Fires called id later waiting result) → calls = []) ∧
          ∀ waiting result, Fires called id later waiting result →
            lastCalls invocation.engine h (trace {} (before ++ m :: waiting)) = [] ∧
            (Answerable (after called waiting) invocation.engine operation result →
              CalledBack (after {} moves) invocation.engine h operation last calls) ∧
            (¬Answerable (after called waiting) invocation.engine operation result →
              calls = []) := by
  refine ⟨fun e halive => ?_, formed_empty.accepted_run moves, ?_⟩
  · have hledger := (ledger_empty e).after formed_empty registered_empty moves hfew
    rw [List.nil_append, List.nil_append] at hledger
    exact hledger.pending fun hdead => by simp [hdead.2] at halive
  · rintro before m later rfl invocation operation hevent haccepted
    have hbefore := formed_empty.few_append hfew
    obtain ⟨t, callbacks, hissued⟩ := (registered_after before hbefore).issued
      (formed_empty.after before) (few_step hfew) hevent haccepted
    have hcalled := hissued.called_back later hfew
    rw [hissued.engine] at hcalled
    exact ⟨t.id, t.handle, callbacks.last, hissued.requested, hissued.last, hcalled⟩

/-- The call to read by lines is completed with a single line, which its listener takes. -/
def readOneLine : List Move :=
  callToRead ++ [.fire 0 (.ok (.content [104, 105])), .return_ (.value .undefined)]

/-- The last callback of a call to read by lines is applied once when the lines are delivered. -/
theorem completions_exactly_once_readOneLine :
    (after {} readOneLine).ticketCount < UInt64.size ∧
      CalledBack (after {} readOneLine) 0 ⟨1⟩ .readFromFile ⟨2, "done", .host⟩
        (lastCalls 0 ⟨1⟩ (trace {} readOneLine)) := by
  have hfew : (after {} readOneLine).ticketCount < UInt64.size := by decide
  obtain ⟨-, -, hcalls⟩ := completions_exactly_once readOneLine hfew
  obtain ⟨id, h, last, hrequested, hlast, -, hfired⟩ :=
    hcalls [.createEngine] _ _ rfl
      ⟨0, ⟨0, "readFromFile", .entry "fs" .readFromFile⟩, .undefined,
        [.string "notes.txt", .function ⟨1, "listener", .host⟩, .function ⟨2, "done", .host⟩],
        .host⟩
      .readFromFile (by decide) (by decide)
  obtain ⟨rfl, rfl⟩ : id = 0 ∧ h = ⟨1⟩ := by
    revert hrequested
    change Event.requested 0 id h _ ∈ [Event.applied _, _, Event.requested 0 0 ⟨1⟩ _] → _
    simp [issuedEvent, sayOperation]
  obtain rfl : ⟨2, "done", .host⟩ = last := by simpa using hlast
  obtain ⟨-, hanswered, -⟩ :=
    hfired [.acknowledge] (.ok (.content [104, 105])) ⟨_, rfl, by decide⟩
  exact ⟨hfew, hanswered ⟨by decide, fun _ _ => by decide⟩⟩

end ScriptFiles.Bridge
