import ScriptFiles.Proofs.Bridge.Answers

/-!
# Changes that a completion does not notice

A completion reads the registration of its ticket, the global, the hook and the objects, and it
enters at most one activity. Whatever else is changed about a state (which engines the host holds,
say, or what goes on outside the innermost activities) is as if it was changed afterwards.
Whether the engine of the completion lives is the only other thing that matters, and that is left
to whoever uses these lemmas.
-/

namespace ScriptFiles.Bridge

/-- Changes the state that a turn leads to. -/
def Turn.map (turn : Turn) (change : State → State) : Turn :=
  { turn with state := change turn.state }

@[simp] theorem Turn.state_map (turn : Turn) (change : State → State) :
    (turn.map change).state = change turn.state := rfl

@[simp] theorem Turn.events_map (turn : Turn) (change : State → State) :
    (turn.map change).events = turn.events := rfl

@[simp] theorem Turn.prompt_map (turn : Turn) (change : State → State) :
    (turn.map change).prompt = turn.prompt := rfl

/-- A change of states that leaves alone what completions read and write. -/
structure Unnoticed (change : State → State) : Prop where
  heap : ∀ s, (change s).heap = s.heap
  global : ∀ s e, (change s).global e = s.global e
  hook : ∀ s e, (change s).hook e = s.hook e
  registry : ∀ s e, (change s).registry e = s.registry e
  ticket? : ∀ s id, (change s).ticket? id = s.ticket? id
  setHeap : ∀ s heap, { change s with heap := heap } = change { s with heap := heap }
  enter : ∀ s e a, (change s).enter e a = change (s.enter e a)
  spend : ∀ s t, (change s).spend t = change (s.spend t)
  settle : ∀ s t, (change s).settle t = change (s.settle t)

namespace State

/-- The turn of a completion that finds its engine alive. -/
def completed (s : State) (t : Ticket) (operation : Operation) (result : NativeResult) : Turn :=
  match (s.registry t.engine).get? t.handle with
  | none => ⟨s.spend t, [unstoredEvent t.handle], .finished⟩
  | some values =>
    match operation.callbacks? t.handle values with
    | .error error => (s.settle t).reportFatal t.engine error
    | .ok callbacks => (s.settle t).complete t.engine t.handle operation callbacks result

/-- The turn of a resumption that finds its engine alive. -/
def resumed (s : State) (t : Ticket) : Turn :=
  match (s.registry t.engine).get? t.handle with
  | none => ⟨s.spend t, [unstoredEvent t.handle], .finished⟩
  | some values =>
    ⟨(s.settle t).enter t.engine (.delivering t.handle),
      [.delivered t.engine t.handle values], .deliver t.engine t.handle values⟩

/-- The turn of a completion or resumption that finds its engine dead. -/
def missed (s : State) (t : Ticket) : Turn :=
  ⟨s.spend t, [goneEvent t.handle], .finished⟩

end State

/-- A completion depends on whether its engine lives. -/
theorem fire_eq_completed (s : State) (t : Ticket) (operation : Operation)
    (result : NativeResult) :
    s.fire t operation result =
      if s.isAlive t.engine then s.completed t operation result else s.missed t :=
  fire_eq s t operation result

/-- A resumption depends on whether its engine lives. -/
theorem resume_eq_resumed (s : State) (t : Ticket) :
    s.resume t = if s.isAlive t.engine then s.resumed t else s.missed t :=
  resume_eq s t

namespace Unnoticed

variable {change : State → State} (hchange : Unnoticed change) (s : State) (e : EngineId)
  (h : Handle)

include hchange

/-- A fatal error is reported without noticing. -/
theorem reportFatal (error : ScriptError) :
    (change s).reportFatal e error = (s.reportFatal e error).map change := by
  rw [State.reportFatal, State.reportFatal, hchange.hook]
  cases s.hook e with
  | none => rfl
  | some hook => simp only [hchange.enter, Turn.map]

/-- The last callback is applied without noticing. -/
theorem applyLast (operation : Operation) (last : FunctionRef) (arguments : List Value)
    (hshort : arguments.length ≤ 1) :
    (change s).applyLast e h operation last arguments =
      (s.applyLast e h operation last arguments).map change := by
  rcases refusal_or_host last arguments hshort with ⟨exception, hrefusal⟩ | hhost
  · rw [applyLast_of_refusal (change s) e h hrefusal, applyLast_of_refusal s e h hrefusal]
    rfl
  · rw [applyLast_of_host (change s) e h arguments hhost, applyLast_of_host s e h arguments hhost,
      hchange.enter]
    rfl

/-- A delivery of lines ends at an exception without noticing. -/
theorem stopLines (lines : LineDelivery) (exception : ScriptException) :
    (change s).stopLines e h lines exception = (s.stopLines e h lines exception).map change := by
  have hlast := hchange.applyLast s e h .readFromFile lines.done [exception.value] (Nat.le_refl 1)
  rw [State.stopLines, hlast]
  rfl

/-- Lines are delivered without noticing. -/
theorem nextLine (lines : LineDelivery) :
    (change s).nextLine e h lines = (s.nextLine e h lines).map change := by
  cases hnext : lines.rest.next? with
  | none =>
    rw [nextLine_of_none (change s) e h hnext, nextLine_of_none s e h hnext,
      hchange.applyLast s e h .readFromFile lines.done [] (Nat.zero_le 1)]
    rfl
  | some next =>
    obtain ⟨line, rest⟩ := next
    rcases refusal_or_host lines.listener [lineValue line] (Nat.le_refl 1) with
      ⟨exception, hrefusal⟩ | hhost
    · rw [nextLine_of_refusal (change s) e h hnext hrefusal,
        nextLine_of_refusal s e h hnext hrefusal, hchange.stopLines]
      rfl
    · rw [nextLine_of_host (change s) e h hnext hhost, nextLine_of_host s e h hnext hhost,
        hchange.enter]
      rfl

/-- A result is handed over without noticing. -/
theorem complete (operation : Operation) (callbacks : Callbacks) (result : NativeResult) :
    (change s).complete e h operation callbacks result =
      (s.complete e h operation callbacks result).map change := by
  unfold State.complete
  split
  · rw [hchange.global]
    split
    · exact hchange.nextLine s e h _
    · exact hchange.reportFatal s e _
  · dsimp only
    rw [hchange.heap, hchange.setHeap]
    exact hchange.applyLast _ e h operation callbacks.last _
      (length_lastArguments operation _ s.heap)

variable (t : Ticket)

/-- A ticket is given up without noticing. -/
theorem missed : (change s).missed t = (s.missed t).map change := by
  simp only [State.missed, hchange.spend, Turn.map]

/-- A completion is made without noticing. -/
theorem completed (operation : Operation) (result : NativeResult) :
    (change s).completed t operation result = (s.completed t operation result).map change := by
  rw [State.completed, State.completed, hchange.registry, hchange.spend, hchange.settle]
  cases (s.registry t.engine).get? t.handle with
  | none => rfl
  | some values =>
    dsimp only
    cases operation.callbacks? t.handle values with
    | error error => exact hchange.reportFatal (s.settle t) t.engine error
    | ok callbacks =>
      exact hchange.complete (s.settle t) t.engine t.handle operation callbacks result

/-- A registration is resumed without noticing. -/
theorem resumed : (change s).resumed t = (s.resumed t).map change := by
  rw [State.resumed, State.resumed, hchange.registry, hchange.spend, hchange.settle]
  cases (s.registry t.engine).get? t.handle with
  | none => rfl
  | some values => simp only [hchange.enter, Turn.map]

end Unnoticed
end ScriptFiles.Bridge
