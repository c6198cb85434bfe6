import ScriptFiles.Proofs.Bridge.LineProtocol
import Mathlib.Data.List.Induction

/-!
# Readings

A reading is a registration of a call to read by lines: where it is, its listener and its last
callback. `reading?` is the reading that a move goes on with, either because the move redeems the
ticket it is stored for or because it ends the listener. A listener that runs belongs to a reading
whose completion fired before (`firedIn_of_listens`), so the callbacks that a delivery of lines
goes on with are those that were stored for it.
-/

namespace ScriptFiles.Bridge

/-- A registration of a call to read by lines. -/
structure Reading where
  engine : EngineId
  handle : Handle
  listener : FunctionRef
  done : FunctionRef
deriving DecidableEq, Repr

/-- The reading whose lines an activity delivers. -/
def Frame.reading? (frame : Frame) : Option Reading :=
  match frame.activity with
  | .listening h lines => some ⟨frame.engine, h, lines.listener, lines.done⟩
  | _ => none

/-- The reading that is stored for a ticket. -/
def State.reading? (s : State) (t : Ticket) : Option Reading :=
  match (s.registry t.engine).get? t.handle with
  | some [.function listener, .function done] => some ⟨t.engine, t.handle, listener, done⟩
  | _ => none

/-- The reading that a move goes on with. -/
def reading? (s : State) : Move → Option Reading
  | .fire id result =>
    (s.ticket? id).bind fun t =>
      if t.purpose = .operation .readFromFile ∧ Operation.readFromFile.accepts result = true then
        s.reading? t
      else none
  | .return_ _ => s.frames.head?.bind Frame.reading?
  | _ => none

/-- A reading whose completion fired in a run: the move redeemed the ticket of a call to read by
lines, and the callbacks of the reading were what was stored for it. -/
def Reading.FiredIn (r : Reading) (moves : List Move) : Prop :=
  ∃ before result later t, moves = before ++ .fire t.id result :: later ∧
    Redeems (after {} before) (.fire t.id result) t ∧ t.purpose = .operation .readFromFile ∧
    t.engine = r.engine ∧ t.handle = r.handle ∧
    ((after {} before).registry r.engine).get? r.handle =
      some [.function r.listener, .function r.done]

/-- A reading that fired in a run fired in every longer one. -/
theorem Reading.FiredIn.append {r : Reading} {moves : List Move} (hfired : r.FiredIn moves)
    (more : List Move) : r.FiredIn (moves ++ more) := by
  obtain ⟨before, result, later, t, rfl, hstored⟩ := hfired
  exact ⟨before, result, later ++ more, t, by simp, hstored⟩

variable {s : State} {r : Reading}

/-- The reading of a ticket is what is stored for it. -/
theorem State.reading?_eq_some_iff {t : Ticket} :
    s.reading? t = some r ↔ t.engine = r.engine ∧ t.handle = r.handle ∧
      (s.registry r.engine).get? r.handle = some [.function r.listener, .function r.done] := by
  obtain ⟨e, h, listener, done⟩ := r
  rw [State.reading?]
  constructor
  · intro hreading
    split at hreading
    · next hget =>
      obtain ⟨rfl, rfl, rfl, rfl⟩ := Reading.mk.inj (Option.some.inj hreading)
      exact ⟨rfl, rfl, hget⟩
    · contradiction
  · rintro ⟨rfl, rfl, hget⟩
    simp [hget]

/-- The completion of a call to read by lines goes on with what is stored for its ticket. -/
theorem reading?_fire_eq_some_iff {id : Nat} {result : NativeResult} :
    reading? s (.fire id result) = some r ↔
      ∃ t, s.ticket? id = some t ∧ t.purpose = .operation .readFromFile ∧
        Operation.readFromFile.accepts result = true ∧ s.reading? t = some r := by
  simp only [reading?, Option.bind_eq_some_iff, Option.ite_none_right_eq_some, and_assoc]

/-- The reading of a move that fires is stored for the ticket that it fires. -/
theorem firedIn_of_fire {moves : List Move} {id : Nat} {result : NativeResult}
    (hreading : reading? (after {} moves) (.fire id result) = some r) :
    r.FiredIn (moves ++ [.fire id result]) := by
  obtain ⟨t, hticket, hpurpose, haccepts, hstored⟩ := reading?_fire_eq_some_iff.mp hreading
  obtain rfl := id_of_ticket? hticket
  exact ⟨moves, result, [], t, rfl, .fire hticket hpurpose haccepts, hpurpose,
    State.reading?_eq_some_iff.mp hstored⟩

/-! ## Listeners that run -/

/-- The listener of some reading runs among activities. -/
def Listens (r : Reading) (frames : List Frame) : Prop :=
  ∃ frame ∈ frames, frame.reading? = some r

/-- A listener that runs among some activities runs among more of them. -/
theorem Listens.cons {frames : List Frame} (hlistens : Listens r frames) (frame : Frame) :
    Listens r (frame :: frames) := by
  obtain ⟨other, hmem, hreading⟩ := hlistens
  exact ⟨other, List.mem_cons_of_mem _ hmem, hreading⟩

/-- A listener runs in the first activity or in another one. -/
theorem listens_cons {frame : Frame} {frames : List Frame} :
    Listens r (frame :: frames) ↔ frame.reading? = some r ∨ Listens r frames := by
  simp [Listens]

variable (s) (e : EngineId) (h : Handle)

/-- Applying the last callback starts no listener. -/
theorem listens_applyLast {operation : Operation} {last : FunctionRef} {arguments : List Value}
    (hshort : arguments.length ≤ 1)
    (hlistens : Listens r (s.applyLast e h operation last arguments).state.frames) :
    Listens r s.frames := by
  obtain ⟨-, hframes | hframes⟩ := applyLast_effects s e h operation last arguments hshort
  · rwa [hframes] at hlistens
  · rw [hframes, listens_cons] at hlistens
    exact hlistens.resolve_left nofun

/-- Ending the lines at an exception starts no listener. -/
theorem listens_stopLines {lines : LineDelivery} {exception : ScriptException}
    (hlistens : Listens r (s.stopLines e h lines exception).state.frames) : Listens r s.frames :=
  listens_applyLast s e h (Nat.le_refl [exception.value].length) hlistens

/-- Going on to the next line starts at most the listener of the lines. -/
theorem listens_nextLine {lines : LineDelivery}
    (hlistens : Listens r (s.nextLine e h lines).state.frames) :
    Listens r s.frames ∨ r = ⟨e, h, lines.listener, lines.done⟩ := by
  cases hnext : lines.rest.next? with
  | none =>
    have hshort : ([] : List Value).length ≤ 1 := Nat.zero_le 1
    rw [nextLine_of_none s e h hnext] at hlistens
    exact Or.inl (listens_applyLast s e h hshort hlistens)
  | some next =>
    obtain ⟨line, rest⟩ := next
    rcases refusal_or_host lines.listener [lineValue line] (Nat.le_refl 1) with
      ⟨exception, hrefusal⟩ | hhost
    · rw [nextLine_of_refusal s e h hnext hrefusal] at hlistens
      exact Or.inl (listens_stopLines s e h hlistens)
    · rw [nextLine_of_host s e h hnext hhost] at hlistens
      rcases listens_cons.mp hlistens with hnew | hold
      · exact Or.inr (Option.some.inj hnew).symm
      · exact Or.inl hold

/-- Reporting a fatal error starts no listener. -/
theorem listens_reportFatal {error : ScriptError}
    (hlistens : Listens r (s.reportFatal e error).state.frames) : Listens r s.frames := by
  obtain ⟨-, hframes | hframes⟩ := reportFatal_effects s e error
  · rwa [hframes] at hlistens
  · rw [hframes, listens_cons] at hlistens
    exact hlistens.resolve_left nofun

/-- Handing over a result starts at most the listener of its callbacks. -/
theorem listens_complete {operation : Operation} {callbacks : Callbacks} {result : NativeResult}
    (hlistens : Listens r (s.complete e h operation callbacks result).state.frames) :
    Listens r s.frames ∨
      ∃ listener, callbacks.listener = some listener ∧ r = ⟨e, h, listener, callbacks.last⟩ := by
  have htold (hlast : Listens r (State.applyLast
      { s with heap := (lastArguments operation result s.heap).2 } e h operation callbacks.last
      (lastArguments operation result s.heap).1).state.frames) : Listens r s.frames :=
    listens_applyLast { s with heap := (lastArguments operation result s.heap).2 } e h
      (length_lastArguments operation result s.heap) hlast
  unfold State.complete at hlistens
  split at hlistens
  · next listener answer hlistener =>
    split at hlistens
    · rcases listens_nextLine s e h hlistens with hold | hnew
      · exact Or.inl hold
      · exact Or.inr ⟨listener, hlistener, hnew⟩
    · exact Or.inl (listens_reportFatal s e hlistens)
  · exact Or.inl (htold hlistens)

variable {s}

/-- A move starts at most the listener of the reading that it goes on with. -/
theorem listens_step (hseated : Seated s.frames) {m : Move}
    (hlistens : Listens r (step s m).state.frames) :
    Listens r s.frames ∨ reading? s m = some r := by
  have houter {frame : Frame} {outer : List Frame} (hframes : s.frames = frame :: outer)
      (hlistens : Listens r outer) : Listens r s.frames :=
    hframes ▸ hlistens.cons frame
  have hanswers := answers_step hseated m
  generalize hturn : step s m = turn at hanswers hlistens
  cases hanswers with
  | refused | turnedAway | stored | gone | unstored | abandoned => exact Or.inl hlistens
  | hosted _ huntouched _ => exact Or.inl (huntouched.frames ▸ hlistens)
  | called | resumed => exact Or.inl ((listens_cons.mp hlistens).resolve_left nofun)
  | issued =>
    have hcall := (listens_cons.mp hlistens).resolve_left nofun
    exact Or.inl ((listens_cons.mp hcall).resolve_left nofun)
  | @mismatched t | @contextless t =>
    exact Or.inl (listens_reportFatal (s.settle t) t.engine hlistens)
  | @delivered t _ _ _ callbacks _ _ hredeems hpurpose halive hget hcallbacks =>
    obtain ⟨rfl, hlength⟩ := Operation.callbacks?_eq_ok_iff.mp hcallbacks
    rw [← hturn, hredeems.step_complete hpurpose halive hget hlength] at hlistens
    rcases listens_complete (s.settle t) t.engine t.handle hlistens with
      hold | ⟨listener, hlistener, rfl⟩
    · exact Or.inl hold
    · obtain ⟨hticket, operation, hpurpose', haccepts⟩ := hredeems.of_fire
      have hlines := (Callbacks.isSome_listener_iff hlength).mp (by simp [hlistener])
      obtain rfl : operation = .readFromFile := by simpa [hpurpose, hlines] using hpurpose'.symm
      refine Or.inr (reading?_fire_eq_some_iff.mpr ⟨t, hticket, hpurpose', haccepts, ?_⟩)
      rw [State.reading?_eq_some_iff]
      exact ⟨rfl, rfl, by simp [hget, Callbacks.functions, hlistener]⟩
  | returned hframes | handedOver hframes | reported hframes =>
    exact Or.inl (houter hframes hlistens)
  | acknowledged hframes => exact Or.inl (houter hframes (hlistens.cons _))
  | concluded hframes =>
    rw [state_conclude] at hlistens
    exact Or.inl (houter hframes hlistens)
  | @failed e _ outer _ hframes =>
    exact Or.inl (houter hframes (listens_reportFatal { s with frames := outer } e hlistens))
  | @heard e h lines outer outcome _ hframes =>
    rw [← hturn, step_return_listening hframes] at hlistens
    have hreading : reading? s (.return_ outcome) = some ⟨e, h, lines.listener, lines.done⟩ := by
      simp [reading?, hframes, Frame.reading?]
    cases outcome with
    | value _ =>
      rcases listens_nextLine { s with frames := outer } e h hlistens with hold | rfl
      · exact Or.inl (houter hframes hold)
      · exact Or.inr hreading
    | thrown exception =>
      exact Or.inl (houter hframes (listens_stopLines { s with frames := outer } e h hlistens))

/-- The reading that the innermost activity of some activities goes on with is one of theirs. -/
theorem listens_of_reading?_return {outcome : Outcome}
    (hreading : reading? s (.return_ outcome) = some r) : Listens r s.frames := by
  obtain ⟨frame, hhead, hframe⟩ := Option.bind_eq_some_iff.mp hreading
  exact ⟨frame, List.mem_of_mem_head? hhead, hframe⟩

/-- A listener that runs belongs to a reading whose completion fired before. -/
theorem firedIn_of_listens {moves : List Move} (hlistens : Listens r (after {} moves).frames) :
    r.FiredIn moves := by
  induction moves using List.reverseRecOn with
  | nil => simp [Listens] at hlistens
  | append_singleton moves m ih =>
    rw [after_append, after_cons, after_nil] at hlistens
    rcases listens_step (formed_empty.after moves).seated hlistens with hold | hreading
    · exact (ih hold).append [m]
    · cases m with
      | fire id result => exact firedIn_of_fire hreading
      | return_ outcome => exact (ih (listens_of_reading?_return hreading)).append _
      | _ => contradiction

/-- The reading that a move goes on with has fired, at the latest with that move. -/
theorem firedIn_of_reading? {moves : List Move} {m : Move}
    (hreading : reading? (after {} moves) m = some r) : r.FiredIn (moves ++ [m]) := by
  cases m with
  | fire id result => exact firedIn_of_fire hreading
  | return_ outcome =>
    exact (firedIn_of_listens (listens_of_reading?_return hreading)).append _
  | _ => contradiction

end ScriptFiles.Bridge
