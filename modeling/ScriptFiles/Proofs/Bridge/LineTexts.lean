import ScriptFiles.Proofs.Bridge.LineProtocol
import ScriptFiles.Proofs.Text.Utf8

/-!
# Lines as texts

Reading a file by lines cuts its bytes and reads each line; reading a file at once hands over the
bytes, which have a text as a whole. Both show script code the same lines: what a listener hears are
the pieces of the text of the content between its line breaks, for any bytes at all.
-/

namespace ScriptFiles

/-- The texts between the line breaks of a text, without the empty ones. -/
def textLines (text : String) : List String :=
  ((Text.pieces isLineBreak text.toList).filter (!·.isEmpty)).map String.ofList

/-- The lines of a buffer, as values, are the lines of its text. -/
theorem map_lineValue_linesOf (buffer : Bytes) :
    (linesOf buffer).map lineValue = (textLines (Value.buffer buffer).text).map Value.string := by
  have hchars : (Value.buffer buffer).text.toList = Utf8.decodeChars buffer := by
    rw [Value.text, Utf8.decodeLossy, String.toList_ofList]
  rw [textLines, hchars, ← Utf8.map_decodeChars_segments, linesOf_eq_segments, List.map_map,
    List.map_map]
  rfl

namespace Bridge

/-- The arguments with which the listener of a registration is called, if this is such a call. -/
def Event.heard? (e : EngineId) (h : Handle) : Event → Option (List Value)
  | .applied invocation =>
    if invocation.engine = e ∧ invocation.role = .listener h then some invocation.arguments
    else none
  | _ => none

/-- What the listener of a registration is called with. -/
def hearings (e : EngineId) (h : Handle) (events : List Event) : List (List Value) :=
  events.filterMap (Event.heard? e h)

variable {e : EngineId} {h : Handle}

/-- Only calls of the callbacks matter for what is heard. -/
theorem hearings_calls (events : List Event) :
    hearings e h (calls e h events) = hearings e h events := by
  rw [hearings, calls, List.filterMap_filter]
  refine congrArg (List.filterMap · events) (funext fun event => ?_)
  rcases event with _ | ⟨e', function, this, arguments, role⟩ | _ | _ | _
  case applied =>
    cases role <;> simp [Event.heard?, Event.isCallOf]
  all_goals rfl

/-- A listener that throws at no line hears the lines in order, as far as it has ended with the
lines before. -/
theorem hearings_lineEffects {this : Value} {listener done : FunctionRef} {lines : List Bytes}
    {outcomes : List Outcome}
    (hlistens : ∀ line ∈ lines, refusal listener [lineValue line] = none)
    (hvalues : ∀ outcome ∈ outcomes.take lines.length, ∃ value, outcome = .value value) :
    hearings e h (lineEffects e h this listener done lines outcomes) =
      (lines.map fun line => [lineValue line]).take (outcomes.length + 1) := by
  have hdone : (doneCall e h done []).heard? e h = none := by
    simp [doneCall, Event.heard?, lastInvocation]
  have hcalls : (Event.heard? e h ∘ fun line =>
      .applied ⟨e, listener, this, [lineValue line], .listener h⟩) =
        some ∘ fun line => [lineValue line] := by
    funext line
    simp [Event.heard?]
  rw [lineEffects_of_values e h hlistens hvalues, hearings,
    List.filterMap_append, List.filterMap_map, hcalls, List.filterMap_eq_map, ← List.map_take]
  split <;> simp [hdone]

/-- Reading by lines and reading at once show the same text. For any bytes, the lines as values are
the pieces of the text of the buffer between line feeds and carriage returns that are not empty.
And these are what script code hears: when a read by lines completes with these bytes while its
engine lives and has an object as its global, and the listener throws at none of the pieces, then
the calls of the listener in the whole run are those for the pieces in order, as far as the listener
has ended with the ones before. -/
theorem line_texts_agree (buffer : Bytes) :
    let texts := textLines (Value.buffer buffer).text
    (linesOf buffer).map lineValue = texts.map Value.string ∧
    ∀ (before later : List Move) (t : Ticket),
      let s := after {} before
      let fire : Move := .fire t.id (.ok (.content buffer))
      let outcomes := turnOutcomes (ownTurns s.frames.length (step s fire).state later)
      Redeems s fire t → t.purpose = .operation .readFromFile → s.isAlive t.engine = true →
      (s.global t.engine).isObject = true →
      (after {} (before ++ fire :: later)).ticketCount < UInt64.size →
      ∃ listener done,
        (s.registry t.engine).get? t.handle = some [.function listener, .function done] ∧
        ((∀ text ∈ texts, refusal listener [.string text] = none) →
          (∀ outcome ∈ outcomes.take texts.length, ∃ value, outcome = .value value) →
          hearings t.engine t.handle (trace {} (before ++ fire :: later)) =
            (texts.map fun text => [.string text]).take (outcomes.length + 1)) := by
  intro texts
  have hlines : (linesOf buffer).map lineValue = texts.map Value.string :=
    map_lineValue_linesOf buffer
  refine ⟨hlines, ?_⟩
  intro before later t s fire outcomes hredeems hpurpose halive hobject hfew
  have hregistered : Registered s := registered_after before (formed_empty.few_append hfew)
  obtain ⟨listener, done, hstored⟩ := hregistered.read_callbacks hredeems.mem hpurpose
  refine ⟨listener, done, hstored, fun hlistens hvalues => ?_⟩
  have hlistens : ∀ line ∈ linesOf buffer, refusal listener [lineValue line] = none := by
    intro line hline
    have hvalue : lineValue line ∈ texts.map Value.string :=
      hlines ▸ List.mem_map_of_mem hline
    obtain ⟨text, htext, heq⟩ := List.mem_map.mp hvalue
    rw [← heq]
    exact hlistens text htext
  have hlength : (linesOf buffer).length = texts.length := by
    simpa using congrArg List.length hlines
  have hheard : (linesOf buffer).map (fun line => [lineValue line]) =
      texts.map fun text => [.string text] := by
    have hwrapped := congrArg (List.map fun value => [value]) hlines
    simpa only [List.map_map, Function.comp_def] using hwrapped
  have heffects := hredeems.read_effects (formed_empty.after before) hpurpose halive hstored later
  have hcalls := calls_of_completion ⟨some listener, done⟩ hredeems hpurpose rfl hstored hfew
  rw [← hlength] at hvalues
  calc hearings t.engine t.handle (trace {} (before ++ fire :: later))
      = hearings t.engine t.handle (lineEffects t.engine t.handle (s.global t.engine) listener done
          (linesOf buffer) outcomes) := by
        rw [← hearings_calls, hcalls, hearings_calls, heffects]
        simp only [readEffects, hobject, if_true]
        rfl
    _ = ((linesOf buffer).map fun line => [lineValue line]).take (outcomes.length + 1) :=
        hearings_lineEffects hlistens hvalues
    _ = (texts.map fun text => [.string text]).take (outcomes.length + 1) := by rw [hheard]

/-- A truncated sequence that a line feed cuts off and a stray byte at the end of the second line:
the listener hears two texts, the first of them a replacement character. -/
theorem line_texts_agree_malformed :
    let buffer : Bytes := [0xE2, 0x82, 10, 13, 104, 0xFF, 10]
    let fire : Move := .fire 0 (.ok (.content buffer))
    let later : List Move := [.return_ (.value .undefined), .return_ (.value .undefined)]
    let t : Ticket := ⟨0, 0, ⟨1⟩, .operation .readFromFile⟩
    Redeems (after {} callToRead) fire t ∧
      textLines (Value.buffer buffer).text = ["\uFFFD", "h\uFFFD"] ∧
      hearings 0 ⟨1⟩ (trace {} (callToRead ++ fire :: later)) =
        [[.string "\uFFFD"], [.string "h\uFFFD"]] := by
  intro buffer fire later t
  have hredeems : Redeems (after {} callToRead) (.fire t.id (.ok (.content buffer))) t :=
    .fire (by decide) rfl (by decide)
  have htexts : textLines (Value.buffer buffer).text = ["\uFFFD", "h\uFFFD"] := by
    simp only [textLines, Value.text, Utf8.decodeLossy, String.toList_ofList]
    decide
  obtain ⟨-, hagree⟩ := line_texts_agree buffer
  obtain ⟨listener, done, hstored, hheard⟩ :=
    hagree callToRead later t hredeems rfl (by decide) (by decide) (by decide)
  have hcall : ((after {} callToRead).registry 0).get? ⟨1⟩ =
      some [.function ⟨1, "listener", .host⟩, .function ⟨2, "done", .host⟩] := by decide
  obtain ⟨rfl, -⟩ : listener = ⟨1, "listener", .host⟩ ∧ done = ⟨2, "done", .host⟩ := by
    simpa using hstored.symm.trans hcall
  have houtcomes : turnOutcomes (ownTurns (after {} callToRead).frames.length
      (step (after {} callToRead) (.fire t.id (.ok (.content buffer)))).state later) =
        [.value .undefined, .value .undefined] := by decide
  have hvalues : ∀ outcome ∈ [Outcome.value .undefined, .value .undefined].take
      (textLines (Value.buffer buffer).text).length, ∃ value, outcome = .value value := by
    simp [htexts]
  rw [houtcomes] at hheard
  have hlistens : ∀ text ∈ textLines (Value.buffer buffer).text,
      refusal ⟨1, "listener", .host⟩ [.string text] = none := fun _ _ => refusal_of_host rfl _
  refine ⟨hredeems, htexts, (hheard hlistens hvalues).trans ?_⟩
  rw [htexts]
  rfl

end Bridge
end ScriptFiles
