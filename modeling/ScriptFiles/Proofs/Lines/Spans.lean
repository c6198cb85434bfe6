import Mathlib.Data.List.TakeWhile
import Mathlib.Logic.Function.Iterate
import ScriptFiles.Proofs.Lines

/-!
# Where the lines of a buffer stand

A line is a longest stretch of a buffer without terminators. Asking for a line again and again
gives these stretches by increasing position, each once, and nothing from then on. The cursor passes
over the terminators in front of a line and stops right behind the line (`Cut`), so the stretches of
a buffer are that line and the stretches of what remains.
-/

namespace ScriptFiles

/-! ## One call -/

/-- A buffer starts with terminators and a line, and the line ends where the rest begins. -/
structure Cut (buffer lead line rest : Bytes) : Prop where
  whole : buffer = lead ++ (line ++ rest)
  lead : ∀ byte ∈ lead, isTerminator byte = true
  nonempty : line ≠ []
  free : ∀ byte ∈ line, isTerminator byte = false
  ended : ∀ byte ∈ rest.head?, isTerminator byte = true

namespace Cursor

/-- Without a next line only terminators are left. -/
theorem isTerminator_of_next?_eq_none {cursor : Cursor} (hnone : cursor.next? = none) :
    ∀ byte ∈ cursor.remaining, isTerminator byte = true := by
  unfold next? at hnone
  split at hnone
  · next hdrop => exact List.dropWhile_eq_nil_iff.mp hdrop
  · contradiction

/-- The next line is cut off the buffer. -/
theorem exists_cut {cursor rest : Cursor} {line : Bytes}
    (hsome : cursor.next? = some (line, rest)) :
    ∃ lead, Cut cursor.remaining lead line rest.remaining := by
  unfold next? at hsome
  split at hsome
  · contradiction
  · next byte tail hdrop =>
    obtain ⟨rfl, rfl⟩ := Prod.mk.inj (Option.some.inj hsome)
    have hbyte : isTerminator byte = false := by
      have hhead := List.head?_dropWhile_not isTerminator cursor.remaining
      simpa [hdrop] using hhead
    refine ⟨cursor.remaining.takeWhile isTerminator, ?_, ?_, ?_, ?_, ?_⟩
    · rw [List.takeWhile_append_dropWhile, ← hdrop, List.takeWhile_append_dropWhile]
    · exact fun b hb => List.all_eq_true.mp List.all_takeWhile b hb
    · simp [hbyte]
    · exact fun b hb => by simpa using List.all_eq_true.mp List.all_takeWhile b hb
    · intro b hb
      have hhead := List.head?_dropWhile_not (!isTerminator ·) (byte :: tail)
      rw [Option.mem_def.mp hb] at hhead
      simpa using hhead

/-- After a call the cursor has the other lines in front of it. -/
theorem lines_advance (cursor : Cursor) : cursor.advance.lines = cursor.lines.tail := by
  unfold advance
  split
  · next hsome => rw [lines_of_some hsome, List.tail_cons]
  · next hnone => rw [lines_of_none hnone, lines_of_none rfl, List.tail_nil]

/-- A call gives the first line, if there is one. -/
theorem next?_eq_head? (cursor : Cursor) : cursor.next?.map Prod.fst = cursor.lines.head? := by
  cases hnext : cursor.next? with
  | none => rw [lines_of_none hnext]; rfl
  | some next => rw [lines_of_some hnext]; rfl

/-- After a number of calls the next one gives the line of that number, if there is one. -/
theorem next?_iterate_advance (cursor : Cursor) (count : Nat) :
    (advance^[count] cursor).next?.map Prod.fst = cursor.lines[count]? := by
  induction count generalizing cursor with
  | zero => rw [Function.iterate_zero_apply, next?_eq_head?, List.head?_eq_getElem?]
  | succ count ih =>
    rw [Function.iterate_succ_apply, ih, lines_advance, List.getElem?_tail]

end Cursor

/-! ## Stretches -/

/-- A non-empty stretch of a buffer without terminators. -/
structure IsFree (buffer : Bytes) (start stop : Nat) : Prop where
  nonempty : start < stop
  inside : stop ≤ buffer.length
  free : ∀ i, start ≤ i → i < stop → ∀ byte ∈ buffer[i]?, isTerminator byte = false

/-- A stretch without terminators that no other one contains. -/
structure IsLine (buffer : Bytes) (start stop : Nat) : Prop where
  free : IsFree buffer start stop
  longest : ∀ start' stop', IsFree buffer start' stop' → start' ≤ start → stop ≤ stop' →
    start' = start ∧ stop' = stop

variable {buffer front rest line lead : Bytes} {start stop : Nat}

/-- No stretch without terminators reaches over a terminator. -/
theorem IsFree.not_over (hfree : IsFree buffer start stop) {i : Nat} {byte : UInt8}
    (hbyte : buffer[i]? = some byte) (hterminator : isTerminator byte = true) :
    i < start ∨ stop ≤ i := by
  by_contra hover
  have hfalse := hfree.free i (by omega) (by omega) byte hbyte
  rw [hterminator] at hfalse
  contradiction

/-- A stretch stays one behind other bytes. -/
theorem isFree_append_iff :
    IsFree (front ++ rest) (front.length + start) (front.length + stop) ↔
      IsFree rest start stop := by
  constructor
  · intro hfree
    have hinside := hfree.inside
    rw [List.length_append] at hinside
    refine ⟨Nat.lt_of_add_lt_add_left hfree.nonempty, by omega, fun i hstart hstop byte hbyte => ?_⟩
    refine hfree.free (front.length + i) (by omega) (by omega) byte ?_
    rwa [List.getElem?_append_right (Nat.le_add_right _ _), Nat.add_sub_cancel_left]
  · intro hfree
    have hinside := hfree.inside
    refine ⟨Nat.add_lt_add_left hfree.nonempty _, ?_, fun i hstart hstop byte hbyte => ?_⟩
    · rw [List.length_append]
      omega
    · rw [List.getElem?_append_right (by omega)] at hbyte
      exact hfree.free (i - front.length) (by omega) (by omega) byte hbyte

/-- A stretch that starts behind the first bytes is one of the others. -/
theorem IsFree.behind (hfree : IsFree (front ++ rest) start stop) (hstart : front.length ≤ start) :
    ∃ start' stop', start = front.length + start' ∧ stop = front.length + stop' ∧
      IsFree rest start' stop' := by
  obtain ⟨start', rfl⟩ := Nat.exists_eq_add_of_le hstart
  obtain ⟨stop', rfl⟩ := Nat.exists_eq_add_of_le (Nat.le_of_lt (Nat.lt_of_le_of_lt hstart
    hfree.nonempty))
  exact ⟨start', stop', rfl, rfl, isFree_append_iff.mp hfree⟩

/-- When every stretch starts behind the first bytes or ends within them, the lines behind the
first bytes are those of the other bytes. -/
theorem isLine_append_iff
    (happart : ∀ start stop, IsFree (front ++ rest) start stop →
      front.length ≤ start ∨ stop ≤ front.length) :
    IsLine (front ++ rest) (front.length + start) (front.length + stop) ↔
      IsLine rest start stop := by
  constructor
  · intro hline
    refine ⟨isFree_append_iff.mp hline.free, fun start' stop' hfree hstart hstop => ?_⟩
    have hlongest := hline.longest (front.length + start') (front.length + stop')
      (isFree_append_iff.mpr hfree) (by omega) (by omega)
    omega
  · intro hline
    have hnonempty := hline.free.nonempty
    refine ⟨isFree_append_iff.mpr hline.free, fun start' stop' hfree hstart hstop => ?_⟩
    rcases happart start' stop' hfree with hbehind | hwithin
    · obtain ⟨start'', stop'', rfl, rfl, hrest⟩ := hfree.behind hbehind
      have hlongest := hline.longest start'' stop'' hrest (by omega) (by omega)
      omega
    · omega

namespace Cut

variable (hcut : Cut buffer lead line rest)

include hcut

/-- A buffer is as long as what comes before a line, the line and what comes after it. -/
theorem length_eq : buffer.length = lead.length + line.length + rest.length := by
  rw [hcut.whole, List.length_append, List.length_append, Nat.add_assoc]

/-- A buffer that starts with a terminator has some in front of its first line. -/
theorem lead_ne_nil (hhead : ∀ byte ∈ buffer.head?, isTerminator byte = true) : lead ≠ [] := by
  rintro rfl
  obtain ⟨byte, tail, hline⟩ := List.exists_cons_of_ne_nil hcut.nonempty
  have hterminator := hhead byte (by rw [hcut.whole, hline]; rfl)
  rw [hcut.free byte (by simp [hline])] at hterminator
  contradiction

/-- Every stretch of a cut buffer stands in its line or behind it. -/
theorem free_cases (hfree : IsFree buffer start stop) :
    lead.length ≤ start ∧
      (lead.length + line.length ≤ start ∨ stop ≤ lead.length + line.length) := by
  have hwhole := hcut.whole
  have hnonempty := hfree.nonempty
  have hinside := hfree.inside
  rw [hwhole, List.length_append, List.length_append] at hinside
  constructor
  · by_contra hover
    have hlt : start < lead.length := by omega
    have hbyte : buffer[start]? = some lead[start] := by
      rw [hwhole, List.getElem?_append_left hlt, List.getElem?_eq_getElem hlt]
    have hnot := hfree.not_over hbyte (hcut.lead _ (List.getElem_mem hlt))
    omega
  · cases hrest : rest with
    | nil =>
      rw [hrest, List.length_nil] at hinside
      exact Or.inr (by omega)
    | cons byte tail =>
      have hbyte : buffer[lead.length + line.length]? = some byte := by
        rw [hwhole, hrest, List.getElem?_append_right (Nat.le_add_right _ _),
          List.getElem?_append_right (by omega)]
        simp
      have hnot := hfree.not_over hbyte (hcut.ended byte (by rw [hrest]; rfl))
      omega

/-- The line of a cut buffer is a stretch without terminators. -/
theorem isFree : IsFree buffer lead.length (lead.length + line.length) := by
  have hlength := List.length_pos_iff.mpr hcut.nonempty
  refine ⟨by omega, ?_, fun i hstart hstop byte hbyte => ?_⟩
  · rw [hcut.whole, List.length_append, List.length_append]
    omega
  · rw [hcut.whole, List.getElem?_append_right hstart,
      List.getElem?_append_left (by omega)] at hbyte
    exact hcut.free byte (List.mem_of_getElem? hbyte)

/-- The lines of a cut buffer are its first line and the lines behind it. -/
theorem isLine_iff :
    IsLine buffer start stop ↔
      (start = lead.length ∧ stop = lead.length + line.length) ∨
        ∃ start' stop', start = lead.length + line.length + start' ∧
          stop = lead.length + line.length + stop' ∧ IsLine rest start' stop' := by
  have hwhole : buffer = (lead ++ line) ++ rest := hcut.whole.trans (List.append_assoc ..).symm
  have hlength : (lead ++ line).length = lead.length + line.length := List.length_append
  have happart : ∀ start stop, IsFree ((lead ++ line) ++ rest) start stop →
      (lead ++ line).length ≤ start ∨ stop ≤ (lead ++ line).length := by
    rw [← hwhole, hlength]
    exact fun start stop hfree => (hcut.free_cases hfree).2
  have hbehind {start stop : Nat} : IsLine buffer (lead.length + line.length + start)
      (lead.length + line.length + stop) ↔ IsLine rest start stop := by
    rw [← hlength, hwhole]
    exact isLine_append_iff happart
  have hpos := List.length_pos_iff.mpr hcut.nonempty
  constructor
  · intro hline
    obtain ⟨hstart, hwithin⟩ := hcut.free_cases hline.free
    have hnonempty := hline.free.nonempty
    rcases hwithin with hlater | hfirst
    · obtain ⟨start', rfl⟩ := Nat.exists_eq_add_of_le hlater
      obtain ⟨stop', rfl⟩ := Nat.exists_eq_add_of_le (Nat.le_trans hlater (Nat.le_of_lt hnonempty))
      exact Or.inr ⟨start', stop', rfl, rfl, hbehind.mp hline⟩
    · have hlongest := hline.longest _ _ hcut.isFree hstart hfirst
      exact Or.inl ⟨hlongest.1.symm, hlongest.2.symm⟩
  · rintro (⟨rfl, rfl⟩ | ⟨start', stop', rfl, rfl, hline⟩)
    · refine ⟨hcut.isFree, fun start' stop' hfree hstart hstop => ?_⟩
      have hcases := hcut.free_cases hfree
      omega
    · exact hbehind.mpr hline

/-- The bytes of the first line. -/
theorem extract_line : buffer.extract lead.length (lead.length + line.length) = line := by
  rw [hcut.whole, List.extract_eq_take_drop, List.drop_left, Nat.add_sub_cancel_left,
    List.take_left]

/-- The bytes of a stretch behind the first line. -/
theorem extract_rest (start stop : Nat) :
    buffer.extract (lead.length + line.length + start) (lead.length + line.length + stop) =
      rest.extract start stop := by
  rw [hcut.whole, ← List.append_assoc, ← List.length_append, List.extract_eq_take_drop,
    List.extract_eq_take_drop, List.drop_length_add_append, Nat.add_sub_add_left]

end Cut

/-! ## All lines -/

/-- Only terminators hold no line. -/
theorem not_isLine (hnone : ∀ byte ∈ buffer, isTerminator byte = true) :
    ¬IsLine buffer start stop := by
  intro hline
  have hnonempty := hline.free.nonempty
  have hlt : start < buffer.length := Nat.lt_of_lt_of_le hnonempty hline.free.inside
  have hnot := hline.free.not_over (List.getElem?_eq_getElem hlt) (hnone _ (List.getElem_mem hlt))
  omega

/-- The lines that a cursor has in front of it are the longest stretches without terminators, by
increasing position. -/
theorem Cursor.exists_spans (cursor : Cursor) :
    ∃ spans : List (Nat × Nat), spans.Pairwise (fun earlier later => earlier.2 < later.1) ∧
      (∀ start stop, (start, stop) ∈ spans ↔ IsLine cursor.remaining start stop) ∧
      cursor.lines = spans.map fun span => cursor.remaining.extract span.1 span.2 := by
  induction cursor using Cursor.lines.induct with
  | case1 cursor hnone =>
    have hterminators := isTerminator_of_next?_eq_none hnone
    refine ⟨[], .nil, fun start stop => ?_, lines_of_none hnone⟩
    exact iff_of_false List.not_mem_nil (not_isLine hterminators)
  | case2 cursor line rest hsome ih =>
    obtain ⟨lead, hcut⟩ := exists_cut hsome
    obtain ⟨spans, hordered, hspans, hlines⟩ := ih
    let offset := lead.length + line.length
    refine ⟨(lead.length, offset) :: spans.map fun span => (offset + span.1, offset + span.2),
      ?_, fun start stop => ?_, ?_⟩
    · refine List.pairwise_cons.mpr ⟨fun span hspan => ?_, ?_⟩
      · obtain ⟨⟨start, stop⟩, hmem, rfl⟩ := List.mem_map.mp hspan
        -- a terminator stands between the first line and the next one
        have hline := (hspans start stop).mp hmem
        have hpos : start ≠ 0 := by
          rintro rfl
          have hlt : 0 < rest.remaining.length :=
            Nat.lt_of_lt_of_le hline.free.nonempty hline.free.inside
          have hhead : rest.remaining[0]? = some rest.remaining[0] := List.getElem?_eq_getElem hlt
          have hnot := hline.free.not_over hhead
            (hcut.ended _ (by rw [List.head?_eq_getElem?]; exact hhead))
          have hnonempty := hline.free.nonempty
          omega
        change offset < offset + start
        omega
      · rw [List.pairwise_map]
        exact hordered.imp fun hlt => by omega
    · rw [hcut.isLine_iff, List.mem_cons, Prod.mk.injEq, List.mem_map]
      refine or_congr_right ⟨?_, ?_⟩
      · rintro ⟨⟨start', stop'⟩, hmem, heq⟩
        obtain ⟨rfl, rfl⟩ := Prod.mk.inj heq
        exact ⟨start', stop', rfl, rfl, (hspans start' stop').mp hmem⟩
      · rintro ⟨start', stop', rfl, rfl, hline⟩
        exact ⟨(start', stop'), (hspans start' stop').mpr hline, rfl⟩
    · rw [lines_of_some hsome, hlines, List.map_cons, List.map_map, hcut.extract_line]
      refine congrArg _ (List.map_congr_left fun span _ => ?_)
      exact (hcut.extract_rest span.1 span.2).symm

end ScriptFiles
