import ScriptFiles.Proofs.Lines.Spans

/-!
# How many lines may still come

A cursor does not count its lines but bounds their number by the bytes that remain. Every line but
the last needs a terminator behind it, and the cursor stops in front of that one, so the bound is
tighter for a cursor that stands at a terminator: half of the bytes, without the extra one. This is
the bound that the induction over the lines carries.
-/

namespace ScriptFiles.Cursor

/-! ## Calls -/

/-- After the last line nothing is left. -/
theorem advance_of_none {cursor : Cursor} (hnone : cursor.next? = none) :
    cursor.advance = ⟨[]⟩ := by
  rw [advance, hnone]

/-- After a line its rest is left. -/
theorem advance_of_some {cursor rest : Cursor} {line : Bytes}
    (hsome : cursor.next? = some (line, rest)) : cursor.advance = rest := by
  rw [advance, hsome]

/-- No call adds bytes to what remains. -/
theorem length_advance_le (cursor : Cursor) :
    cursor.advance.remaining.length ≤ cursor.remaining.length := by
  cases hnext : cursor.next? with
  | none =>
    rw [advance_of_none hnext]
    exact Nat.zero_le _
  | some next =>
    rw [advance_of_some hnext]
    exact Nat.le_of_lt (next?_shorter hnext)

/-- A cursor at the end stays there. -/
theorem iterate_advance_end (count : Nat) : advance^[count] ⟨[]⟩ = ⟨[]⟩ :=
  Function.iterate_fixed (advance_of_none rfl) count

/-- Each call leaves one line less. -/
theorem lines_iterate_advance (cursor : Cursor) (count : Nat) :
    (advance^[count] cursor).lines = cursor.lines.drop count := by
  induction count generalizing cursor with
  | zero => rfl
  | succ count ih => rw [Function.iterate_succ_apply, ih, lines_advance, List.drop_tail]

/-- As many calls as there are lines give one. -/
theorem isSome_next?_iterate_advance (cursor : Cursor) (count : Nat) :
    (advance^[count] cursor).next?.isSome = true ↔ count < cursor.lines.length := by
  rw [← Option.isSome_map, next?_iterate_advance, isSome_getElem?]

/-! ## Bounds -/

/-- A cursor at a terminator has at most one line for two bytes. -/
theorem two_mul_length_lines_le_of_terminator (cursor : Cursor)
    (hhead : ∀ byte ∈ cursor.remaining.head?, isTerminator byte = true) :
    2 * cursor.lines.length ≤ cursor.remaining.length := by
  induction cursor using Cursor.lines.induct with
  | case1 cursor hnone =>
    rw [lines_of_none hnone]
    exact Nat.zero_le _
  | case2 cursor line rest hsome ih =>
    obtain ⟨lead, hcut⟩ := exists_cut hsome
    have hrest := ih hcut.ended
    have hlead := List.length_pos_iff.mpr (hcut.lead_ne_nil hhead)
    have hline := List.length_pos_iff.mpr hcut.nonempty
    rw [lines_of_some hsome, List.length_cons, hcut.length_eq]
    omega

/-- A cursor anywhere may have one line more, for it may stand in front of a line. -/
theorem two_mul_length_lines_le (cursor : Cursor) :
    2 * cursor.lines.length ≤ cursor.remaining.length + 1 := by
  cases hnext : cursor.next? with
  | none =>
    rw [lines_of_none hnext]
    exact Nat.zero_le _
  | some next =>
    obtain ⟨lead, hcut⟩ := exists_cut hnext
    have hrest := two_mul_length_lines_le_of_terminator next.2 hcut.ended
    have hline := List.length_pos_iff.mpr hcut.nonempty
    rw [lines_of_some hnext, List.length_cons, hcut.length_eq]
    omega

/-- The greatest number of lines that may still come never grows. -/
theorem sizeHint_advance_le (cursor : Cursor) : cursor.advance.sizeHint.2 ≤ cursor.sizeHint.2 :=
  Nat.div_le_div_right (Nat.succ_le_succ cursor.length_advance_le)

/-- Size hints hold everywhere. After any number of calls on a buffer, as many more calls give a
line as there are lines left, and that number lies within the hint. The next call does not raise the
upper hint; if it gives a line, fewer bytes remain, and if it gives none, the upper hint is zero
from then on. A copy of a cursor is the cursor itself, so this is also what a copy says. -/
theorem size_hint_sound (buffer : Bytes) (count : Nat) :
    let cursor := advance^[count] ⟨buffer⟩
    cursor.lines = (linesOf buffer).drop count ∧
    (∀ more, (advance^[more] cursor).next?.isSome = true ↔ more < cursor.lines.length) ∧
    cursor.sizeHint.1 ≤ cursor.lines.length ∧ cursor.lines.length ≤ cursor.sizeHint.2 ∧
    cursor.advance.sizeHint.2 ≤ cursor.sizeHint.2 ∧
    (∀ line rest, cursor.next? = some (line, rest) →
      rest = cursor.advance ∧ rest.remaining.length < cursor.remaining.length) ∧
    (cursor.next? = none → ∀ more, (advance^[more + 1] cursor).sizeHint.2 = 0) := by
  intro cursor
  have hupper : cursor.lines.length ≤ cursor.sizeHint.2 := by
    have hbound := cursor.two_mul_length_lines_le
    rw [sizeHint, Nat.le_div_iff_mul_le Nat.two_pos]
    omega
  refine ⟨lines_iterate_advance ⟨buffer⟩ count, cursor.isSome_next?_iterate_advance,
    Nat.zero_le _, hupper, cursor.sizeHint_advance_le, fun line rest hsome => ?_,
    fun hnone more => ?_⟩
  · exact ⟨(advance_of_some hsome).symm, next?_shorter hsome⟩
  · rw [Function.iterate_succ_apply, advance_of_none hnone, iterate_advance_end]
    rfl

/-- Lines of one byte each reach the upper hint; the third one is the last. -/
theorem size_hint_sound_single_bytes :
    (linesOf [97, 10, 98, 13, 99]).length = 3 ∧
    (Cursor.mk [97, 10, 98, 13, 99]).sizeHint.2 = 3 ∧
    (advance^[2] ⟨[97, 10, 98, 13, 99]⟩).next? = some ([99], ⟨[]⟩) ∧
    0 < (advance^[2] ⟨[97, 10, 98, 13, 99]⟩).remaining.length ∧
    (advance^[3] ⟨[97, 10, 98, 13, 99]⟩).next? = none ∧
    (advance^[4] ⟨[97, 10, 98, 13, 99]⟩).sizeHint.2 = 0 := by
  have hlast : (advance^[2] ⟨[97, 10, 98, 13, 99]⟩).next? = some ([99], ⟨[]⟩) := rfl
  have hnone : (advance^[3] ⟨[97, 10, 98, 13, 99]⟩).next? = none := rfl
  obtain ⟨-, -, -, -, -, hshorter, -⟩ := size_hint_sound [97, 10, 98, 13, 99] 2
  obtain ⟨-, -, -, -, -, -, hended⟩ := size_hint_sound [97, 10, 98, 13, 99] 3
  refine ⟨?_, rfl, hlast, (hshorter _ _ hlast).2, hnone, hended hnone 0⟩
  rw [linesOf_eq_segments]
  rfl

end ScriptFiles.Cursor
