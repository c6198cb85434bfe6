import Mathlib.Data.List.DropRight
import ScriptFiles.Proofs.Lines.Spans

/-!
# Taking a buffer apart and putting it together

A terminator separates: the lines of two buffers with a terminator between them are the lines of the
first and those of the second. So lines that are joined with line feeds come apart again, and
joining the lines of a buffer only tidies its terminators up: none at the start and the end, and a
single line feed in place of each run in between.
-/

namespace ScriptFiles

/-- Lines with a line feed between each two of them. -/
def joined (lines : List Bytes) : Bytes :=
  [10].intercalate lines

/-- A buffer without the terminators at its start and at its end. -/
def trimmed (buffer : Bytes) : Bytes :=
  (buffer.dropWhile isTerminator).rdropWhile isTerminator

/-- A buffer with a line feed in place of each run of terminators. -/
def squeezed : Bytes → Bytes
  | [] => []
  | byte :: rest =>
    if isTerminator byte then
      if rest.head?.any isTerminator then squeezed rest else 10 :: squeezed rest
    else byte :: squeezed rest

/-! ## Coming apart -/

/-- Two buffers with a terminator between them have the lines of both. -/
theorem linesOf_append {t : UInt8} (ht : isTerminator t = true) (front rest : Bytes) :
    linesOf (front ++ t :: rest) = linesOf front ++ linesOf rest := by
  simp only [linesOf_eq_segments, segments]
  rw [Text.pieces_append_cons ht, List.filter_append]

/-- No line is empty, and none holds a terminator. -/
theorem Cursor.free_of_mem_lines (cursor : Cursor) :
    ∀ line ∈ cursor.lines, line ≠ [] ∧ ∀ byte ∈ line, isTerminator byte = false := by
  induction cursor using Cursor.lines.induct with
  | case1 cursor hnone =>
    rw [lines_of_none hnone]
    exact fun line hline => absurd hline List.not_mem_nil
  | case2 cursor line rest hsome ih =>
    obtain ⟨lead, hcut⟩ := exists_cut hsome
    rw [lines_of_some hsome]
    exact List.forall_mem_cons.mpr ⟨⟨hcut.nonempty, hcut.free⟩, ih⟩

/-- Joined lines come apart again. -/
theorem linesOf_joined {lines : List Bytes}
    (hlines : ∀ line ∈ lines, line ≠ [] ∧ ∀ byte ∈ line, isTerminator byte = false) :
    linesOf (joined lines) = lines := by
  rcases eq_or_ne lines [] with rfl | hsome
  · exact linesOf_eq_segments []
  · have hpieces : Text.pieces isTerminator (joined lines) = lines :=
      Text.pieces_intercalate rfl hsome fun line hline => (hlines line hline).2
    rw [linesOf_eq_segments, segments, hpieces, List.filter_eq_self]
    exact fun line hline => by simpa using (hlines line hline).1

/-! ## Putting together -/

/-- Squeezing leaves bytes without terminators alone. -/
theorem squeezed_append_of_free {line : Bytes} (hfree : ∀ byte ∈ line, isTerminator byte = false)
    (rest : Bytes) : squeezed (line ++ rest) = line ++ squeezed rest := by
  induction line with
  | nil => rfl
  | cons byte line ih =>
    obtain ⟨hbyte, hline⟩ := List.forall_mem_cons.mp hfree
    simp [squeezed, hbyte, ih hline]

/-- A run of terminators is squeezed into a line feed. -/
theorem squeezed_append_of_run {run rest : Bytes} (hnonempty : run ≠ [])
    (hrun : ∀ byte ∈ run, isTerminator byte = true)
    (hrest : ∀ byte ∈ rest.head?, isTerminator byte = false) :
    squeezed (run ++ rest) = 10 :: squeezed rest := by
  induction run with
  | nil => contradiction
  | cons byte run ih =>
    obtain ⟨hbyte, hrun⟩ := List.forall_mem_cons.mp hrun
    cases run with
    | nil =>
      have hlast : rest.head?.any isTerminator = false := by
        rw [Option.any_eq_false]
        exact fun b hb => by simpa using hrest b hb
      simp [squeezed, hbyte, hlast]
    | cons next run =>
      have hnext : isTerminator next = true := hrun next List.mem_cons_self
      rw [← ih (List.cons_ne_nil next run) hrun]
      simp [squeezed, hbyte, hnext]

/-- Terminators at the end are removed up to the last byte that is none. -/
theorem rdropWhile_append_cons {byte : UInt8} (hbyte : isTerminator byte = false)
    (front rest : Bytes) :
    (front ++ byte :: rest).rdropWhile isTerminator =
      front ++ byte :: rest.rdropWhile isTerminator := by
  induction rest using List.reverseRecOn with
  | nil => rw [List.rdropWhile_concat_neg _ _ _ (by simp [hbyte])]; rfl
  | append_singleton rest last ih =>
    have hsplit : front ++ byte :: (rest ++ [last]) = (front ++ byte :: rest) ++ [last] := by simp
    rw [hsplit, List.rdropWhile_concat, List.rdropWhile_concat]
    split
    · exact ih
    · exact hsplit.symm

namespace Cut

variable {buffer lead line rest : Bytes} (hcut : Cut buffer lead line rest)

include hcut

/-- The line of a cut buffer ends with a byte that is no terminator. -/
theorem exists_concat : ∃ front byte, line = front ++ [byte] ∧ isTerminator byte = false := by
  obtain ⟨front, byte, rfl⟩ := (List.eq_nil_or_concat' line).resolve_left hcut.nonempty
  exact ⟨front, byte, rfl, hcut.free byte (by simp)⟩

/-- Removing the terminators at the end leaves the first line alone. -/
theorem rdropWhile_eq :
    buffer.rdropWhile isTerminator = lead ++ (line ++ rest.rdropWhile isTerminator) := by
  obtain ⟨front, byte, rfl, hbyte⟩ := hcut.exists_concat
  have hdrop := rdropWhile_append_cons hbyte (lead ++ front) rest
  rw [hcut.whole]
  simpa using hdrop

/-- Trimming removes what stands in front of the first line. -/
theorem trimmed_eq : trimmed buffer = line ++ rest.rdropWhile isTerminator := by
  obtain ⟨byte, tail, hline⟩ := List.exists_cons_of_ne_nil hcut.nonempty
  have hbyte : isTerminator byte = false := hcut.free byte (by simp [hline])
  have hdrop : buffer.dropWhile isTerminator = line ++ rest := by
    rw [hcut.whole, List.dropWhile_append_of_pos hcut.lead, hline]
    simp [hbyte]
  have hbare : Cut (line ++ rest) [] line rest :=
    ⟨rfl, by simp, hcut.nonempty, hcut.free, hcut.ended⟩
  rw [trimmed, hdrop, hbare.rdropWhile_eq, List.nil_append]

/-- What stands in front of a later line is squeezed into a line feed. -/
theorem squeezed_rdropWhile (hlead : ∀ byte ∈ buffer.head?, isTerminator byte = true) :
    squeezed (buffer.rdropWhile isTerminator) = 10 :: squeezed (trimmed buffer) := by
  obtain ⟨byte, tail, hline⟩ := List.exists_cons_of_ne_nil hcut.nonempty
  have hbyte : isTerminator byte = false := hcut.free byte (by simp [hline])
  rw [hcut.rdropWhile_eq, hcut.trimmed_eq]
  refine squeezed_append_of_run (hcut.lead_ne_nil hlead) hcut.lead ?_
  simpa [hline] using hbyte

end Cut

/-- Joining the lines in front of a cursor tidies up the terminators of what remains. -/
theorem Cursor.joined_lines (cursor : Cursor) :
    joined cursor.lines = squeezed (trimmed cursor.remaining) := by
  induction cursor using Cursor.lines.induct with
  | case1 cursor hnone =>
    have hdrop := List.dropWhile_eq_nil_iff.mpr (isTerminator_of_next?_eq_none hnone)
    rw [lines_of_none hnone, trimmed, hdrop]
    rfl
  | case2 cursor line rest hsome ih =>
    obtain ⟨lead, hcut⟩ := exists_cut hsome
    rw [lines_of_some hsome, hcut.trimmed_eq, squeezed_append_of_free hcut.free]
    cases hnext : rest.next? with
    | none =>
      have hdrop := List.rdropWhile_eq_nil_iff.mpr (isTerminator_of_next?_eq_none hnext)
      rw [lines_of_none hnext, hdrop, joined, List.intercalate_singleton, squeezed, List.append_nil]
    | some next =>
      obtain ⟨lead', hcut'⟩ := exists_cut hnext
      have hmore : rest.lines ≠ [] := by
        rw [lines_of_some hnext]
        exact List.cons_ne_nil _ _
      rw [hcut'.squeezed_rdropWhile hcut.ended, ← ih, joined,
        List.intercalate_cons_of_ne_nil hmore, List.append_assoc]
      rfl

/-- Decoding lines is exact. After any number of calls the next one gives the line of that number,
and nothing when there are not that many. The lines are the longest stretches of the buffer without
terminators, each once and by increasing position, so the same as what is left of the pieces between
terminators without the empty ones. A terminator separates the lines in front of it from those
behind it. Joining the lines gives the buffer without the terminators at its ends and with a single
line feed in place of each run in between, and that has the same lines. -/
theorem line_decoding_exact (buffer : Bytes) :
    (∀ count : Nat,
      (Cursor.advance^[count] ⟨buffer⟩).next?.map Prod.fst = (linesOf buffer)[count]?) ∧
    (∃ spans : List (Nat × Nat), spans.Pairwise (fun earlier later => earlier.2 < later.1) ∧
      (∀ start stop, (start, stop) ∈ spans ↔ IsLine buffer start stop) ∧
      linesOf buffer = spans.map fun span => buffer.extract span.1 span.2) ∧
    linesOf buffer = segments buffer ∧
    (∀ front rest t, isTerminator t = true →
      linesOf (front ++ t :: rest) = linesOf front ++ linesOf rest) ∧
    joined (linesOf buffer) = squeezed (trimmed buffer) ∧
    linesOf (joined (linesOf buffer)) = linesOf buffer := by
  refine ⟨Cursor.next?_iterate_advance ⟨buffer⟩, Cursor.exists_spans ⟨buffer⟩,
    linesOf_eq_segments buffer, fun front rest t ht => linesOf_append ht front rest,
    Cursor.joined_lines ⟨buffer⟩, ?_⟩
  exact linesOf_joined (Cursor.free_of_mem_lines ⟨buffer⟩)

/-- A carriage return with a line feed behind it is one boundary, and separates two lines. -/
theorem line_decoding_exact_crlf :
    isTerminator 13 = true ∧
      linesOf ([10, 97] ++ 13 :: [10, 98]) = linesOf [10, 97] ++ linesOf [10, 98] ∧
      linesOf [10, 97, 13, 10, 98] = [[97], [98]] ∧
      joined (linesOf [10, 97, 13, 10, 98]) = [97, 10, 98] := by
  have ht : isTerminator 13 = true := by decide
  obtain ⟨-, -, hsegments, hseparates, hjoined, -⟩ := line_decoding_exact [10, 97, 13, 10, 98]
  refine ⟨ht, hseparates [10, 97] [10, 98] 13 ht, ?_, ?_⟩
  · rw [hsegments]
    decide
  · rw [hjoined]
    decide

end ScriptFiles
