import ScriptFiles.Lines
import ScriptFiles.Proofs.Text.Pieces

/-!
# Lines and pieces

Walking over a buffer line by line gives the same lines as cutting it at every terminator and
dropping the empty pieces.
-/

namespace ScriptFiles

/-- Terminators in front of a buffer do not count. -/
theorem segments_dropWhile (buffer : Bytes) :
    segments (buffer.dropWhile isTerminator) = segments buffer := by
  induction buffer with
  | nil => rfl
  | cons byte rest ih =>
    rw [List.dropWhile_cons]
    split
    · next hbyte =>
      rw [ih]
      simp [segments, Text.pieces_cons_of_separator hbyte]
    · rfl

/-- The bytes up to the next terminator are the first segment of a buffer that starts with none. -/
theorem segments_cons {byte : UInt8} (hbyte : isTerminator byte = false) (rest : Bytes) :
    segments (byte :: rest) = (byte :: rest).takeWhile (!isTerminator ·) ::
      segments ((byte :: rest).dropWhile (!isTerminator ·)) := by
  obtain ⟨more, hmore⟩ := Text.exists_pieces_dropWhile isTerminator (byte :: rest)
  have hfront : ∀ b ∈ (byte :: rest).takeWhile (!isTerminator ·), isTerminator b = false := by
    intro b hb
    simpa using List.all_eq_true.mp List.all_takeWhile b hb
  have hpieces := Text.pieces_append hfront hmore
  rw [List.takeWhile_append_dropWhile, List.append_nil] at hpieces
  have hfull : ((byte :: rest).takeWhile (!isTerminator ·)).isEmpty = false := by
    simp [hbyte]
  simp only [segments, hpieces, hmore]
  simp [hfull]

/-- The lines that a cursor has in front of it are the segments of what remains. -/
theorem Cursor.lines_eq_segments (cursor : Cursor) : cursor.lines = segments cursor.remaining := by
  induction cursor using Cursor.lines.induct with
  | case1 cursor hnone =>
    rw [Cursor.lines_of_none hnone, ← segments_dropWhile]
    unfold Cursor.next? at hnone
    split at hnone
    · next hdrop => rw [hdrop]; rfl
    · contradiction
  | case2 cursor line rest hsome ih =>
    rw [Cursor.lines_of_some hsome, ih, ← segments_dropWhile cursor.remaining]
    unfold Cursor.next? at hsome
    split at hsome
    · contradiction
    · next byte tail hdrop =>
      obtain ⟨rfl, rfl⟩ := Prod.mk.inj (Option.some.inj hsome)
      have hbyte : isTerminator byte = false := by
        have hhead := List.head?_dropWhile_not isTerminator cursor.remaining
        simpa [hdrop] using hhead
      rw [hdrop, segments_cons hbyte]

/-- The lines of a buffer are its segments. -/
theorem linesOf_eq_segments (buffer : Bytes) : linesOf buffer = segments buffer :=
  Cursor.lines_eq_segments ⟨buffer⟩

end ScriptFiles
