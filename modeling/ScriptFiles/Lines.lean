import ScriptFiles.Text.Pieces
import ScriptFiles.Text.Utf8

/-!
# Lines of a byte buffer

A line feed and a carriage return both end a line, and a run of them counts as one boundary, so
no line is ever empty. `Cursor` walks a buffer line by line and keeps nothing but what remains;
`segments` says the same without a cursor: cut at every terminator and drop the empty pieces.
-/

namespace ScriptFiles

/-- A line feed or a carriage return. -/
def isTerminator (byte : UInt8) : Bool :=
  byte == 10 || byte == 13

/-- A position in a buffer: the bytes that have not been walked over. -/
structure Cursor where
  remaining : Bytes
deriving DecidableEq, Repr

namespace Cursor

/-- The next line and the cursor just after it; no line once only terminators are left. -/
def next? (cursor : Cursor) : Option (Bytes × Cursor) :=
  match cursor.remaining.dropWhile isTerminator with
  | [] => none
  | byte :: rest =>
    let line := (byte :: rest).takeWhile (!isTerminator ·)
    some (line, ⟨(byte :: rest).dropWhile (!isTerminator ·)⟩)

/-- The cursor after asking for a line, whether or not there was one. -/
def advance (cursor : Cursor) : Cursor :=
  match cursor.next? with
  | some (_, rest) => rest
  | none => ⟨[]⟩

/-- The least and the greatest number of lines that may still come, by length alone: a line and
its terminator take two bytes, a last line may lack its terminator. -/
def sizeHint (cursor : Cursor) : Nat × Nat :=
  (0, (cursor.remaining.length + 1) / 2)

/-- Dropping bytes from the front lengthens nothing. -/
theorem length_dropWhile_le (p : UInt8 → Bool) (bytes : Bytes) :
    (bytes.dropWhile p).length ≤ bytes.length :=
  (List.dropWhile_sublist p).length_le

/-- A next line uses bytes up. -/
theorem next?_shorter {cursor rest : Cursor} {line : Bytes}
    (h : cursor.next? = some (line, rest)) : rest.remaining.length < cursor.remaining.length := by
  unfold next? at h
  split at h
  · contradiction
  · next byte tail drop =>
    simp only [Option.some.injEq, Prod.mk.injEq] at h
    obtain ⟨-, rfl⟩ := h
    have whole : (byte :: tail).length ≤ cursor.remaining.length := by
      rw [← drop]; exact length_dropWhile_le _ _
    have head : isTerminator byte = false := by
      have := List.head?_dropWhile_not isTerminator cursor.remaining
      rw [drop] at this
      simpa using this
    have step : ((byte :: tail).dropWhile (!isTerminator ·)).length ≤ tail.length := by
      rw [List.dropWhile_cons]
      simp only [head, Bool.not_false, if_true]
      exact length_dropWhile_le _ _
    simp only [List.length_cons] at whole
    simp only
    omega

/-- All lines from the cursor on. -/
def lines (cursor : Cursor) : List Bytes :=
  match _h : cursor.next? with
  | none => []
  | some (line, rest) => line :: rest.lines
termination_by cursor.remaining.length
decreasing_by exact next?_shorter _h

/-- Without a next line there are no lines. -/
theorem lines_of_none {cursor : Cursor} (h : cursor.next? = none) : cursor.lines = [] := by
  rw [lines]
  split
  · rfl
  · next heq => rw [h] at heq; contradiction

/-- The next line is the first of all lines. -/
theorem lines_of_some {cursor rest : Cursor} {line : Bytes}
    (h : cursor.next? = some (line, rest)) : cursor.lines = line :: rest.lines := by
  rw [lines]
  split
  · next heq => rw [h] at heq; contradiction
  · next heq =>
    rw [h] at heq
    cases heq
    rfl

end Cursor

/-- The lines of a buffer. -/
def linesOf (buffer : Bytes) : List Bytes :=
  (Cursor.mk buffer).lines

/-- The non-empty pieces between terminators. -/
def segments (buffer : Bytes) : List Bytes :=
  (Text.pieces isTerminator buffer).filter (!·.isEmpty)

end ScriptFiles
