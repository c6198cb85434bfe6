import ScriptFiles.Proofs.Lines
import ScriptFiles.Text.Utf8

/-!
# Reading and cutting commute

A line feed or carriage return among the bytes always comes out as itself, whatever unfinished or
malformed sequence it cuts off, and nothing else comes out as one. So cutting bytes at their
terminators and reading the pieces gives the same as reading all bytes and cutting the characters
at their line breaks.
-/

namespace ScriptFiles

/-- The character of a line feed or of a carriage return. -/
def isLineBreak (c : Char) : Bool :=
  c == '\n' || c == '\r'

namespace Utf8

/-- Only the codes of line feed and carriage return give line breaks. -/
theorem isLineBreak_ofNat {code : Nat} (hfeed : code ≠ 10) (hreturn : code ≠ 13) :
    isLineBreak (Char.ofNat code) = false := by
  by_cases hvalid : code.isValidChar
  · have hcode : (Char.ofNat code).toNat = code := by
      rw [Char.ofNat, dif_pos hvalid]
      rfl
    simp only [isLineBreak, Bool.or_eq_false_iff, beq_eq_false_iff_ne]
    exact ⟨fun heq => hfeed (hcode.symm.trans (congrArg Char.toNat heq)),
      fun heq => hreturn (hcode.symm.trans (congrArg Char.toNat heq))⟩
  · rw [Char.ofNat, dif_neg hvalid]
    rfl

/-- A terminator is the byte of a line break. -/
theorem isLineBreak_of_terminator {byte : UInt8} (hbyte : isTerminator byte = true) :
    isLineBreak (Char.ofNat byte.toNat) = true := by
  simp only [isTerminator, Bool.or_eq_true, beq_iff_eq] at hbyte
  rcases hbyte with rfl | rfl <;> decide

/-- A byte that is no terminator has another code than the line breaks. -/
theorem toNat_ne_of_not_terminator {byte : UInt8} (hbyte : isTerminator byte = false) :
    byte.toNat ≠ 10 ∧ byte.toNat ≠ 13 := by
  simp only [isTerminator, Bool.or_eq_false_iff, beq_eq_false_iff_ne, ne_eq, ← UInt8.toNat_inj]
    at hbyte
  exact hbyte

namespace Progress

/-- Inside a sequence only bytes from 128 to 191 go on with it. With the least of them the bits so
far come to so much that the whole sequence stands for a number above 127. -/
def Sound : Progress → Prop
  | between => True
  | inside missing low high code =>
    0x80 ≤ low ∧ high ≤ 0xBF ∧ (if missing = 0 then 256 else 130) ≤ code * 64 + low.toNat

/-- A first byte leads to a sound place. -/
theorem sound_start (byte : UInt8) : (start byte).1.Sound := by
  unfold start
  repeat' split
  all_goals
    simp_all [Sound, UInt8.lt_iff_toNat_lt, ← UInt8.toNat_inj]
  all_goals omega

/-- A first byte that is no terminator gives no line break. -/
theorem not_isLineBreak_start {byte : UInt8} (hbyte : isTerminator byte = false) :
    ∀ c ∈ (start byte).2, isLineBreak c = false := by
  have hcode := toNat_ne_of_not_terminator hbyte
  have hreplacement : isLineBreak replacement = false := by decide
  unfold start
  repeat' split
  all_goals simp [isLineBreak_ofNat hcode.1 hcode.2, hreplacement]

variable {progress : Progress} {byte : UInt8}

/-- A byte that goes on with a sequence adds its low bits. -/
theorem add_low_bits (bound : Nat) {low high : UInt8} {code : Nat} (hlow : 0x80 ≤ low) (hhigh : high ≤ 0xBF)
    (hbound : bound + 128 ≤ code * 64 + low.toNat) (hbyte : low ≤ byte ∧ byte ≤ high) :
    bound ≤ code * 64 + byte.toNat % 64 := by
  simp only [UInt8.le_iff_toNat_le, UInt8.reduceToNat] at hlow hhigh hbyte
  omega

/-- Every byte leads from a sound place to a sound place. -/
theorem Sound.feed (hsound : progress.Sound) (byte : UInt8) : (progress.feed byte).1.Sound := by
  cases progress with
  | between => exact sound_start byte
  | inside missing low high code =>
    obtain ⟨hlow, hhigh, hcode⟩ := hsound
    rw [Progress.feed]
    split
    · next hbyte =>
      cases missing with
      | zero => trivial
      | succ missing =>
        have hbits := add_low_bits 2 hlow hhigh (by simpa using hcode) hbyte
        refine ⟨UInt8.le_refl _, UInt8.le_refl _, ?_⟩
        have : (0x80 : UInt8).toNat = 128 := rfl
        split <;> omega
    · exact sound_start byte

/-- A byte that is no terminator gives no line break. -/
theorem Sound.not_isLineBreak (hsound : progress.Sound) (hbyte : isTerminator byte = false) :
    ∀ c ∈ (progress.feed byte).2, isLineBreak c = false := by
  cases progress with
  | between => exact not_isLineBreak_start hbyte
  | inside missing low high code =>
    obtain ⟨hlow, hhigh, hcode⟩ := hsound
    rw [Progress.feed]
    split
    · next hcontinues =>
      cases missing with
      | zero =>
        have hbits := add_low_bits 128 hlow hhigh hcode hcontinues
        have hchar : isLineBreak (Char.ofNat (code * 64 + byte.toNat % 64)) = false :=
          isLineBreak_ofNat (by omega) (by omega)
        simpa using hchar
      | succ missing => simp
    · have hreplacement : isLineBreak replacement = false := by decide
      simpa [hreplacement] using not_isLineBreak_start hbyte

/-- What an unfinished sequence gives is no line break. -/
theorem not_isLineBreak_flush (progress : Progress) : ∀ c ∈ progress.flush, isLineBreak c = false := by
  cases progress <;> simp [flush, show isLineBreak replacement = false by decide]

/-- A terminator ends what stood before it and comes out as itself. -/
theorem Sound.read_terminator (hsound : progress.Sound) (hbyte : isTerminator byte = true)
    (rest : Bytes) :
    progress.read (byte :: rest) =
      progress.flush ++ Char.ofNat byte.toNat :: decodeChars rest := by
  have hascii : byte < 0x80 := by
    simp only [isTerminator, Bool.or_eq_true, beq_iff_eq] at hbyte
    rcases hbyte with rfl | rfl <;> decide
  have hfeed := feed_ascii progress byte hascii fun missing low high code heq => by
    rw [heq] at hsound
    exact hsound.1
  rw [read, hfeed, List.append_assoc]
  rfl

/-- Reading on from anywhere and cutting at the line breaks is cutting at the terminators and
reading the pieces, the first one from there. -/
theorem Sound.pieces_read (hsound : progress.Sound) (bytes : Bytes) {first : Bytes}
    {more : List Bytes} (hpieces : Text.pieces isTerminator bytes = first :: more) :
    Text.pieces isLineBreak (progress.read bytes) =
      progress.read first :: more.map decodeChars := by
  induction bytes generalizing progress first more with
  | nil =>
    obtain ⟨rfl, rfl⟩ := List.cons.inj hpieces
    exact Text.pieces_of_none progress.not_isLineBreak_flush
  | cons byte rest ih =>
    obtain ⟨first', more', hrest⟩ := Text.exists_pieces isTerminator rest
    cases hbyte : isTerminator byte with
    | true =>
      have hbetween : between.Sound := trivial
      rw [Text.pieces_cons_of_separator hbyte, hrest] at hpieces
      obtain ⟨rfl, rfl⟩ := List.cons.inj hpieces
      have htail : Text.pieces isLineBreak (decodeChars rest) = (first' :: more').map decodeChars :=
        ih hbetween hrest
      rw [hsound.read_terminator hbyte, Text.pieces_append progress.not_isLineBreak_flush
        (Text.pieces_cons_of_separator (isLineBreak_of_terminator hbyte) _), htail, List.append_nil]
      rfl
    | false =>
      have hsame : first = byte :: first' ∧ more = more' := by
        have hcons : Text.pieces isTerminator ([byte] ++ rest) = ([byte] ++ first') :: more' :=
          Text.pieces_append (by simpa using hbyte) hrest
        rw [List.singleton_append, hpieces] at hcons
        exact List.cons.inj hcons
      obtain ⟨rfl, rfl⟩ := hsame
      exact Text.pieces_append (hsound.not_isLineBreak hbyte) (ih (hsound.feed byte) hrest)

/-- A byte that gives no character yet begins a sequence or goes on with one. -/
theorem feed_ne_between (hnone : (progress.feed byte).2 = []) :
    (progress.feed byte).1 ≠ between := by
  revert hnone
  cases progress with
  | between =>
    rw [feed, start]
    repeat' split
    all_goals simp
  | inside missing low high code =>
    rw [feed]
    split
    · cases missing <;> simp
    · simp

/-- Something comes out of what stands before the reader and of what it has begun. -/
theorem read_ne_nil {bytes : Bytes} (hsome : progress ≠ between ∨ bytes ≠ []) :
    progress.read bytes ≠ [] := by
  induction bytes generalizing progress with
  | nil =>
    cases progress with
    | between => simp at hsome
    | inside missing low high code => simp [read, flush]
  | cons byte rest ih =>
    intro hread
    obtain ⟨hnone, hrest⟩ := List.append_eq_nil_iff.mp hread
    exact ih (Or.inl (feed_ne_between hnone)) hrest

end Progress

/-- Reading and cutting commute. -/
theorem pieces_decodeChars (bytes : Bytes) :
    Text.pieces isLineBreak (decodeChars bytes) =
      (Text.pieces isTerminator bytes).map decodeChars := by
  obtain ⟨first, more, hpieces⟩ := Text.exists_pieces isTerminator bytes
  have hsound : Progress.between.Sound := trivial
  rw [hpieces]
  exact hsound.pieces_read bytes hpieces

/-- Exactly an empty byte list reads as nothing. -/
theorem isEmpty_decodeChars (bytes : Bytes) : (decodeChars bytes).isEmpty = bytes.isEmpty := by
  cases bytes with
  | nil => rfl
  | cons byte rest =>
    have hread : decodeChars (byte :: rest) ≠ [] := Progress.read_ne_nil (Or.inr (by simp))
    simpa using hread

/-- The segments of a buffer, read, are the pieces of the text of the whole buffer that are not
empty. -/
theorem map_decodeChars_segments (buffer : Bytes) :
    (segments buffer).map decodeChars =
      (Text.pieces isLineBreak (decodeChars buffer)).filter (!·.isEmpty) := by
  have hempty : (fun bytes => !(decodeChars bytes).isEmpty) = fun bytes : Bytes => !bytes.isEmpty :=
    funext fun bytes => by rw [isEmpty_decodeChars]
  rw [pieces_decodeChars, List.filter_map, segments]
  exact congrArg (List.map decodeChars) (congrArg (List.filter · _) hempty.symm)

end Utf8
end ScriptFiles
