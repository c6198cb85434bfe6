import ScriptFiles.Bridge.Entry
import Mathlib.Tactic.SplitIfs

/-!
# Text to bytes and back

Writing a text and reading the bytes gives the text again: a character is written as one
well-formed sequence, and a well-formed sequence is read as the one character that is written so.
Reading and writing the other way round gives the bytes again exactly when they are well-formed,
and what it gives is well-formed in any case, so that a second time changes nothing.

`Sequence.code` is the number that the bytes of a sequence stand for. It ties the two directions
together: the reader gives the character of that number, and the writer spells that number.
-/

namespace ScriptFiles
namespace Utf8

variable {a b c d : UInt8} {head bytes : Bytes}

/-- The number that the bytes of a well-formed sequence stand for. -/
def Sequence.code : Bytes → Nat
  | [a] => a.toNat
  | [a, b] => a.toNat % 32 * 64 + b.toNat % 64
  | [a, b, c] => (a.toNat % 16 * 64 + b.toNat % 64) * 64 + c.toNat % 64
  | [a, b, c, d] => ((a.toNat % 8 * 64 + b.toNat % 64) * 64 + c.toNat % 64) * 64 + d.toNat % 64
  | _ => 0

/-! ## Reading one sequence -/

namespace Progress

variable {missing : Nat} {low high : UInt8} {code : Nat}

/-- The last byte of a sequence gives its character. -/
theorem read_last (hbyte : low ≤ b ∧ b ≤ high) (rest : Bytes) :
    (inside 0 low high code).read (b :: rest) =
      Char.ofNat (code * 64 + b.toNat % 64) :: decodeChars rest := by
  rw [read, feed, if_pos hbyte]
  rfl

/-- Any other byte that goes on with a sequence adds its low bits. -/
theorem read_more (hbyte : low ≤ b ∧ b ≤ high) (rest : Bytes) :
    (inside (missing + 1) low high code).read (b :: rest) =
      (inside missing 0x80 0xBF (code * 64 + b.toNat % 64)).read rest := by
  rw [read, feed, if_pos hbyte]
  rfl

end Progress

/-- The first byte of a sequence of two. -/
theorem start_two (hlow : 0xC2 ≤ a) (hhigh : a ≤ 0xDF) :
    start a = (.inside 0 0x80 0xBF (a.toNat % 32), []) := by
  simp only [UInt8.le_iff_toNat_le, UInt8.reduceToNat] at hlow hhigh
  simp only [start, UInt8.lt_iff_toNat_lt, UInt8.reduceToNat]
  rw [if_neg (by omega), if_neg (by omega), if_pos (by omega)]

/-- The first byte of a sequence of three whose second byte is not restricted. -/
theorem start_three (ha : (0xE1 ≤ a ∧ a ≤ 0xEC) ∨ (0xEE ≤ a ∧ a ≤ 0xEF)) :
    start a = (.inside 1 0x80 0xBF (a.toNat % 16), []) := by
  simp only [UInt8.le_iff_toNat_le, UInt8.reduceToNat] at ha
  simp only [start, UInt8.lt_iff_toNat_lt, ← UInt8.toNat_inj, UInt8.reduceToNat]
  rw [if_neg (by omega), if_neg (by omega), if_neg (by omega), if_neg (by omega),
    if_neg (by omega), if_pos (by omega)]

/-- The first byte of a sequence of four whose second byte is not restricted. -/
theorem start_four (hlow : 0xF1 ≤ a) (hhigh : a ≤ 0xF3) :
    start a = (.inside 2 0x80 0xBF (a.toNat % 8), []) := by
  simp only [UInt8.le_iff_toNat_le, UInt8.reduceToNat] at hlow hhigh
  simp only [start, UInt8.lt_iff_toNat_lt, ← UInt8.toNat_inj, UInt8.reduceToNat]
  rw [if_neg (by omega), if_neg (by omega), if_neg (by omega), if_neg (by omega),
    if_neg (by omega), if_neg (by omega), if_neg (by omega), if_pos (by omega)]

/-- A byte list is read from its first byte on. -/
theorem decodeChars_cons (a : UInt8) (rest : Bytes) :
    decodeChars (a :: rest) = (start a).2 ++ (start a).1.read rest :=
  rfl

/-- A well-formed sequence gives one character and leaves the rest alone. -/
theorem Sequence.decodeChars_append (hhead : Sequence head) (rest : Bytes) :
    decodeChars (head ++ rest) = Char.ofNat (Sequence.code head) :: decodeChars rest := by
  cases hhead with
  | @one a ha =>
    have hascii : a < 0x80 := by
      simp only [UInt8.le_iff_toNat_le, UInt8.lt_iff_toNat_lt, UInt8.reduceToNat] at ha ⊢
      omega
    rw [List.singleton_append, decodeChars_cons, start, if_pos hascii]
    rfl
  | two hlow hhigh hb =>
    rw [List.cons_append, decodeChars_cons, start_two hlow hhigh]
    exact Progress.read_last hb rest
  | threeLow hlow hhigh hc =>
    exact (Progress.read_more ⟨hlow, hhigh⟩ _).trans (Progress.read_last hc rest)
  | three ha hb hc =>
    rw [List.cons_append, decodeChars_cons, start_three ha]
    exact (Progress.read_more hb _).trans (Progress.read_last hc rest)
  | threeHigh hlow hhigh hc =>
    exact (Progress.read_more ⟨hlow, hhigh⟩ _).trans (Progress.read_last hc rest)
  | fourLow hlow hhigh hc hd =>
    exact (Progress.read_more ⟨hlow, hhigh⟩ _).trans
      ((Progress.read_more hc _).trans (Progress.read_last hd rest))
  | four hlow hhigh hb hc hd =>
    rw [List.cons_append, decodeChars_cons, start_four hlow hhigh]
    exact (Progress.read_more hb _).trans
      ((Progress.read_more hc _).trans (Progress.read_last hd rest))
  | fourHigh hlow hhigh hc hd =>
    exact (Progress.read_more ⟨hlow, hhigh⟩ _).trans
      ((Progress.read_more hc _).trans (Progress.read_last hd rest))

/-! ## Sequences and characters -/

/-- Six low bits and the mark of a tail are a tail. -/
theorem isTail_ofNat (n : Nat) : IsTail (UInt8.ofNat (n % 64 + 128)) := by
  simp only [IsTail, UInt8.le_iff_toNat_le, UInt8.toNat_ofNat', UInt8.reduceToNat]
  omega

/-- A character of the three-byte range is written as a well-formed sequence. -/
theorem sequence_three {n : Nat} (hlow : 0x800 ≤ n) (hhigh : n < 0x10000)
    (hvalid : n < 0xD800 ∨ 0xDFFF < n) :
    Sequence [UInt8.ofNat (n / 4096 % 16 + 224), UInt8.ofNat (n / 64 % 64 + 128),
      UInt8.ofNat (n % 64 + 128)] := by
  -- the second byte is restricted after the first lead byte, which would allow overlong forms, and
  -- after the lead byte of the surrogates
  by_cases hlead : n / 4096 = 0
  · rw [hlead]
    refine .threeLow ?_ (isTail_ofNat _).2 (isTail_ofNat _)
    simp only [UInt8.le_iff_toNat_le, UInt8.toNat_ofNat', UInt8.reduceToNat]
    omega
  by_cases hsurrogate : n / 4096 = 13
  · rw [hsurrogate]
    refine .threeHigh (isTail_ofNat _).1 ?_ (isTail_ofNat _)
    simp only [UInt8.le_iff_toNat_le, UInt8.toNat_ofNat', UInt8.reduceToNat]
    omega
  · refine .three ?_ (isTail_ofNat _) (isTail_ofNat _)
    simp only [UInt8.le_iff_toNat_le, UInt8.toNat_ofNat', UInt8.reduceToNat]
    omega

/-- A character of the four-byte range is written as a well-formed sequence. -/
theorem sequence_four {n : Nat} (hlow : 0x10000 ≤ n) (hhigh : n < 0x110000) :
    Sequence [UInt8.ofNat (n / 262144 % 8 + 240), UInt8.ofNat (n / 4096 % 64 + 128),
      UInt8.ofNat (n / 64 % 64 + 128), UInt8.ofNat (n % 64 + 128)] := by
  -- likewise after the first lead byte and after the last, which goes beyond the last character
  by_cases hlead : n / 262144 = 0
  · rw [hlead]
    refine .fourLow ?_ (isTail_ofNat _).2 (isTail_ofNat _) (isTail_ofNat _)
    simp only [UInt8.le_iff_toNat_le, UInt8.toNat_ofNat', UInt8.reduceToNat]
    omega
  by_cases hlast : n / 262144 = 4
  · rw [hlast]
    refine .fourHigh (isTail_ofNat _).1 ?_ (isTail_ofNat _) (isTail_ofNat _)
    simp only [UInt8.le_iff_toNat_le, UInt8.toNat_ofNat', UInt8.reduceToNat]
    omega
  · refine .four ?_ ?_ (isTail_ofNat _) (isTail_ofNat _) (isTail_ofNat _)
    · simp only [UInt8.le_iff_toNat_le, UInt8.toNat_ofNat', UInt8.reduceToNat]
      omega
    · simp only [UInt8.le_iff_toNat_le, UInt8.toNat_ofNat', UInt8.reduceToNat]
      omega

/-- What a character is written as is a well-formed sequence. -/
theorem sequence_utf8EncodeChar (c : Char) : Sequence (String.utf8EncodeChar c) := by
  have hvalid : c.val.toNat < 0xD800 ∨ (0xDFFF < c.val.toNat ∧ c.val.toNat < 0x110000) := c.valid
  unfold String.utf8EncodeChar
  generalize c.val.toNat = n at hvalid
  dsimp only
  split
  · next hone =>
    refine .one ?_
    simp only [UInt8.le_iff_toNat_le, UInt8.toNat_ofNat', UInt8.reduceToNat]
    omega
  split
  · next htwo =>
    refine .two ?_ ?_ (isTail_ofNat _)
    · simp only [UInt8.le_iff_toNat_le, UInt8.toNat_ofNat', UInt8.reduceToNat]
      omega
    · simp only [UInt8.le_iff_toNat_le, UInt8.toNat_ofNat', UInt8.reduceToNat]
      omega
  split
  · next hthree => exact sequence_three (by omega) (by omega) (by omega)
  · next hfour => exact sequence_four (by omega) (by omega)

/-- The bytes of a character stand for its number. -/
theorem code_utf8EncodeChar (c : Char) : Sequence.code (String.utf8EncodeChar c) = c.toNat := by
  have hvalid : c.val.toNat < 0xD800 ∨ (0xDFFF < c.val.toNat ∧ c.val.toNat < 0x110000) := c.valid
  change _ = c.val.toNat
  unfold String.utf8EncodeChar
  generalize c.val.toNat = n at hvalid
  dsimp only
  split_ifs
  all_goals
    simp only [Sequence.code, UInt8.toNat_ofNat']
    omega

/-- The written form of a number that is a character, in terms of the number. -/
theorem utf8EncodeChar_ofNat {n : Nat} (hvalid : n.isValidChar) :
    String.utf8EncodeChar (Char.ofNat n) =
      if n ≤ 0x7F then [UInt8.ofNat n]
      else if n ≤ 0x7FF then [UInt8.ofNat (n / 64 % 32 + 192), UInt8.ofNat (n % 64 + 128)]
      else if n ≤ 0xFFFF then
        [UInt8.ofNat (n / 4096 % 16 + 224), UInt8.ofNat (n / 64 % 64 + 128),
          UInt8.ofNat (n % 64 + 128)]
      else
        [UInt8.ofNat (n / 262144 % 8 + 240), UInt8.ofNat (n / 4096 % 64 + 128),
          UInt8.ofNat (n / 64 % 64 + 128), UInt8.ofNat (n % 64 + 128)] := by
  have hnum : (Char.ofNat n).val.toNat = n := by
    rw [Char.ofNat, dif_pos hvalid]
    rfl
  rw [String.utf8EncodeChar]
  simp only [hnum]

/-- A byte is the byte of its number. -/
theorem ofNat_eq_of_toNat {n : Nat} (a : UInt8) (h : a.toNat = n) : UInt8.ofNat n = a := by
  rw [← h, UInt8.ofNat_toNat]

/-- Two bytes are what the character of their number is written as. -/
theorem utf8EncodeChar_two (hlow : 0xC2 ≤ a) (hhigh : a ≤ 0xDF) (hb : IsTail b) :
    String.utf8EncodeChar (Char.ofNat (Sequence.code [a, b])) = [a, b] := by
  simp only [IsTail, UInt8.le_iff_toNat_le, UInt8.reduceToNat] at hlow hhigh hb
  have hcode : Sequence.code [a, b] = a.toNat % 32 * 64 + b.toNat % 64 := rfl
  rw [utf8EncodeChar_ofNat (by unfold Nat.isValidChar; omega), if_neg (by omega), if_pos (by omega),
    ofNat_eq_of_toNat a (by omega), ofNat_eq_of_toNat b (by omega)]

/-- Three bytes are what the character of their number is written as, if that number needs three
bytes and is no surrogate. -/
theorem utf8EncodeChar_three (hlow : 0xE0 ≤ a) (hhigh : a ≤ 0xEF) (hb : IsTail b) (hc : IsTail c)
    (hlong : a = 0xE0 → 0xA0 ≤ b) (hvalid : a = 0xED → b ≤ 0x9F) :
    String.utf8EncodeChar (Char.ofNat (Sequence.code [a, b, c])) = [a, b, c] := by
  simp only [IsTail, UInt8.le_iff_toNat_le, ← UInt8.toNat_inj, UInt8.reduceToNat] at *
  have hcode : Sequence.code [a, b, c] =
    (a.toNat % 16 * 64 + b.toNat % 64) * 64 + c.toNat % 64 := rfl
  rw [utf8EncodeChar_ofNat (by unfold Nat.isValidChar; omega), if_neg (by omega), if_neg (by omega),
    if_pos (by omega), ofNat_eq_of_toNat a (by omega), ofNat_eq_of_toNat b (by omega),
    ofNat_eq_of_toNat c (by omega)]

/-- Four bytes are what the character of their number is written as, if that number needs four
bytes and is not beyond the last character. -/
theorem utf8EncodeChar_four (hlow : 0xF0 ≤ a) (hhigh : a ≤ 0xF4) (hb : IsTail b) (hc : IsTail c)
    (hd : IsTail d) (hlong : a = 0xF0 → 0x90 ≤ b) (hvalid : a = 0xF4 → b ≤ 0x8F) :
    String.utf8EncodeChar (Char.ofNat (Sequence.code [a, b, c, d])) = [a, b, c, d] := by
  simp only [IsTail, UInt8.le_iff_toNat_le, ← UInt8.toNat_inj, UInt8.reduceToNat] at *
  have hcode : Sequence.code [a, b, c, d] =
    ((a.toNat % 8 * 64 + b.toNat % 64) * 64 + c.toNat % 64) * 64 + d.toNat % 64 := rfl
  rw [utf8EncodeChar_ofNat (by unfold Nat.isValidChar; omega), if_neg (by omega), if_neg (by omega),
    if_neg (by omega), ofNat_eq_of_toNat a (by omega), ofNat_eq_of_toNat b (by omega),
    ofNat_eq_of_toNat c (by omega), ofNat_eq_of_toNat d (by omega)]

/-- Every well-formed sequence is what the character of its number is written as. -/
theorem Sequence.utf8EncodeChar_ofNat (hhead : Sequence head) :
    String.utf8EncodeChar (Char.ofNat (Sequence.code head)) = head := by
  cases hhead with
  | @one a ha =>
    simp only [UInt8.le_iff_toNat_le, UInt8.reduceToNat] at ha
    have hcode : Sequence.code [a] = a.toNat := rfl
    rw [Utf8.utf8EncodeChar_ofNat (by unfold Nat.isValidChar; omega), if_pos (by omega), hcode,
      UInt8.ofNat_toNat]
  | two hlow hhigh hb => exact utf8EncodeChar_two hlow hhigh hb
  | threeLow hlow hhigh hc =>
    exact utf8EncodeChar_three (by decide) (by decide) ⟨UInt8.le_trans (by decide) hlow, hhigh⟩ hc
      (fun _ => hlow) (by simp)
  | three ha hb hc =>
    simp only [UInt8.le_iff_toNat_le, UInt8.reduceToNat] at ha
    exact utf8EncodeChar_three (by simp only [UInt8.le_iff_toNat_le, UInt8.reduceToNat]; omega)
      (by simp only [UInt8.le_iff_toNat_le, UInt8.reduceToNat]; omega) hb hc
      (by rintro rfl; simp at ha) (by rintro rfl; simp at ha)
  | threeHigh hlow hhigh hc =>
    exact utf8EncodeChar_three (by decide) (by decide) ⟨hlow, UInt8.le_trans hhigh (by decide)⟩ hc
      (by simp) (fun _ => hhigh)
  | fourLow hlow hhigh hc hd =>
    exact utf8EncodeChar_four (by decide) (by decide) ⟨UInt8.le_trans (by decide) hlow, hhigh⟩ hc hd
      (fun _ => hlow) (by simp)
  | four hlow hhigh hb hc hd =>
    exact utf8EncodeChar_four (UInt8.le_trans (by decide) hlow) (UInt8.le_trans hhigh (by decide))
      hb hc hd (by rintro rfl; simp at hlow) (by rintro rfl; simp at hhigh)
  | fourHigh hlow hhigh hc hd =>
    exact utf8EncodeChar_four (by decide) (by decide) ⟨hlow, UInt8.le_trans hhigh (by decide)⟩ hc hd
      (by simp) (fun _ => hhigh)

/-! ## Whole texts -/

/-- Reading what was written gives the text again. -/
theorem decodeChars_encodeChars (text : List Char) : decodeChars (encodeChars text) = text := by
  induction text with
  | nil => rfl
  | cons c rest ih =>
    have hwritten : encodeChars (c :: rest) = String.utf8EncodeChar c ++ encodeChars rest := rfl
    rw [hwritten, (sequence_utf8EncodeChar c).decodeChars_append, code_utf8EncodeChar,
      Char.ofNat_toNat, ih]

/-- What is written is well-formed. -/
theorem wellFormed_encodeChars (text : List Char) : WellFormed (encodeChars text) := by
  induction text with
  | nil => exact .nil
  | cons c rest ih => exact .append (sequence_utf8EncodeChar c) ih

/-- Well-formed bytes are the written form of what they are read as. -/
theorem WellFormed.encodeChars_decodeChars (hbytes : WellFormed bytes) :
    encodeChars (decodeChars bytes) = bytes := by
  induction hbytes with
  | nil => rfl
  | @append head tail hhead _ ih =>
    rw [hhead.decodeChars_append]
    change String.utf8EncodeChar _ ++ encodeChars (decodeChars tail) = head ++ tail
    rw [hhead.utf8EncodeChar_ofNat, ih]

/-- Decoding gets an encoded text back. -/
theorem decodeLossy_encode (text : String) : decodeLossy (encode text) = text := by
  rw [decodeLossy, encode, decodeChars_encodeChars, String.ofList_toList]

/-- Encoding a decoded text is encoding the characters that the bytes stand for. -/
theorem encode_decodeLossy (bytes : Bytes) :
    encode (decodeLossy bytes) = encodeChars (decodeChars bytes) := by
  rw [encode, decodeLossy, String.toList_ofList]

/-- Reading and writing again keeps exactly the well-formed byte lists. -/
theorem encode_decodeLossy_eq_iff : encode (decodeLossy bytes) = bytes ↔ WellFormed bytes := by
  rw [encode_decodeLossy]
  constructor
  · intro hsame
    rw [← hsame]
    exact wellFormed_encodeChars _
  · exact WellFormed.encodeChars_decodeChars

end Utf8

namespace Value

/-- The bytes of the string form of a buffer. -/
def rewritten (buffer : Bytes) : Bytes :=
  (string (Value.buffer buffer).text).bytes

/-- The byte view of a value, read as a buffer, has the string form of the value. -/
theorem text_buffer_bytes (v : Value) : (buffer v.bytes).text = v.text := by
  cases v with
  | buffer => rfl
  | undefined | null | bool | number | string | object | function => exact Utf8.decodeLossy_encode _

/-- Whatever is written to a file reads back, as a buffer, with the string form it had before. And
writing the string form of a buffer gives the buffer again exactly when it is well-formed; what it
gives is well-formed in any case, and doing it again changes nothing. -/
theorem coercion_round_trips :
    (∀ v : Value, (buffer v.bytes).text = v.text) ∧
    (∀ arguments : List Value, ∃ path data,
      Operation.write.request arguments = .write path data ∧
        (buffer data).text = (argument arguments 1).text) ∧
    ∀ bytes : Bytes,
      (rewritten bytes = bytes ↔ Utf8.WellFormed bytes) ∧
      Utf8.WellFormed (rewritten bytes) ∧
      rewritten (rewritten bytes) = rewritten bytes := by
  refine ⟨text_buffer_bytes, fun arguments => ⟨_, _, rfl, text_buffer_bytes _⟩, fun bytes => ?_⟩
  have hform : Utf8.WellFormed (rewritten bytes) := Utf8.wellFormed_encodeChars _
  exact ⟨Utf8.encode_decodeLossy_eq_iff, hform, Utf8.encode_decodeLossy_eq_iff.mpr hform⟩

/-- An overlong sequence is replaced twice; the replacements are kept from then on. -/
example :
    rewritten [0xC0, 0x80] = [0xEF, 0xBF, 0xBD, 0xEF, 0xBF, 0xBD] ∧
      rewritten [0xEF, 0xBF, 0xBD, 0xEF, 0xBF, 0xBD] = [0xEF, 0xBF, 0xBD, 0xEF, 0xBF, 0xBD] := by
  decide +kernel

end Value
end ScriptFiles
