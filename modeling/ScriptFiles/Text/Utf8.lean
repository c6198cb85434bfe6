/-!
# Text as bytes

Characters and their UTF-8 bytes. `encode` writes a text, `decodeLossy` reads any byte list:
well-formed sequences give their characters and each maximal part that cannot be continued to a
well-formed sequence gives one replacement character. The reader is a machine that takes one
byte at a time, so a byte below 128 always ends whatever stood before it.

`WellFormed` is the table of well-formed sequences by ranges of bytes; it mentions neither the
writer nor the reader.
-/

namespace ScriptFiles

/-- A list of bytes, as files hold them. -/
abbrev Bytes := List UInt8

namespace Utf8

/-- The bytes of a list of characters. -/
def encodeChars (text : List Char) : Bytes :=
  text.flatMap String.utf8EncodeChar

/-- The bytes of a text. -/
def encode (text : String) : Bytes :=
  encodeChars text.toList

/-- What stands for bytes that are no character. -/
def replacement : Char := '\uFFFD'

/-- Where the reader stands: between characters, or inside a sequence that still needs
`missing + 1` bytes, the next of them between `low` and `high`; `code` holds the bits so far. -/
inductive Progress
  | between
  | inside (missing : Nat) (low high : UInt8) (code : Nat)
deriving DecidableEq, Repr

/-- What a byte does at the start of a character. -/
def start (byte : UInt8) : Progress × List Char :=
  if byte < 0x80 then (.between, [Char.ofNat byte.toNat])
  else if byte < 0xC2 then (.between, [replacement])
  else if byte < 0xE0 then (.inside 0 0x80 0xBF (byte.toNat % 32), [])
  else if byte = 0xE0 then (.inside 1 0xA0 0xBF 0, [])
  else if byte = 0xED then (.inside 1 0x80 0x9F 13, [])
  else if byte < 0xF0 then (.inside 1 0x80 0xBF (byte.toNat % 16), [])
  else if byte = 0xF0 then (.inside 2 0x90 0xBF 0, [])
  else if byte < 0xF4 then (.inside 2 0x80 0xBF (byte.toNat % 8), [])
  else if byte = 0xF4 then (.inside 2 0x80 0x8F 4, [])
  else (.between, [replacement])

/-- What an unfinished sequence gives when nothing more follows. -/
def Progress.flush : Progress → List Char
  | .between => []
  | .inside .. => [replacement]

/-- Takes one byte. -/
def Progress.feed : Progress → UInt8 → Progress × List Char
  | .between, byte => start byte
  | .inside missing low high code, byte =>
    if low ≤ byte ∧ byte ≤ high then
      let code := code * 64 + byte.toNat % 64
      match missing with
      | 0 => (.between, [Char.ofNat code])
      | missing + 1 => (.inside missing 0x80 0xBF code, [])
    else
      let next := start byte
      (next.1, replacement :: next.2)

/-- Reads the remaining bytes from where the reader stands. -/
def Progress.read : Progress → Bytes → List Char
  | progress, [] => progress.flush
  | progress, byte :: rest =>
    let next := progress.feed byte
    next.2 ++ next.1.read rest

/-- The characters of any byte list. -/
def decodeChars (bytes : Bytes) : List Char :=
  Progress.between.read bytes

/-- The text of any byte list, with one replacement character for each maximal invalid part. -/
def decodeLossy (bytes : Bytes) : String :=
  String.ofList (decodeChars bytes)

/-- A byte that continues a sequence. -/
def IsTail (byte : UInt8) : Prop := 0x80 ≤ byte ∧ byte ≤ 0xBF

/-- One well-formed sequence, by the ranges of its bytes. -/
inductive Sequence : Bytes → Prop
  | one {a : UInt8} : a ≤ 0x7F → Sequence [a]
  | two {a b : UInt8} : 0xC2 ≤ a → a ≤ 0xDF → IsTail b → Sequence [a, b]
  | threeLow {b c : UInt8} : 0xA0 ≤ b → b ≤ 0xBF → IsTail c → Sequence [0xE0, b, c]
  | three {a b c : UInt8} : (0xE1 ≤ a ∧ a ≤ 0xEC) ∨ (0xEE ≤ a ∧ a ≤ 0xEF) → IsTail b → IsTail c →
      Sequence [a, b, c]
  | threeHigh {b c : UInt8} : 0x80 ≤ b → b ≤ 0x9F → IsTail c → Sequence [0xED, b, c]
  | fourLow {b c d : UInt8} : 0x90 ≤ b → b ≤ 0xBF → IsTail c → IsTail d → Sequence [0xF0, b, c, d]
  | four {a b c d : UInt8} : 0xF1 ≤ a → a ≤ 0xF3 → IsTail b → IsTail c → IsTail d →
      Sequence [a, b, c, d]
  | fourHigh {b c d : UInt8} : 0x80 ≤ b → b ≤ 0x8F → IsTail c → IsTail d → Sequence [0xF4, b, c, d]

/-- A list of well-formed sequences. -/
inductive WellFormed : Bytes → Prop
  | nil : WellFormed []
  | append {head tail : Bytes} : Sequence head → WellFormed tail → WellFormed (head ++ tail)

/-- A byte below 128 ends what stood before it and is a character itself. -/
theorem feed_ascii (progress : Progress) (byte : UInt8) (h : byte < 0x80)
    (low : ∀ missing lo hi code, progress = .inside missing lo hi code → 0x80 ≤ lo) :
    progress.feed byte = (.between, progress.flush ++ [Char.ofNat byte.toNat]) := by
  cases progress with
  | between => simp [Progress.feed, start, h, Progress.flush]
  | inside missing lo hi code =>
    have bound := low missing lo hi code rfl
    have out : ¬ (lo ≤ byte ∧ byte ≤ hi) := fun inside =>
      absurd (UInt8.lt_of_lt_of_le h (UInt8.le_trans bound inside.1)) (UInt8.lt_irrefl byte)
    simp [Progress.feed, out, start, h, Progress.flush]

end Utf8
end ScriptFiles
