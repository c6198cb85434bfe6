import ScriptFiles.Text.Shapeless
import ScriptFiles.Text.Utf8

/-!
# Quoted text

The debug form of texts and bytes: double quotes around it and escapes inside. A text escapes
the quote, the backslash, line ends, the tab and NUL by name and characters without a shape by
code point. Bytes are shown as ASCII characters where they are printable and by two hexadecimal
digits elsewhere.
-/

namespace ScriptFiles.Quoted

/-- The lower-case hexadecimal digits of a number, at least `width` of them. -/
def hexChars (width n : Nat) : List Char :=
  let ds := Nat.toDigits 16 n
  List.replicate (width - ds.length) '0' ++ ds

/-- One character of a quoted text. -/
def charEscape (c : Char) : List Char :=
  if c = '"' then ['\\', '"']
  else if c = '\\' then ['\\', '\\']
  else if c = '\n' then ['\\', 'n']
  else if c = '\r' then ['\\', 'r']
  else if c = '\t' then ['\\', 't']
  else if c = '\x00' then ['\\', '0']
  else if Text.isShapeless c then '\\' :: 'u' :: '\x7b' :: hexChars 1 c.toNat ++ ['\x7d']
  else [c]

/-- A text in quotes. -/
def text (s : String) : String :=
  String.ofList ('"' :: s.toList.flatMap charEscape ++ ['"'])

/-- One byte of a quoted byte list. -/
def byteEscape (byte : UInt8) : List Char :=
  if byte = 34 then ['\\', '"']
  else if byte = 92 then ['\\', '\\']
  else if byte = 10 then ['\\', 'n']
  else if byte = 13 then ['\\', 'r']
  else if byte = 9 then ['\\', 't']
  else if byte = 0 then ['\\', '0']
  else if 32 ≤ byte ∧ byte < 127 then [Char.ofNat byte.toNat]
  else '\\' :: 'x' :: hexChars 2 byte.toNat

/-- Bytes in quotes, marked by a `b`. -/
def bytes (bs : Bytes) : String :=
  String.ofList ('b' :: '"' :: bs.flatMap byteEscape ++ ['"'])

end ScriptFiles.Quoted
