import ScriptFiles.Calendar
import ScriptFiles.Number.Text
import ScriptFiles.Text.Blank

/-!
# Timestamps

Points in time as written in log entries: a date, a time of day and an offset from universal
time. Reading allows blanks around the parts of date and time, either case of the letters and a
leap second; writing uses universal time and as many digits of a second as are needed, three at
a time.
-/

namespace ScriptFiles.Log

/-- A point in time in universal time; a leap second counts its nanoseconds beyond one second. -/
structure Timestamp where
  seconds : Int
  nanoseconds : Nat
deriving DecidableEq, Repr

namespace Timestamp

/-- What comes after leading blanks. -/
def skipBlanks : List Char → List Char :=
  List.dropWhile Text.isBlank

/-- The number that digits stand for. -/
def numberOf (digits : List Char) : Nat :=
  digits.foldl (fun n c => n * 10 + (c.toNat - 48)) 0

/-- A number of at least one and at most `width` digits, after blanks. -/
def readNumber (width : Nat) (input : List Char) : Option (Nat × List Char) :=
  let input := skipBlanks input
  match (input.take width).takeWhile Char.isDigit with
  | [] => none
  | digits => some (numberOf digits, input.drop digits.length)

/-- A year: four digits, or any number of them after a sign. -/
def readYear (input : List Char) : Option (Int × List Char) :=
  match skipBlanks input with
  | '-' :: rest => if rest.head?.any Char.isDigit then
      (readNumber rest.length rest).map fun r => (-(r.1 : Int), r.2) else none
  | '+' :: rest => if rest.head?.any Char.isDigit then
      (readNumber rest.length rest).map fun r => ((r.1 : Int), r.2) else none
  | input => (readNumber 4 input).map fun r => ((r.1 : Int), r.2)

/-- One character after blanks. -/
def expect (c : Char) (input : List Char) : Option (List Char) :=
  match skipBlanks input with
  | d :: rest => if c = d then some rest else none
  | [] => none

/-- Nanoseconds after a point, from one digit on; digits beyond the ninth are passed over. -/
def readFraction : List Char → Option (Nat × List Char)
  | '.' :: rest =>
    match rest.takeWhile Char.isDigit with
    | [] => none
    | digits =>
      let first := digits.take 9
      some (numberOf first * Nat.pow 10 (9 - first.length), rest.drop digits.length)
  | input => some (0, input)

/-- Exactly two digits. -/
def readPair : List Char → Option (Nat × List Char)
  | a :: b :: rest => if a.isDigit ∧ b.isDigit then some (numberOf [a, b], rest) else none
  | _ => none

/-- The offset from universal time in seconds. -/
def readOffset (input : List Char) : Option (Int × List Char) :=
  match (skipBlanks input).take 3 |>.map Char.toUpper with
  | ['U', 'T', 'C'] => some (0, (skipBlanks input).drop 3)
  | _ =>
    match input with
    | [] => none
    | c :: rest =>
      if c = 'Z' ∨ c = 'z' then some (0, rest)
      else if c = '+' ∨ c = '-' ∨ c = '\u2212' then do
        let (hours, rest) ← readPair rest
        let rest := rest.dropWhile fun c => c == ':' || Text.isBlank c
        let (minutes, rest) ← readPair rest
        if 60 ≤ minutes ∨ 24 ≤ hours then none
        let offset : Int := (hours : Int) * 3600 + minutes * 60
        return (if c = '+' then offset else -offset, rest)
      else none

/-- Reads a timestamp. -/
def parse (text : String) : Option Timestamp := do
  let (year, input) ← readYear text.toList
  let input ← expect '-' input
  let (month, input) ← readNumber 2 input
  let input ← expect '-' input
  let (day, input) ← readNumber 2 input
  let input ←
    match input with
    | c :: rest => if c = 'T' ∨ c = 't' ∨ c = ' ' then some rest else none
    | [] => none
  let (hour, input) ← readNumber 2 input
  let input ← expect ':' input
  let (minute, input) ← readNumber 2 input
  let input ← expect ':' input
  let (second, input) ← readNumber 2 input
  let (nanoseconds, input) ← readFraction input
  let (offset, input) ← readOffset (skipBlanks input)
  if !(skipBlanks input).isEmpty then none
  if !Calendar.yearInRange year ∨ month = 0 ∨ 12 < month then none
  if day = 0 ∨ Calendar.daysInMonth year month < day then none
  if 24 ≤ hour ∨ 60 ≤ minute ∨ 61 ≤ second then none
  let leap := second = 60
  let timeOfDay : Int := (hour : Int) * 3600 + minute * 60 + (if leap then 59 else second)
  let seconds := Calendar.daysFromDate year month day * 86400 + timeOfDay - offset
  if !Calendar.hasDate seconds then none
  return ⟨seconds, nanoseconds + if leap then 1000000000 else 0⟩

/-- A number with zeros in front up to a width. -/
def padded (width n : Nat) : List Char :=
  let ds := natChars n
  List.replicate (width - ds.length) '0' ++ ds

/-- The digits after the point of a second: none, three, six or nine. -/
def fractionChars (nanoseconds : Nat) : List Char :=
  if nanoseconds = 0 then []
  else if nanoseconds % 1000000 = 0 then '.' :: padded 3 (nanoseconds / 1000000)
  else if nanoseconds % 1000 = 0 then '.' :: padded 6 (nanoseconds / 1000)
  else '.' :: padded 9 nanoseconds

/-- A year: four digits, with a sign if it has not four digits or comes before the year zero. -/
def yearChars (year : Int) : List Char :=
  if 0 ≤ year ∧ year ≤ 9999 then padded 4 year.natAbs
  else (if year < 0 then '-' else '+') :: padded 4 year.natAbs

/-- The text of a timestamp in universal time. -/
def text (t : Timestamp) : String :=
  let (year, month, day) := Calendar.dateFromDays (t.seconds.fdiv 86400)
  let timeOfDay := (t.seconds.fmod 86400).toNat
  let second := timeOfDay % 60 + t.nanoseconds / 1000000000
  String.ofList (yearChars year ++ '-' :: padded 2 month ++ '-' :: padded 2 day ++
    'T' :: padded 2 (timeOfDay / 3600) ++ ':' :: padded 2 (timeOfDay / 60 % 60) ++
    ':' :: padded 2 second ++ fractionChars (t.nanoseconds % 1000000000) ++ ['Z'])

end Timestamp
end ScriptFiles.Log
