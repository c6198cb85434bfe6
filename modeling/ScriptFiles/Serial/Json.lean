/-!
# JSON texts

A strict reader of JSON texts. A string whose escapes name half of a surrogate pair is
well-formed JSON but no text, so strings hold an optional text. Numbers keep their spelling.
-/

namespace ScriptFiles

/-- A JSON value. -/
inductive Json
  | null
  | bool (value : Bool)
  | number (spelling : List Char)
  | string (text : Option String)
  | array (items : List Json)
  | object (members : List (Option String × Json))
deriving Repr, Inhabited

namespace Json

/-- Drops blanks, tabs and line ends. -/
def skipBlanks : List Char → List Char :=
  List.dropWhile fun c => c == ' ' || c == '\t' || c == '\n' || c == '\r'

/-- The value of a hexadecimal digit. -/
def hexValue? (c : Char) : Option Nat :=
  if '0' ≤ c ∧ c ≤ '9' then some (c.toNat - 48)
  else if 'a' ≤ c ∧ c ≤ 'f' then some (c.toNat - 87)
  else if 'A' ≤ c ∧ c ≤ 'F' then some (c.toNat - 55)
  else none

/-- The value of four hexadecimal digits. -/
def hexValue4? (a b c d : Char) : Option Nat := do
  let a ← hexValue? a
  let b ← hexValue? b
  let c ← hexValue? c
  let d ← hexValue? d
  return ((a * 16 + b) * 16 + c) * 16 + d

/-- The character of a simple escape. -/
def simpleEscape? : Char → Option Char
  | '"' => some '"'
  | '\\' => some '\\'
  | '/' => some '/'
  | 'b' => some '\x08'
  | 'f' => some '\x0c'
  | 'n' => some '\n'
  | 'r' => some '\r'
  | 't' => some '\t'
  | _ => none

/-- A unit of a string: a character, or half of a surrogate pair. -/
inductive StringUnit
  | char (c : Char)
  | high (code : Nat)
  | low (code : Nat)
deriving Repr, DecidableEq

/-- The unit with a 16-bit code. -/
def StringUnit.ofCode (code : Nat) : StringUnit :=
  if 0xD800 ≤ code ∧ code < 0xDC00 then .high code
  else if 0xDC00 ≤ code ∧ code < 0xE000 then .low code
  else .char (Char.ofNat code)

/-- The units up to the closing quote, and what follows it. -/
def readUnits : List Char → Option (List StringUnit × List Char)
  | [] => none
  | '"' :: rest => some ([], rest)
  | '\\' :: 'u' :: a :: b :: c :: d :: rest => do
    let code ← hexValue4? a b c d
    let (units, after) ← readUnits rest
    return (StringUnit.ofCode code :: units, after)
  | '\\' :: e :: rest => do
    let c ← simpleEscape? e
    let (units, after) ← readUnits rest
    return (.char c :: units, after)
  | c :: rest => do
    if c < ' ' ∨ c = '\\' then none
    let (units, after) ← readUnits rest
    return (.char c :: units, after)

/-- The characters of units; a half pair alone has none. -/
def charsOfUnits : List StringUnit → Option (List Char)
  | [] => some []
  | .char c :: rest => (charsOfUnits rest).map (c :: ·)
  | .high h :: .low l :: rest =>
    (charsOfUnits rest).map (Char.ofNat (0x10000 + (h - 0xD800) * 0x400 + (l - 0xDC00)) :: ·)
  | _ => none

/-- A string after its opening quote. -/
def readString (input : List Char) : Option (Option String × List Char) := do
  let (units, after) ← readUnits input
  return ((charsOfUnits units).map String.ofList, after)

/-- The digits at the front, at least one of them. -/
def readDigits (input : List Char) : Option (List Char × List Char) :=
  match input.takeWhile Char.isDigit with
  | [] => none
  | digits => some (digits, input.dropWhile Char.isDigit)

/-- The whole part of a number: a zero alone, or digits that do not start with one. -/
def readWhole : List Char → Option (List Char × List Char)
  | '0' :: rest =>
    match rest with
    | c :: _ => if c.isDigit then none else some (['0'], rest)
    | [] => some (['0'], rest)
  | input => readDigits input

/-- The fraction of a number, if there is one. -/
def readFraction : List Char → Option (List Char × List Char)
  | '.' :: rest => do
    let (digits, after) ← readDigits rest
    return ('.' :: digits, after)
  | input => some ([], input)

/-- The power of ten of a number, if there is one. -/
def readPower : List Char → Option (List Char × List Char)
  | e :: rest =>
    if e = 'e' ∨ e = 'E' then
      match rest with
      | '+' :: more => (readDigits more).map fun r => (e :: '+' :: r.1, r.2)
      | '-' :: more => (readDigits more).map fun r => (e :: '-' :: r.1, r.2)
      | more => (readDigits more).map fun r => (e :: r.1, r.2)
    else some ([], e :: rest)
  | [] => some ([], [])

/-- A number. -/
def readNumber (input : List Char) : Option (List Char × List Char) := do
  let (sign, input) :=
    match input with
    | '-' :: rest => (['-'], rest)
    | _ => ([], input)
  let (whole, input) ← readWhole input
  let (fraction, input) ← readFraction input
  let (power, input) ← readPower input
  return (sign ++ whole ++ fraction ++ power, input)

mutual

/-- A value with at most `depth` readings below it. -/
def readValue : Nat → List Char → Option (Json × List Char)
  | 0, _ => none
  | depth + 1, input =>
    match skipBlanks input with
    | 'n' :: 'u' :: 'l' :: 'l' :: rest => some (.null, rest)
    | 't' :: 'r' :: 'u' :: 'e' :: rest => some (.bool true, rest)
    | 'f' :: 'a' :: 'l' :: 's' :: 'e' :: rest => some (.bool false, rest)
    | '"' :: rest => (readString rest).map fun r => (.string r.1, r.2)
    | '[' :: rest =>
      match skipBlanks rest with
      | ']' :: after => some (.array [], after)
      | _ => (readItems depth rest).map fun r => (.array r.1, r.2)
    | '\x7b' :: rest =>
      match skipBlanks rest with
      | '\x7d' :: after => some (.object [], after)
      | _ => (readMembers depth rest).map fun r => (.object r.1, r.2)
    | other => (readNumber other).map fun r => (.number r.1, r.2)

/-- The items of an array, up to its closing bracket. -/
def readItems : Nat → List Char → Option (List Json × List Char)
  | 0, _ => none
  | depth + 1, input =>
    match readValue depth input with
    | none => none
    | some (item, rest) =>
      match skipBlanks rest with
      | ',' :: more => (readItems depth more).map fun r => (item :: r.1, r.2)
      | ']' :: after => some ([item], after)
      | _ => none

/-- The members of an object, up to its closing brace. -/
def readMembers : Nat → List Char → Option (List (Option String × Json) × List Char)
  | 0, _ => none
  | depth + 1, input =>
    match skipBlanks input with
    | '"' :: rest =>
      match readString rest with
      | none => none
      | some (key, rest) =>
        match skipBlanks rest with
        | ':' :: rest =>
          match readValue depth rest with
          | none => none
          | some (value, rest) =>
            match skipBlanks rest with
            | ',' :: more => (readMembers depth more).map fun r => ((key, value) :: r.1, r.2)
            | '\x7d' :: after => some ([(key, value)], after)
            | _ => none
        | _ => none
    | _ => none

end

/-- Reads a text that is one JSON value with blanks around it. Each reading below another one
starts at least one character later or follows one that did, so twice the length bounds them. -/
def parse (text : String) : Option Json :=
  match readValue (2 * text.length + 2) text.toList with
  | some (value, rest) => if (skipBlanks rest).isEmpty then some value else none
  | none => none

/-- The whole number of digits. -/
def natOfDigits (digits : List Char) : Nat :=
  digits.foldl (fun n c => n * 10 + (c.toNat - 48)) 0

/-- The signed word a number spells: digits only, perhaps after a minus sign, and not `-0`. -/
def int64? : Json → Option Int64
  | .number ('-' :: digits) =>
    let n := natOfDigits digits
    if digits.all Char.isDigit ∧ 0 < n ∧ n ≤ Nat.pow 2 63 then some (Int64.ofInt (-n)) else none
  | .number digits =>
    let n := natOfDigits digits
    if digits.all Char.isDigit ∧ n < Nat.pow 2 63 then some (Int64.ofInt n) else none
  | _ => none

/-- The flag that a value is. -/
def bool? : Json → Option Bool
  | .bool b => some b
  | _ => none

/-- The text that a value is. -/
def string? : Json → Option String
  | .string text => text
  | _ => none

/-- The values of the named fields of a record written as an object: unknown members are passed
over, a known one must not come twice, and a missing one is `none`. -/
def fields? (names : List String) (members : List (Option String × Json)) :
    Option (List (Option Json)) := do
  if members.any (·.1.isNone) then none
  names.mapM fun name =>
    match members.filter (·.1 == some name) with
    | [] => some none
    | [(_, value)] => some (some value)
    | _ => none

end Json
end ScriptFiles
