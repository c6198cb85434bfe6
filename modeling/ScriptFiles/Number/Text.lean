import ScriptFiles.Number.Shortest

/-!
# Doubles as text

`Double.text` writes a double with its shortest digits in a `NumberStyle`: where positional
notation ends and a power of ten is written instead, and how whole numbers, exponents, zero and
infinity look. `NumberStyle.script` is what scripts see, `NumberStyle.debug` what debug text
shows.
-/

namespace ScriptFiles

/-- How numbers are written. Magnitudes from `largeFrom` on and those below `smallBelow`, zero
apart, carry a power of ten. -/
structure NumberStyle where
  largeFrom : Double
  smallBelow : Double
  plusInExponent : Bool
  pointInWholes : Bool
  signOfZero : Bool
  infinity : String
deriving Repr

/-- Powers of ten from `1e21` on and below `1e-6`; both zeros are `0`. -/
def NumberStyle.script : NumberStyle :=
  ⟨⟨0x444B1AE4D6E2EF50⟩, ⟨0x3EB0C6F7A0B5ED8D⟩, true, false, false, "Infinity"⟩

/-- Powers of ten from `1e16` on and below `1e-4`; a whole number ends in `.0`. -/
def NumberStyle.debug : NumberStyle :=
  ⟨⟨0x4341C37937E08000⟩, ⟨0x3F1A36E2EB1C432D⟩, false, true, true, "inf"⟩

/-- The digit characters of a list of digits. -/
def digitChars (digits : List Nat) : List Char :=
  digits.map Nat.digitChar

/-- A whole number in decimal digits. -/
def natChars (n : Nat) : List Char :=
  if n = 0 then ['0'] else digitChars (Decimal.digits n)

/-- A whole number with its sign. -/
def intChars (i : Int) : List Char :=
  if i < 0 then '-' :: natChars i.natAbs else natChars i.natAbs

/-- The text of a whole number. -/
def natText (n : Nat) : String :=
  String.ofList (natChars n)

/-- The text of a whole number with its sign. -/
def intText (i : Int) : String :=
  String.ofList (intChars i)

namespace Decimal

/-- Digits with a decimal point and no power of ten. -/
def positional (style : NumberStyle) (d : Decimal) : List Char :=
  let ds := digits d.coefficient
  let point := (ds.length : Int) + d.exponent
  if point ≤ 0 then
    ['0', '.'] ++ List.replicate (-point).toNat '0' ++ digitChars ds
  else if 0 ≤ d.exponent then
    digitChars ds ++ List.replicate d.exponent.toNat '0' ++
      if style.pointInWholes then ['.', '0'] else []
  else
    digitChars (ds.take point.toNat) ++ '.' :: digitChars (ds.drop point.toNat)

/-- One digit, the others after a point, and the power of ten. -/
def scientific (style : NumberStyle) (d : Decimal) : List Char :=
  let ds := digits d.coefficient
  let power := (ds.length : Int) + d.exponent - 1
  digitChars (ds.take 1) ++
    (if ds.length ≤ 1 then [] else '.' :: digitChars (ds.drop 1)) ++
    'e' :: ((if style.plusInExponent ∧ 0 ≤ power then ['+'] else []) ++ intChars power)

end Decimal

namespace Double

/-- Whether the style writes this magnitude with a power of ten. -/
def hasPower (style : NumberStyle) (x : Double) : Bool :=
  style.largeFrom.magnitude ≤ x.magnitude ||
    (!x.isZero && x.magnitude < style.smallBelow.magnitude)

/-- The text of a magnitude that is neither zero, infinite nor NaN. -/
def magnitudeChars (style : NumberStyle) (x : Double) : List Char :=
  if x.hasPower style then x.shortest.scientific style else x.shortest.positional style

/-- The characters of a double in a style. -/
def chars (style : NumberStyle) (x : Double) : List Char :=
  if x.isNaN then "NaN".toList
  else
    let sign := if x.isNegative ∧ (style.signOfZero ∨ !x.isZero) then ['-'] else []
    let body :=
      if x.isInfinite then style.infinity.toList
      else if x.isZero then if style.pointInWholes then ['0', '.', '0'] else ['0']
      else x.magnitudeChars style
    sign ++ body

/-- The text of a double in a style. -/
def text (style : NumberStyle) (x : Double) : String :=
  String.ofList (x.chars style)

end Double
end ScriptFiles
