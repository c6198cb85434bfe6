/-!
# Doubles

A number of 64 bits in the binary interchange format: a sign bit, eleven exponent bits and 52
fraction bits. A finite magnitude is a whole number times a power of two, and everything said
about it is said in whole numbers. `ofInt` rounds a whole number to the nearest double, an exact
half to the even neighbour.
-/

namespace ScriptFiles

/-- A double, by its bits. -/
structure Double where
  bits : UInt64
deriving DecidableEq, Repr, Inhabited

namespace Double

/-- What the sign bit counts. -/
def signUnit : Nat := Nat.pow 2 63

/-- What the lowest exponent bit counts: one more than the greatest fraction. -/
def exponentUnit : Nat := Nat.pow 2 52

/-- The bits without the sign. -/
def magnitude (x : Double) : Nat :=
  x.bits.toNat % signUnit

/-- The sign bit. -/
def isNegative (x : Double) : Bool :=
  signUnit ≤ x.bits.toNat

/-- The magnitude bits of infinity. -/
def infinityMagnitude : Nat :=
  2047 * exponentUnit

/-- Not a number: the magnitude bits exceed those of infinity. -/
def isNaN (x : Double) : Bool :=
  infinityMagnitude < x.magnitude

/-- One of the two infinities. -/
def isInfinite (x : Double) : Bool :=
  x.magnitude = infinityMagnitude

/-- Zero of either sign. -/
def isZero (x : Double) : Bool :=
  x.magnitude = 0

/-- The exponent bits. -/
def exponentField (x : Double) : Nat :=
  x.magnitude / exponentUnit

/-- The whole number `m` of a finite magnitude `m * 2 ^ (scale - 1075)`. -/
def significand (x : Double) : Nat :=
  if x.exponentField = 0 then x.magnitude % exponentUnit else exponentUnit + x.magnitude % exponentUnit

/-- The scale `s` of a finite magnitude `significand * 2 ^ (s - 1075)`. -/
def scale (x : Double) : Nat :=
  max 1 x.exponentField

/-- Equality of numbers: nothing equals a NaN and the two zeros are equal. -/
def numericEq (x y : Double) : Bool :=
  !x.isNaN && !y.isNaN && (x.bits == y.bits || (x.isZero && y.isZero))

/-- The magnitude bits of the double nearest to a whole number. -/
def magnitudeOfNat (n : Nat) : Nat :=
  if n = 0 then 0
  else
    let top := n.log2
    if top ≤ 52 then (top + 1022) * exponentUnit + n * Nat.pow 2 (52 - top)
    else
      let unit := Nat.pow 2 (top - 52)
      let down := n / unit
      let rest := n % unit
      let rounded := if unit < 2 * rest ∨ (unit = 2 * rest ∧ down % 2 = 1) then down + 1 else down
      (top + 1022) * exponentUnit + rounded

/-- The double nearest to a whole number of less than 1024 bits, an exact half going to the even
neighbour. -/
def ofInt (i : Int) : Double :=
  ⟨UInt64.ofNat (magnitudeOfNat i.natAbs + if i < 0 then signUnit else 0)⟩

end Double
end ScriptFiles
