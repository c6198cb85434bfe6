import ScriptFiles.Number.Double

/-!
# The fewest decimal digits of a double

Each finite double stands for the interval of numbers that round to it; the interval's ends
belong to it when the significand is even. For one digit, two digits and so on the two
neighbours of the value with that many digits are tried, and the first that lies in the interval
is taken, of two the nearer one and of two equally near ones the larger. Seventeen digits always
suffice. All comparisons are between whole numbers.
-/

namespace ScriptFiles

/-- The decimal number `coefficient * 10 ^ exponent`. -/
structure Decimal where
  coefficient : Nat
  exponent : Int
deriving DecidableEq, Repr, Inhabited

namespace Decimal

/-- How many decimal digits a whole number has; zero has none. -/
def digitCount (n : Nat) : Nat :=
  if _h : n = 0 then 0 else digitCount (n / 10) + 1
termination_by n
decreasing_by omega

/-- The decimal digits of a whole number; zero has none. -/
def digits (n : Nat) : List Nat :=
  if _h : n = 0 then [] else digits (n / 10) ++ [n % 10]
termination_by n
decreasing_by omega

/-- Moves trailing zeros of the coefficient into the exponent. -/
def normalize (d : Decimal) : Decimal :=
  if _h : d.coefficient ≠ 0 ∧ d.coefficient % 10 = 0 then
    normalize ⟨d.coefficient / 10, d.exponent + 1⟩
  else d
termination_by d.coefficient
decreasing_by omega

end Decimal

namespace Double

/-- The interval of numbers that round to one positive double, in quarters of its last binary
place: the numbers between `low / denominator` and `high / denominator`. -/
structure Interval where
  low : Nat
  value : Nat
  high : Nat
  denominator : Nat
  closed : Bool
deriving Repr

/-- The numbers that round to a positive finite double. Just above a power of two the lower half
of the interval is half as wide. -/
def interval (x : Double) : Interval :=
  let m := x.significand
  let lower := if m = exponentUnit ∧ 1 < x.scale then 1 else 2
  -- a quarter of the last place is 2 ^ (scale - 1077)
  let up := Nat.pow 2 (x.scale - 1077)
  { low := (4 * m - lower) * up
    value := 4 * m * up
    high := (4 * m + 2) * up
    denominator := Nat.pow 2 (1077 - x.scale)
    closed := m % 2 = 0 }

namespace Interval

/-- Whether a fraction lies in the interval. -/
def contains (i : Interval) (numerator denominator : Nat) : Bool :=
  if i.closed then
    i.low * denominator ≤ numerator * i.denominator && numerator * i.denominator ≤ i.high * denominator
  else
    i.low * denominator < numerator * i.denominator && numerator * i.denominator < i.high * denominator

/-- The position of the decimal point: the value lies in `[10 ^ (p - 1), 10 ^ p)`. -/
def pointPosition (i : Interval) : Int :=
  if i.denominator ≤ i.value then Decimal.digitCount (i.value / i.denominator)
  else 1 - (Decimal.digitCount ((i.denominator + i.value - 1) / i.value - 1) : Int)

/-- The better of the two neighbours of the value on the grid of multiples of `10 ^ exponent`, if
one of them lies in the interval. -/
def onGrid (i : Interval) (exponent : Int) : Option Decimal :=
  let up := Nat.pow 10 exponent.toNat
  let down := Nat.pow 10 (-exponent).toNat
  let step := i.denominator * up
  let floor := i.value * down / step
  let lowHit := i.contains (floor * up) down
  let highHit := i.contains ((floor + 1) * up) down
  match lowHit, highHit with
  | false, false => none
  | true, false => some ⟨floor, exponent⟩
  | false, true => some ⟨floor + 1, exponent⟩
  | true, true =>
    if 2 * (i.value * down % step) < step then some ⟨floor, exponent⟩
    else some ⟨floor + 1, exponent⟩

/-- Tries `count` digits, then one more, and so on, at most `left` times. -/
def search (i : Interval) (point : Int) (count : Nat) : Nat → Option Decimal
  | 0 => none
  | left + 1 =>
    match i.onGrid (point - count) with
    | some d => some d
    | none => search i point (count + 1) left

end Interval

/-- The decimal with the fewest digits that rounds to a positive finite double, the nearest of
those. -/
def shortest (x : Double) : Decimal :=
  let i := x.interval
  ((i.search i.pointPosition 1 17).getD ⟨0, 0⟩).normalize

end Double
end ScriptFiles
