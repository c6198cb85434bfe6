import ScriptFiles.Number.Double
import Mathlib.Algebra.Order.Field.Power
import Mathlib.Algebra.Order.Ring.Rat
import Mathlib.Data.Int.ConditionallyCompleteOrder
import Mathlib.Order.SuccPred.IntervalSucc
import Mathlib.Tactic.Linarith
import Mathlib.Tactic.LinearCombination
import Mathlib.Tactic.Positivity
import Mathlib.Tactic.Ring

/-!
# What doubles stand for, and rounding to them

A finite double stands for a rational number, and `Rounds` says which numbers round to it: the
nearest double is taken, of two equally near ones the one with an even significand, and nothing is
taken where overflow begins.

The magnitude bits, read as a whole number of any size, count the points of one grid, `point`, whose
gaps double from binade to binade. With a sign they are the `rank` of a double. A number rounds to
a double if it lies in the cell of its rank, between the midpoints to both sides; and it rounds to
no other value, because between two even points there is a third one.
-/

namespace ScriptFiles.Double

/-- The exponent bits begin at `2 ^ 52`. -/
theorem exponentUnit_eq : exponentUnit = 4503599627370496 := rfl

/-- The magnitude bits of infinity as a number. -/
theorem infinityMagnitude_eq : infinityMagnitude = 9218868437227405312 := rfl

/-- The sign bit is `2 ^ 63`. -/
theorem signUnit_eq : signUnit = 9223372036854775808 := rfl

/-! ## Values and rounding -/

/-- The number that a finite double stands for. -/
def value (x : Double) : ℚ :=
  (if x.isNegative then -1 else 1) * (x.significand * 2 ^ ((x.scale : ℤ) - 1075))

/-- Neither infinite nor NaN. -/
def IsFinite (x : Double) : Prop := x.magnitude < infinityMagnitude

instance (x : Double) : Decidable x.IsFinite :=
  inferInstanceAs (Decidable (x.magnitude < infinityMagnitude))

/-- Where overflow begins: numbers of this magnitude or more round to no finite double. -/
def overflowBound : ℚ := 2 ^ 1024 - 2 ^ 970

/-- A number rounds to a finite double: no finite double is nearer, and if another one is equally
near then the significand of this one is even. -/
structure Rounds (q : ℚ) (x : Double) : Prop where
  finite : x.IsFinite
  bounded : |q| < overflowBound
  nearest : ∀ y : Double, y.IsFinite → |q - x.value| ≤ |q - y.value|
  even : ∀ y : Double, y.IsFinite → y.value ≠ x.value → |q - y.value| = |q - x.value| →
    x.significand % 2 = 0

/-! ## The grid of magnitudes -/

/-- The whole number of gaps that magnitude bits stand for, exponents of any size allowed. -/
def whole (n : ℕ) : ℕ :=
  if n / exponentUnit = 0 then n % exponentUnit else exponentUnit + n % exponentUnit

/-- The distance of a magnitude from the next one. -/
def gap (n : ℕ) : ℚ := 2 ^ (((max 1 (n / exponentUnit) : ℕ) : ℤ) - 1075)

/-- The number that magnitude bits stand for, exponents of any size allowed. -/
def point (n : ℕ) : ℚ := whole n * gap n

/-- Where the gap has just doubled: every power of two but the first, at which the exponent bits
only turn from zero to one. -/
def StartsBinade (n : ℕ) : Prop := n % exponentUnit = 0 ∧ 1 < n / exponentUnit

/-- Gaps are positive. -/
theorem gap_pos (n : ℕ) : 0 < gap n := by
  unfold gap
  positivity

/-- The gap doubles where a binade starts. -/
theorem gap_succ_of_startsBinade {n : ℕ} (h : StartsBinade (n + 1)) :
    gap (n + 1) = 2 * gap n := by
  rw [StartsBinade, exponentUnit_eq] at h
  have hmax : ((max 1 ((n + 1) / 4503599627370496) : ℕ) : ℤ) - 1075 =
      1 + (((max 1 (n / 4503599627370496) : ℕ) : ℤ) - 1075) := by omega
  rw [gap, gap, exponentUnit_eq, hmax, zpow_one_add₀ two_ne_zero]

/-- The gap stays the same inside a binade. -/
theorem gap_succ_of_not_startsBinade {n : ℕ} (h : ¬StartsBinade (n + 1)) :
    gap (n + 1) = gap n := by
  rw [StartsBinade, exponentUnit_eq] at h
  have hmax : max 1 ((n + 1) / 4503599627370496) = max 1 (n / 4503599627370496) := by omega
  rw [gap, gap, exponentUnit_eq, hmax]

/-- Where a binade starts, half as many gaps reach the next point. -/
theorem whole_succ_of_startsBinade {n : ℕ} (h : StartsBinade (n + 1)) :
    2 * whole (n + 1) = whole n + 1 := by
  have hpred : n % exponentUnit = exponentUnit - 1 ∧ n / exponentUnit ≠ 0 := by
    rw [StartsBinade, exponentUnit_eq] at h
    rw [exponentUnit_eq]
    omega
  have hpos : 0 < exponentUnit := by decide
  rw [whole, if_neg (by have := h.2; omega), h.1, whole, if_neg hpred.2, hpred.1]
  omega

/-- Inside a binade, one more gap reaches the next point. -/
theorem whole_succ_of_not_startsBinade {n : ℕ} (h : ¬StartsBinade (n + 1)) :
    whole (n + 1) = whole n + 1 := by
  unfold whole
  rw [StartsBinade] at h
  split_ifs
  all_goals
    rw [exponentUnit_eq] at *
    omega

/-- The next point is one gap further. -/
theorem point_succ (n : ℕ) : point (n + 1) = point n + gap n := by
  by_cases h : StartsBinade (n + 1)
  · have hwhole : (2 * whole (n + 1) : ℚ) = whole n + 1 := by
      exact_mod_cast whole_succ_of_startsBinade h
    rw [point, point, gap_succ_of_startsBinade h]
    linear_combination gap n * hwhole
  · have hwhole : (whole (n + 1) : ℚ) = whole n + 1 := by
      exact_mod_cast whole_succ_of_not_startsBinade h
    rw [point, point, gap_succ_of_not_startsBinade h]
    linear_combination gap n * hwhole

/-- The first point is zero. -/
theorem point_zero : point 0 = 0 := by
  simp [point, whole]

/-- Greater magnitude bits stand for greater numbers. -/
theorem strictMono_point : StrictMono point :=
  strictMono_nat_of_lt_succ fun n => by
    rw [point_succ]
    exact lt_add_of_pos_right _ (gap_pos n)

/-- The number that magnitude bits with a sign stand for. -/
def signedPoint (r : ℤ) : ℚ := r.sign * point r.natAbs

/-- The point in the middle is zero. -/
theorem signedPoint_zero : signedPoint 0 = 0 := by
  simp [signedPoint]

/-- Points of opposite signs are opposite. -/
theorem signedPoint_neg (r : ℤ) : signedPoint (-r) = -signedPoint r := by
  simp [signedPoint]

/-- Without a sign the points are those of the magnitudes. -/
theorem signedPoint_natCast (n : ℕ) : signedPoint n = point n := by
  cases n with
  | zero => simp [signedPoint, point_zero]
  | succ n =>
    rw [signedPoint, Int.sign_natCast_of_ne_zero n.succ_ne_zero, Int.natAbs_natCast, Int.cast_one,
      one_mul]

/-- The magnitude of a point does not depend on its sign. -/
theorem abs_signedPoint (r : ℤ) : |signedPoint r| = point r.natAbs := by
  have hpos : 0 ≤ point r.natAbs := point_zero ▸ strictMono_point.monotone (Nat.zero_le _)
  obtain ⟨n, rfl | rfl⟩ := r.eq_nat_or_neg
  · rw [signedPoint_natCast]
    exact abs_of_nonneg hpos
  · rw [signedPoint_neg, signedPoint_natCast, abs_neg]
    simpa using hpos

/-- Magnitude bits with their sign are in the order of the numbers they stand for. -/
theorem strictMono_signedPoint : StrictMono signedPoint :=
  strictMono_int_of_lt_succ fun r => by
    cases r with
    | ofNat n =>
      change signedPoint (n : ℤ) < signedPoint ((n + 1 : ℕ) : ℤ)
      rw [signedPoint_natCast, signedPoint_natCast]
      exact strictMono_point (Nat.lt_succ_self n)
    | negSucc n =>
      have hnext : Int.negSucc n + 1 = -(n : ℤ) := by omega
      rw [hnext, Int.negSucc_eq, signedPoint_neg, signedPoint_neg, neg_lt_neg_iff]
      exact_mod_cast (signedPoint_natCast n).trans_lt
        ((strictMono_point (Nat.lt_succ_self n)).trans_eq (signedPoint_natCast (n + 1)).symm)

/-- The magnitude bits of a double with their sign. -/
def rank (x : Double) : ℤ :=
  if x.isNegative then -(x.magnitude : ℤ) else x.magnitude

/-- The significand counts the gaps of the magnitude. -/
theorem significand_mul_gap (x : Double) :
    (x.significand : ℚ) * 2 ^ ((x.scale : ℤ) - 1075) = point x.magnitude := rfl

/-- The number of a double is the point of its magnitude bits with their sign. -/
theorem value_eq (x : Double) : x.value = signedPoint x.rank := by
  rw [value, significand_mul_gap, rank]
  split
  · rw [signedPoint_neg, signedPoint_natCast, neg_one_mul]
  · rw [signedPoint_natCast, one_mul]

/-- The double of magnitude bits with a sign. -/
def ofRank (r : ℤ) : Double :=
  ⟨UInt64.ofNat (r.natAbs + if r < 0 then signUnit else 0)⟩

/-- The double of a finite rank has that rank. -/
theorem rank_ofRank {r : ℤ} (h : r.natAbs < infinityMagnitude) :
    (ofRank r).rank = r := by
  have hbits : (ofRank r).bits.toNat = r.natAbs + if r < 0 then signUnit else 0 := by
    rw [ofRank, UInt64.toNat_ofNat']
    apply Nat.mod_eq_of_lt
    rw [signUnit_eq]
    rw [infinityMagnitude_eq] at h
    split <;> omega
  rw [infinityMagnitude_eq] at h
  rw [signUnit_eq] at hbits
  simp only [rank, isNegative, magnitude, hbits, signUnit_eq, decide_eq_true_eq]
  split_ifs <;> omega

/-- The double of a finite rank has the magnitude bits of that rank. -/
theorem magnitude_ofRank {r : ℤ} (h : r.natAbs < infinityMagnitude) :
    (ofRank r).magnitude = r.natAbs := by
  have := rank_ofRank h
  unfold rank at this
  split_ifs at this <;> omega

/-- The significand is even where the magnitude bits are. -/
theorem significand_mod_two (x : Double) : x.significand % 2 = x.magnitude % 2 := by
  unfold significand
  rw [exponentUnit_eq]
  split_ifs <;> omega

/-- Without its sign a rank is the magnitude bits. -/
theorem natAbs_rank (x : Double) : x.rank.natAbs = x.magnitude := by
  unfold rank
  split_ifs <;> omega

/-- A rank is even where the significand is. -/
theorem rank_mod_two (x : Double) : x.rank % 2 = (x.significand % 2 : ℕ) := by
  have habs := natAbs_rank x
  have hparity := significand_mod_two x
  omega

/-! ## Nearest points -/

/-- A number lies between the midpoints around a point of the grid, and on one of them only if that
point is even. -/
structure InCell (q : ℚ) (r : ℤ) : Prop where
  low : signedPoint (r - 1) + signedPoint r ≤ 2 * q
  high : 2 * q ≤ signedPoint r + signedPoint (r + 1)
  lowOdd : r % 2 = 1 → signedPoint (r - 1) + signedPoint r < 2 * q
  highOdd : r % 2 = 1 → 2 * q < signedPoint r + signedPoint (r + 1)

variable {q : ℚ} {r s : ℤ}

/-- Cells of opposite points are opposite. -/
theorem InCell.neg (hcell : InCell q r) : InCell (-q) (-r) := by
  have hbefore : signedPoint (-r - 1) = -signedPoint (r + 1) := by
    rw [← signedPoint_neg]
    exact congrArg signedPoint (by omega)
  have hafter : signedPoint (-r + 1) = -signedPoint (r - 1) := by
    rw [← signedPoint_neg]
    exact congrArg signedPoint (by omega)
  refine ⟨?_, ?_, fun hodd => ?_, fun hodd => ?_⟩
  · rw [hbefore, signedPoint_neg]
    linarith [hcell.high]
  · rw [hafter, signedPoint_neg]
    linarith [hcell.low]
  · rw [hbefore, signedPoint_neg]
    linarith [hcell.highOdd (by omega)]
  · rw [hafter, signedPoint_neg]
    linarith [hcell.lowOdd (by omega)]

/-- No point is nearer to a number than the one whose cell it lies in. -/
theorem InCell.abs_sub_le (hcell : InCell q r) (s : ℤ) :
    |q - signedPoint r| ≤ |q - signedPoint s| := by
  rcases lt_trichotomy s r with hless | rfl | hmore
  · have hbefore : signedPoint s ≤ signedPoint (r - 1) :=
      strictMono_signedPoint.monotone (by omega)
    have hbelow := strictMono_signedPoint hless
    refine le_trans (abs_le.mpr ⟨?_, ?_⟩) (le_abs_self _)
    · linarith [hcell.low]
    · linarith
  · exact le_rfl
  · have hafter : signedPoint (r + 1) ≤ signedPoint s :=
      strictMono_signedPoint.monotone (by omega)
    have habove := strictMono_signedPoint hmore
    refine le_trans (abs_le.mpr ⟨?_, ?_⟩) (neg_le_abs _)
    · linarith
    · linarith [hcell.high]

/-- Every other point is further from a number than an odd point whose cell it lies in. -/
theorem InCell.abs_sub_lt (hcell : InCell q r) (hodd : r % 2 = 1) (hother : s ≠ r) :
    |q - signedPoint r| < |q - signedPoint s| := by
  rcases lt_or_gt_of_ne hother with hless | hmore
  · have hbefore : signedPoint s ≤ signedPoint (r - 1) :=
      strictMono_signedPoint.monotone (by omega)
    have hbelow := strictMono_signedPoint hless
    refine lt_of_lt_of_le (abs_lt.mpr ⟨?_, ?_⟩) (le_abs_self _)
    · linarith [hcell.lowOdd hodd]
    · linarith
  · have hafter : signedPoint (r + 1) ≤ signedPoint s :=
      strictMono_signedPoint.monotone (by omega)
    have habove := strictMono_signedPoint hmore
    refine lt_of_lt_of_le (abs_lt.mpr ⟨?_, ?_⟩) (neg_le_abs _)
    · linarith
    · linarith [hcell.highOdd hodd]

/-- The point after the last finite one is `2 ^ 1024`. -/
theorem point_infinity : point infinityMagnitude = 2 ^ 1024 := by
  have hdiv : infinityMagnitude / exponentUnit = 2047 := rfl
  have hmod : infinityMagnitude % exponentUnit = 0 := rfl
  have hgap : gap infinityMagnitude = 2 ^ 972 := by
    rw [gap, hdiv]
    exact zpow_natCast 2 972
  have hunit : ((exponentUnit : ℕ) : ℚ) = 2 ^ 52 := Nat.cast_pow 2 52
  rw [point, whole, hdiv, hmod, if_neg (by norm_num), Nat.add_zero, hgap, hunit, ← pow_add]

/-- Overflow begins halfway between the last finite magnitude and the next point. -/
theorem signedPoint_overflow :
    signedPoint (infinityMagnitude - 1) + signedPoint infinityMagnitude = 2 * overflowBound := by
  have hgap : gap (infinityMagnitude - 1) = 2 * 2 ^ 970 := by
    have hdiv : (infinityMagnitude - 1) / exponentUnit = 2046 := rfl
    rw [gap, hdiv, ← pow_succ']
    exact zpow_natCast 2 971
  have hnext : point infinityMagnitude = point (infinityMagnitude - 1) + 2 * 2 ^ 970 := by
    rw [← hgap, ← point_succ]
    rfl
  have hcast : ((infinityMagnitude : ℤ) - 1) = ((infinityMagnitude - 1 : ℕ) : ℤ) := rfl
  rw [hcast, signedPoint_natCast, signedPoint_natCast, overflowBound, mul_sub, ← point_infinity]
  generalize (2 : ℚ) ^ 970 = half at hnext
  linarith

/-- The cells of finite points end before overflow begins: the last finite point is odd. -/
theorem InCell.lt_overflow (hcell : InCell q r) (hfinite : r.natAbs < infinityMagnitude) :
    q < overflowBound := by
  have hlast := signedPoint_overflow
  rcases lt_or_eq_of_le (show r ≤ infinityMagnitude - 1 by omega) with hless | rfl
  · have hthis : signedPoint r < signedPoint (infinityMagnitude - 1) :=
      strictMono_signedPoint hless
    have hnext : signedPoint (r + 1) < signedPoint infinityMagnitude :=
      strictMono_signedPoint (by omega)
    linarith [hcell.high]
  · have hodd := hcell.highOdd rfl
    rw [sub_add_cancel] at hodd
    linarith

/-- A number rounds to the double in whose cell it lies. -/
theorem rounds_of_inCell {x : Double} (hfinite : x.IsFinite) (hcell : InCell q x.rank) :
    Rounds q x where
  finite := hfinite
  bounded := by
    have habs : x.rank.natAbs < infinityMagnitude := (natAbs_rank x).trans_lt hfinite
    refine abs_lt.mpr ⟨?_, hcell.lt_overflow habs⟩
    have hneg := hcell.neg.lt_overflow (by rwa [Int.natAbs_neg])
    linarith
  nearest y _ := by
    rw [value_eq, value_eq]
    exact hcell.abs_sub_le _
  even y _ hother htie := by
    rw [value_eq, value_eq] at *
    by_contra hodd
    have hrank := rank_mod_two x
    exact absurd htie (hcell.abs_sub_lt (by omega) fun heq => hother (by rw [heq])).ne'

/-- Between two doubles of even significand lies another double, so no number rounds to both. -/
theorem Rounds.not_value_lt {x y : Double} (hx : Rounds q x) (hy : Rounds q y) :
    ¬ x.value < y.value := by
  intro hless
  have htie : |q - y.value| = |q - x.value| :=
    le_antisymm (hy.nearest x hx.finite) (hx.nearest y hy.finite)
  have hxeven := hx.even y hy.finite hless.ne' htie
  have hyeven := hy.even x hx.finite hless.ne htie.symm
  -- the double right after `x` is still before `y`, which is not odd
  have hmid : (x.rank + 1).natAbs < infinityMagnitude ∧ x.rank + 1 < y.rank := by
    rw [value_eq, value_eq] at hless
    have hranks := strictMono_signedPoint.lt_iff_lt.mp hless
    have hxfinite : x.rank.natAbs < infinityMagnitude := (natAbs_rank x).trans_lt hx.finite
    have hyfinite : y.rank.natAbs < infinityMagnitude := (natAbs_rank y).trans_lt hy.finite
    have hxrank := rank_mod_two x
    have hyrank := rank_mod_two y
    omega
  have hvalue : (ofRank (x.rank + 1)).value = signedPoint (x.rank + 1) := by
    rw [value_eq, rank_ofRank hmid.1]
  have hafter : x.value < (ofRank (x.rank + 1)).value := by
    rw [hvalue, value_eq]
    exact strictMono_signedPoint (lt_add_one _)
  have hbefore : (ofRank (x.rank + 1)).value < y.value := by
    rw [hvalue, value_eq]
    exact strictMono_signedPoint hmid.2
  have hfinite : (ofRank (x.rank + 1)).IsFinite := (magnitude_ofRank hmid.1).trans_lt hmid.1
  have hnear := hx.nearest _ hfinite
  have hnear' := hy.nearest _ hfinite
  rcases abs_cases (q - (ofRank (x.rank + 1)).value) with hq | hq
  · linarith [le_abs_self (q - x.value)]
  · linarith [neg_le_abs (q - y.value)]

/-- A number rounds to one value only. -/
theorem Rounds.value_unique {x y : Double} (hx : Rounds q x) (hy : Rounds q y) :
    x.value = y.value :=
  le_antisymm (not_lt.mp (hy.not_value_lt hx)) (not_lt.mp (hx.not_value_lt hy))

end ScriptFiles.Double
