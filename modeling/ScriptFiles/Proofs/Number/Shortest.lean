import ScriptFiles.Number.Shortest
import ScriptFiles.Proofs.Number.Rounding
import Mathlib.Data.Nat.Cast.Order.Field
import Mathlib.Data.Nat.Digits.Lemmas
import Mathlib.Tactic.FieldSimp
import Mathlib.Tactic.NormNum

/-!
# Shortest digits round back

The search for the shortest digits of a double never comes back with nothing, and the decimal that
it finds lies in the cell of the double. The first half is a matter of widths: where neither
neighbour of the value on a grid lies in the interval, the whole interval lies between the two, so
the grid is coarser than the interval is wide; and the interval is wider than a grid of seventeen
digits.
-/

namespace ScriptFiles

/-! ## Decimals -/

namespace Decimal

/-- The number that a decimal stands for. -/
def value (d : Decimal) : ℚ := d.coefficient * 10 ^ d.exponent

/-- The digits are counted as in the library. -/
theorem digitCount_eq (n : ℕ) : digitCount n = (Nat.digits 10 n).length := by
  induction n using digitCount.induct with
  | case1 => rw [digitCount, dif_pos rfl, Nat.digits_zero, List.length_nil]
  | case2 n hn ih =>
    rw [digitCount, dif_neg hn, ih, Nat.digits_def' (by decide) (Nat.pos_of_ne_zero hn),
      List.length_cons]

/-- Stripping zeros keeps the value. -/
theorem value_normalize (d : Decimal) : d.normalize.value = d.value := by
  induction d using normalize.induct with
  | case1 d hd ih =>
    rw [normalize, dif_pos hd, ih]
    have hten : ((d.coefficient / 10 : ℕ) : ℚ) * 10 = d.coefficient := by
      exact_mod_cast Nat.div_mul_cancel (Nat.dvd_of_mod_eq_zero hd.2)
    rw [value, value, zpow_add_one₀ (by norm_num), ← hten]
    ring
  | case2 d hd => rw [normalize, dif_neg hd]

/-- A stripped coefficient ends with no zero. -/
theorem coefficient_normalize (d : Decimal) (hd : d.coefficient ≠ 0) :
    d.normalize.coefficient % 10 ≠ 0 := by
  induction d using normalize.induct with
  | case1 d hstrip ih =>
    rw [normalize, dif_pos hstrip]
    exact ih (by simp only; omega)
  | case2 d hkeep =>
    rw [normalize, dif_neg hkeep]
    exact fun hzero => hkeep ⟨hd, hzero⟩

end Decimal

namespace Double

/-- A power of either sign is a quotient of two powers without one. -/
theorem pow_toNat_div_pow_toNat (b : ℚ) (e : ℤ) :
    b ^ e.toNat / b ^ (-e).toNat = b ^ e := by
  rcases Int.le_total 0 e with he | he
  · rw [Int.toNat_eq_zero.mpr (by omega : -e ≤ 0), pow_zero, div_one, ← zpow_natCast,
      Int.toNat_of_nonneg he]
  · rw [Int.toNat_eq_zero.mpr he, pow_zero, one_div, ← zpow_natCast, Int.toNat_of_nonneg (by omega),
      zpow_neg, inv_inv]

/-! ## Intervals -/

namespace Interval

/-- Where the interval begins. -/
def lowEnd (i : Interval) : ℚ := i.low / i.denominator

/-- The value of the double, which lies in its interval. -/
def middle (i : Interval) : ℚ := i.value / i.denominator

/-- Where the interval ends. -/
def highEnd (i : Interval) : ℚ := i.high / i.denominator

variable {i : Interval}

/-- A fraction lies in the interval if it lies between the ends, on one only if they belong to it.
-/
theorem contains_iff (hden : 0 < i.denominator) (n : ℕ) {d : ℕ} (hd : 0 < d) :
    i.contains n d = true ↔
      if i.closed then i.lowEnd ≤ (n : ℚ) / d ∧ (n : ℚ) / d ≤ i.highEnd
      else i.lowEnd < (n : ℚ) / d ∧ (n : ℚ) / d < i.highEnd := by
  have hden' : (0 : ℚ) < i.denominator := by exact_mod_cast hden
  have hd' : (0 : ℚ) < d := by exact_mod_cast hd
  unfold contains lowEnd highEnd
  split
  · rw [Bool.and_eq_true, decide_eq_true_eq, decide_eq_true_eq, div_le_div_iff₀ hden' hd',
      div_le_div_iff₀ hd' hden']
    norm_cast
  · rw [Bool.and_eq_true, decide_eq_true_eq, decide_eq_true_eq, div_lt_div_iff₀ hden' hd',
      div_lt_div_iff₀ hd' hden']
    norm_cast

/-- The decimal point is not put too far to the right. -/
theorem zpow_pointPosition_le (hden : 0 < i.denominator) (hvalue : 0 < i.value) :
    (10 : ℚ) ^ (i.pointPosition - 1) ≤ i.middle := by
  have hden' : (0 : ℚ) < i.denominator := by exact_mod_cast hden
  have hvalue' : (0 : ℚ) < i.value := by exact_mod_cast hvalue
  unfold pointPosition middle
  split
  · next hwhole =>
    generalize hk : i.value / i.denominator = k
    have hkpos : k ≠ 0 := hk ▸ (Nat.div_pos hwhole hden).ne'
    have hcount : 0 < Decimal.digitCount k := by
      rw [Decimal.digitCount_eq]
      exact List.length_pos_iff.mpr (Nat.digits_ne_nil_iff_ne_zero.mpr hkpos)
    have hpow : 10 ^ (Decimal.digitCount k - 1) ≤ k := by
      have hbound := Nat.base_pow_length_digits_le 10 k (by norm_num) hkpos
      have hsucc : Decimal.digitCount k = Decimal.digitCount k - 1 + 1 := by omega
      rw [← Decimal.digitCount_eq, hsucc, pow_succ'] at hbound
      exact Nat.le_of_mul_le_mul_left hbound (by norm_num)
    have hexp : ((Decimal.digitCount k : ℤ) - 1) = ((Decimal.digitCount k - 1 : ℕ) : ℤ) := by omega
    rw [hexp, zpow_natCast]
    calc (10 : ℚ) ^ (Decimal.digitCount k - 1) ≤ (k : ℚ) := by exact_mod_cast hpow
      _ ≤ i.value / i.denominator := by rw [← hk]; exact Nat.cast_div_le
  · next hfraction =>
    generalize hk : (i.denominator + i.value - 1) / i.value = k
    have hdenle : i.denominator ≤ k * i.value := by
      have hdivide := Nat.div_add_mod (i.denominator + i.value - 1) i.value
      have hrest := Nat.mod_lt (i.denominator + i.value - 1) hvalue
      rw [hk, Nat.mul_comm] at hdivide
      omega
    have hpow : k ≤ 10 ^ Decimal.digitCount (k - 1) := by
      have hbound := Nat.lt_base_pow_length_digits (b := 10) (m := k - 1) (by norm_num)
      rw [← Decimal.digitCount_eq] at hbound
      omega
    have hexp : (1 - (Decimal.digitCount (k - 1) : ℤ) - 1) =
        -(Decimal.digitCount (k - 1) : ℤ) := by ring
    rw [hexp, zpow_neg, zpow_natCast, le_div_iff₀ hden', inv_mul_le_iff₀ (by positivity)]
    calc (i.denominator : ℚ) ≤ k * i.value := by exact_mod_cast hdenle
      _ ≤ 10 ^ Decimal.digitCount (k - 1) * i.value := by
        exact mul_le_mul_of_nonneg_right (by exact_mod_cast hpow) hvalue'.le

/-! ## Searching -/

/-- A decimal found on a grid has its exponent and lies in the interval. -/
theorem onGrid_eq_some {e : ℤ} {d : Decimal} (h : i.onGrid e = some d) :
    d.exponent = e ∧ i.contains (d.coefficient * 10 ^ e.toNat) (10 ^ (-e).toNat) = true := by
  simp only [onGrid, Nat.pow_eq] at h
  split at h
  · cases h
  · next hlow hhigh =>
    cases h
    exact ⟨rfl, hlow⟩
  · next hlow hhigh =>
    cases h
    exact ⟨rfl, hhigh⟩
  · next hlow hhigh =>
    split at h
    · cases h
      exact ⟨rfl, hlow⟩
    · cases h
      exact ⟨rfl, hhigh⟩

/-- If nothing is found on a grid, neither neighbour of the value lies in the interval. -/
theorem onGrid_eq_none {e : ℤ} (h : i.onGrid e = none) :
    ∃ k : ℕ, k = i.value * 10 ^ (-e).toNat / (i.denominator * 10 ^ e.toNat) ∧
      i.contains (k * 10 ^ e.toNat) (10 ^ (-e).toNat) = false ∧
      i.contains ((k + 1) * 10 ^ e.toNat) (10 ^ (-e).toNat) = false := by
  simp only [onGrid, Nat.pow_eq] at h
  refine ⟨_, rfl, ?_⟩
  split at h
  · next hlow hhigh => exact ⟨hlow, hhigh⟩
  · cases h
  · cases h
  · split at h <;> cases h

/-- What the search finds lies on some grid. -/
theorem exists_onGrid_of_search {point : ℤ} {count left : ℕ} {d : Decimal}
    (h : i.search point count left = some d) : ∃ e, i.onGrid e = some d := by
  induction left generalizing count with
  | zero => cases h
  | succ left ih =>
    rw [search] at h
    split at h
    · next hfound =>
      cases h
      exact ⟨_, hfound⟩
    · exact ih h

/-- If the search finds nothing, there is nothing on any of its grids. -/
theorem onGrid_of_search_eq_none {point : ℤ} {count left : ℕ}
    (h : i.search point count left = none) (k : ℕ) (hk : k < left) :
    i.onGrid (point - (count + k : ℕ)) = none := by
  induction left generalizing count k with
  | zero => omega
  | succ left ih =>
    rw [search] at h
    split at h
    · cases h
    · next hnone =>
      cases k with
      | zero => exact hnone
      | succ k =>
        have hlater := ih h k (by omega)
        rwa [Nat.add_assoc, Nat.add_comm 1 k] at hlater

/-- The fraction that is compared with the ends is the value of the decimal. -/
theorem cast_div_pow (c : ℕ) (e : ℤ) :
    ((c * 10 ^ e.toNat : ℕ) : ℚ) / ((10 ^ (-e).toNat : ℕ) : ℚ) = c * 10 ^ e := by
  push_cast
  rw [mul_div_assoc, pow_toNat_div_pow_toNat]

/-- Which decimals lie in the interval. -/
theorem contains_decimal_iff (hden : 0 < i.denominator) (c : ℕ) (e : ℤ) :
    i.contains (c * 10 ^ e.toNat) (10 ^ (-e).toNat) = true ↔
      if i.closed then i.lowEnd ≤ c * 10 ^ e ∧ c * 10 ^ e ≤ i.highEnd
      else i.lowEnd < c * 10 ^ e ∧ c * 10 ^ e < i.highEnd := by
  rw [contains_iff hden _ (by positivity), cast_div_pow]

/-- If neither neighbour of the value on a grid lies in the interval, then the whole interval lies
between them. -/
theorem width_le_of_onGrid_eq_none (hden : 0 < i.denominator) (hlow : i.lowEnd < i.middle)
    (hhigh : i.middle < i.highEnd) {e : ℤ} (h : i.onGrid e = none) :
    i.highEnd - i.lowEnd ≤ 10 ^ e := by
  obtain ⟨k, hk, hbelow, habove⟩ := onGrid_eq_none h
  have hden' : (0 : ℚ) < i.denominator := by exact_mod_cast hden
  have hstep : (0 : ℚ) < 10 ^ e := by positivity
  have hmiddle : i.middle = (i.value * 10 ^ (-e).toNat : ℕ) /
      ((i.denominator * 10 ^ e.toNat : ℕ) : ℚ) * 10 ^ e := by
    rw [← pow_toNat_div_pow_toNat, middle]
    push_cast
    field_simp
  have hfloor : (k : ℚ) * 10 ^ e ≤ i.middle := by
    rw [hmiddle]
    exact mul_le_mul_of_nonneg_right (hk ▸ Nat.cast_div_le) hstep.le
  have hceil : i.middle < (k + 1) * 10 ^ e := by
    rw [hmiddle]
    refine mul_lt_mul_of_pos_right ?_ hstep
    rw [div_lt_iff₀ (by positivity)]
    have hnext := Nat.lt_mul_div_succ (i.value * 10 ^ (-e).toNat)
      (b := i.denominator * 10 ^ e.toNat) (by positivity)
    rw [← hk, Nat.mul_comm (i.denominator * _)] at hnext
    exact_mod_cast hnext
  have hbelow' : (k : ℚ) * 10 ^ e ≤ i.lowEnd := by
    by_contra hin
    rw [← Bool.not_eq_true, contains_decimal_iff hden] at hbelow
    apply hbelow
    split
    · exact ⟨by linarith, by linarith⟩
    · exact ⟨by linarith, by linarith⟩
  have habove' : i.highEnd ≤ (k + 1) * 10 ^ e := by
    by_contra hin
    rw [← Bool.not_eq_true, contains_decimal_iff hden] at habove
    push_cast at habove
    apply habove
    split
    · exact ⟨by linarith, by linarith⟩
    · exact ⟨by linarith, by linarith⟩
  linarith

end Interval

/-! ## The interval of a double -/

variable {x : Double}

/-- The denominator of an interval is positive. -/
theorem denominator_pos (x : Double) : 0 < x.interval.denominator := by
  simp only [interval, Nat.pow_eq]
  positivity

/-- A quarter of the gap, as the interval counts it. -/
theorem quarter_gap (x : Double) :
    ((2 ^ (x.scale - 1077) : ℕ) : ℚ) / ((2 ^ (1077 - x.scale) : ℕ) : ℚ) =
      gap x.magnitude / 4 := by
  have hup : x.scale - 1077 = ((x.scale : ℤ) - 1077).toNat := by omega
  have hdown : 1077 - x.scale = (-((x.scale : ℤ) - 1077)).toNat := by omega
  have hexp : ((x.scale : ℤ) - 1075) = (x.scale : ℤ) - 1077 + 2 := by ring
  have hgap : gap x.magnitude = 2 ^ ((x.scale : ℤ) - 1075) := rfl
  rw [hup, hdown, Nat.cast_pow, Nat.cast_pow, Nat.cast_ofNat, pow_toNat_div_pow_toNat, hgap, hexp,
    zpow_add₀ two_ne_zero]
  norm_num

/-- The middle of the interval of a double is the point of its magnitude bits. -/
theorem middle_interval (x : Double) : x.interval.middle = point x.magnitude := by
  have hquarter := quarter_gap x
  have hmiddle : x.interval.middle = 4 * x.significand *
      (((2 ^ (x.scale - 1077) : ℕ) : ℚ) / ((2 ^ (1077 - x.scale) : ℕ) : ℚ)) := by
    simp only [Interval.middle, interval, Nat.pow_eq]
    push_cast
    ring
  have hpoint : point x.magnitude = x.significand * gap x.magnitude := rfl
  rw [hmiddle, hquarter, hpoint]
  ring

/-- The interval of a double ends halfway to the next point. -/
theorem highEnd_interval (x : Double) :
    2 * x.interval.highEnd = point x.magnitude + point (x.magnitude + 1) := by
  have hquarter := quarter_gap x
  have hhigh : x.interval.highEnd = (4 * x.significand + 2) *
      (((2 ^ (x.scale - 1077) : ℕ) : ℚ) / ((2 ^ (1077 - x.scale) : ℕ) : ℚ)) := by
    simp only [Interval.highEnd, interval, Nat.pow_eq]
    push_cast
    ring
  have hpoint : point x.magnitude = x.significand * gap x.magnitude := rfl
  rw [hhigh, hquarter, point_succ, hpoint]
  ring

/-- Quarters of the gap from the middle down to the low end. -/
def lowerQuarters (x : Double) : ℕ :=
  if x.significand = exponentUnit ∧ 1 < x.scale then 1 else 2

/-- Only where a binade starts is the low end a quarter below the middle. -/
theorem lowerQuarters_eq (x : Double) :
    x.lowerQuarters = 1 ∧ x.significand = exponentUnit ∧ StartsBinade x.magnitude ∨
      x.lowerQuarters = 2 ∧ ¬StartsBinade x.magnitude := by
  have hmod := Nat.mod_lt x.magnitude (show 0 < exponentUnit by decide)
  have hiff : (x.significand = exponentUnit ∧ 1 < x.scale) ↔ StartsBinade x.magnitude := by
    unfold significand scale exponentField StartsBinade
    split_ifs <;> omega
  unfold lowerQuarters
  split
  · next hstart => exact Or.inl ⟨rfl, hstart.1, hiff.mp hstart⟩
  · next hinside => exact Or.inr ⟨rfl, fun hstart => hinside (hiff.mpr hstart)⟩

/-- The gap below a double, in quarters of the gap above it. -/
theorem gap_pred {n : ℕ} (hn : x.magnitude = n + 1) :
    2 * gap n = x.lowerQuarters * gap x.magnitude := by
  rcases x.lowerQuarters_eq with ⟨hone, -, hstart⟩ | ⟨htwo, hinside⟩
  · rw [hone, hn, gap_succ_of_startsBinade (hn ▸ hstart), Nat.cast_one, one_mul]
  · rw [htwo, hn, gap_succ_of_not_startsBinade (hn ▸ hinside), Nat.cast_ofNat]

/-- The significand of a double but zero is positive. -/
theorem significand_pos {n : ℕ} (hn : x.magnitude = n + 1) : 0 < x.significand := by
  unfold significand exponentField
  rw [exponentUnit_eq]
  split_ifs <;> omega

/-- The low end of the interval of a double, in quarters of its gap. -/
theorem lowEnd_eq {n : ℕ} (hn : x.magnitude = n + 1) :
    x.interval.lowEnd = (4 * x.significand - x.lowerQuarters) * (gap x.magnitude / 4) := by
  have hlow : x.lowerQuarters ≤ 4 * x.significand := by
    have hpos := significand_pos hn
    rcases x.lowerQuarters_eq with ⟨hone, -⟩ | ⟨htwo, -⟩ <;> omega
  have hvalue : x.interval.lowEnd =
      ((4 * x.significand - x.lowerQuarters : ℕ) * 2 ^ (x.scale - 1077) : ℕ) /
        ((2 ^ (1077 - x.scale) : ℕ) : ℚ) := by
    simp only [Interval.lowEnd, interval, Nat.pow_eq]
    rfl
  rw [hvalue, Nat.cast_mul, mul_div_assoc, quarter_gap, Nat.cast_sub hlow]
  push_cast
  ring

/-- The interval of a double begins halfway from the point before. -/
theorem lowEnd_interval {n : ℕ} (hn : x.magnitude = n + 1) :
    2 * x.interval.lowEnd = point n + point x.magnitude := by
  have hpoint : point x.magnitude = x.significand * gap x.magnitude := rfl
  have hgap := gap_pred hn
  have hnext := point_succ n
  rw [← hn] at hnext
  rw [lowEnd_eq hn]
  linear_combination -2 * hpoint + hnext + 1 / 2 * hgap

/-- A significand has 53 bits at most. -/
theorem significand_lt (x : Double) : x.significand < 2 ^ 53 := by
  have hmod := Nat.mod_lt x.magnitude (show 0 < exponentUnit by decide)
  unfold significand
  rw [exponentUnit_eq] at *
  split_ifs <;> omega

/-- The interval is wide enough to hold a decimal of seventeen digits. -/
theorem middle_lt_width {n : ℕ} (hn : x.magnitude = n + 1) :
    x.interval.middle < 10 ^ 16 * (x.interval.highEnd - x.interval.lowEnd) := by
  have hpoint : point x.magnitude = x.significand * gap x.magnitude := rfl
  have hwidth : x.interval.highEnd - x.interval.lowEnd =
      (2 + x.lowerQuarters) * (gap x.magnitude / 4) := by
    have hhigh := highEnd_interval x
    have hlow := lowEnd_interval hn
    have hbelow := point_succ n
    have hgap := gap_pred hn
    rw [point_succ] at hhigh
    rw [← hn] at hbelow
    linear_combination 1 / 2 * hhigh - 1 / 2 * hlow + 1 / 2 * hbelow + 1 / 4 * hgap
  have hquarters : 4 * x.significand < 10 ^ 16 * (2 + x.lowerQuarters) := by
    have hbound := significand_lt x
    rcases x.lowerQuarters_eq with ⟨hone, hsignificand, -⟩ | ⟨htwo, -⟩
    · rw [hone, hsignificand, exponentUnit_eq]
      norm_num
    · omega
  have hpos : 0 < gap x.magnitude / 4 := div_pos (gap_pos _) (by norm_num)
  calc x.interval.middle = (4 * x.significand : ℕ) * (gap x.magnitude / 4) := by
        rw [middle_interval, hpoint]
        push_cast
        ring
    _ < (10 ^ 16 * (2 + x.lowerQuarters) : ℕ) * (gap x.magnitude / 4) :=
        mul_lt_mul_of_pos_right (by exact_mod_cast hquarters) hpos
    _ = 10 ^ 16 * (x.interval.highEnd - x.interval.lowEnd) := by
        rw [hwidth]
        push_cast
        ring

/-- The interval of a double but zero begins before its middle. -/
theorem lowEnd_lt_middle {n : ℕ} (hn : x.magnitude = n + 1) :
    x.interval.lowEnd < x.interval.middle := by
  have hlow := lowEnd_interval hn
  have hdown : point n < point x.magnitude := strictMono_point (by omega)
  rw [middle_interval]
  linarith

/-- The interval of a double ends after its middle. -/
theorem middle_lt_highEnd (x : Double) : x.interval.middle < x.interval.highEnd := by
  have hhigh := highEnd_interval x
  have hup : point x.magnitude < point (x.magnitude + 1) := strictMono_point (Nat.lt_succ_self _)
  rw [middle_interval]
  linarith

/-- The search always finds a decimal, at the latest with seventeen digits. -/
theorem exists_search {n : ℕ} (hn : x.magnitude = n + 1) :
    ∃ d, x.interval.search x.interval.pointPosition 1 17 = some d := by
  refine Option.ne_none_iff_exists'.mp fun hnone => ?_
  have hden := denominator_pos x
  have hvalue : 0 < x.interval.value := by
    simp only [interval, Nat.pow_eq]
    have := significand_pos hn
    positivity
  have hfine := Interval.width_le_of_onGrid_eq_none hden (lowEnd_lt_middle hn)
    (middle_lt_highEnd x) (Interval.onGrid_of_search_eq_none hnone 16 (by norm_num))
  have hscale : (10 : ℚ) ^ 16 * 10 ^ (x.interval.pointPosition - (1 + 16 : ℕ)) =
      10 ^ (x.interval.pointPosition - 1) := by
    rw [← zpow_natCast, ← zpow_add₀ (by norm_num)]
    congr 1
    push_cast
    ring
  have hpoint := Interval.zpow_pointPosition_le hden hvalue
  have hwide := middle_lt_width hn
  linarith

/-- The shortest decimal of a positive finite double lies in its cell and has no trailing zero. -/
theorem shortest_inCell {n : ℕ} (hn : x.magnitude = n + 1) :
    InCell x.shortest.value x.magnitude ∧ x.shortest.coefficient % 10 ≠ 0 := by
  obtain ⟨d, hd⟩ := exists_search hn
  obtain ⟨e, hfound⟩ := Interval.exists_onGrid_of_search hd
  obtain ⟨rfl, hcontains⟩ := Interval.onGrid_eq_some hfound
  rw [Interval.contains_decimal_iff (denominator_pos x)] at hcontains
  have hshortest : x.shortest = d.normalize := by rw [shortest, hd, Option.getD_some]
  have hlow := lowEnd_interval hn
  have hhigh := highEnd_interval x
  have hbefore : signedPoint ((x.magnitude : ℤ) - 1) = point n := by
    rw [hn, Nat.cast_succ, add_sub_cancel_right, signedPoint_natCast]
  have hafter : signedPoint ((x.magnitude : ℤ) + 1) = point (x.magnitude + 1) := by
    rw [← signedPoint_natCast, Nat.cast_succ]
  have hthis := signedPoint_natCast x.magnitude
  have hcell : InCell d.value x.magnitude := by
    have hparity := significand_mod_two x
    have hclosed : x.interval.closed = decide (x.significand % 2 = 0) := rfl
    rw [hclosed] at hcontains
    change if _ then _ ≤ d.value ∧ d.value ≤ _ else _ < d.value ∧ d.value < _ at hcontains
    split at hcontains
    · next heven =>
      rw [decide_eq_true_eq] at heven
      refine ⟨?_, ?_, fun hodd => ?_, fun hodd => ?_⟩
      · linarith [hcontains.1]
      · linarith [hcontains.2]
      · omega
      · omega
    · refine ⟨?_, ?_, fun _ => ?_, fun _ => ?_⟩
      · linarith [hcontains.1]
      · linarith [hcontains.2]
      · linarith [hcontains.1]
      · linarith [hcontains.2]
  refine ⟨by rwa [hshortest, Decimal.value_normalize], ?_⟩
  rw [hshortest]
  refine Decimal.coefficient_normalize d fun hzero => ?_
  have hpos : 0 < point x.magnitude := point_zero ▸ strictMono_point (by omega)
  have hnonneg : 0 ≤ point n := point_zero ▸ strictMono_point.monotone (Nat.zero_le n)
  have hvalue : d.value = 0 := by rw [Decimal.value, hzero, Nat.cast_zero, zero_mul]
  have hbelow := hcell.low
  rw [hvalue, hbefore, hthis] at hbelow
  linarith

end Double
end ScriptFiles
