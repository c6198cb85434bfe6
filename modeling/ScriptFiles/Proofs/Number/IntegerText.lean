import ScriptFiles.Proofs.Delivery
import ScriptFiles.Proofs.Number.Integers
import ScriptFiles.Proofs.Number.Text

/-!
# The text of whole numbers

Up to `2 ^ 53` the text of a whole number's double is the decimal numeral of the whole number. The
search for the shortest digits stops at the latest on the grid of the whole numbers, and no other
whole number lies in the cell, so that the shortest decimal is the number itself; written without its
trailing zeros and with them put back, its digits are those of the number.
-/

namespace ScriptFiles

namespace Double

variable {n : ℕ} {i : ℤ}

/-! ## Shortest digits of whole numbers -/

/-- The search goes on to finer grids only after it found nothing, so that what it finds is on a grid
as coarse as any on which there is something. -/
theorem Interval.le_exponent_search {i : Interval} {point : ℤ} {count left : ℕ} {d : Decimal}
    (hfound : i.search point count left = some d) {k : ℕ}
    (hhit : i.onGrid (point - (count + k : ℕ)) ≠ none) : point - (count + k : ℕ) ≤ d.exponent := by
  induction left generalizing count k with
  | zero => cases hfound
  | succ left ih =>
    rw [search] at hfound
    split at hfound
    · next d' hhere =>
      cases hfound
      have hexponent := (onGrid_eq_some hhere).1
      omega
    · next hnone =>
      cases k with
      | zero => exact absurd hnone hhit
      | succ k =>
        have hshift : count + (k + 1) = count + 1 + k := by omega
        rw [hshift] at hhit ⊢
        exact ih hfound hhit

variable {x : Double}

/-- The value of the interval of a whole number. -/
theorem value_interval (hpoint : point x.magnitude = n) :
    x.interval.value = n * x.interval.denominator := by
  have hden : (x.interval.denominator : ℚ) ≠ 0 := by exact_mod_cast (denominator_pos x).ne'
  have hmiddle := middle_interval x
  rw [hpoint, Interval.middle, div_eq_iff hden] at hmiddle
  exact_mod_cast hmiddle

/-- The decimal point of a whole number comes after its digits. -/
theorem pointPosition_interval (hn : n ≠ 0) (hpoint : point x.magnitude = n) :
    x.interval.pointPosition = Decimal.digitCount n := by
  have hden := denominator_pos x
  rw [Interval.pointPosition, value_interval hpoint,
    if_pos (Nat.le_mul_of_pos_left _ (Nat.pos_of_ne_zero hn)), Nat.mul_div_cancel _ hden]

/-- A whole number is on the grid of the whole numbers. -/
theorem onGrid_zero_ne_none {m : ℕ} (hm : x.magnitude = m + 1) (hpoint : point x.magnitude = n) :
    x.interval.onGrid 0 ≠ none := by
  intro hnone
  have hden := denominator_pos x
  obtain ⟨k, hk, hmiss, -⟩ := Interval.onGrid_eq_none hnone
  have hsame : k = n := by
    rw [hk, value_interval hpoint]
    simp [hden.ne']
  have hmiddle := (middle_interval x).trans hpoint
  have hlow := lowEnd_lt_middle hm
  have hhigh := middle_lt_highEnd x
  rw [hmiddle] at hlow hhigh
  rw [hsame, ← Bool.not_eq_true, Interval.contains_decimal_iff hden, zpow_zero, mul_one] at hmiss
  apply hmiss
  split
  · exact ⟨hlow.le, hhigh.le⟩
  · exact ⟨hlow, hhigh⟩

/-- The shortest decimal of a whole number is a whole number. -/
theorem exists_shortest_value_eq {m : ℕ} (hm : x.magnitude = m + 1) (hn : n ≠ 0)
    (hpoint : point x.magnitude = n) : ∃ k : ℕ, x.shortest.value = k := by
  obtain ⟨d, hd⟩ := exists_search hm
  have hgrid : x.interval.pointPosition - (1 + (Decimal.digitCount n - 1) : ℕ) = 0 := by
    have hcount : 0 < Decimal.digitCount n := by
      rw [Decimal.digitCount_eq]
      exact List.length_pos_iff.mpr (Nat.digits_ne_nil_iff_ne_zero.mpr hn)
    rw [pointPosition_interval hn hpoint]
    omega
  have hexponent : 0 ≤ d.exponent := by
    rw [← hgrid]
    apply Interval.le_exponent_search hd
    rw [hgrid]
    exact onGrid_zero_ne_none hm hpoint
  refine ⟨d.coefficient * 10 ^ d.exponent.toNat, ?_⟩
  rw [shortest, hd, Option.getD_some, Decimal.value_normalize, Decimal.value]
  push_cast
  rw [← zpow_natCast, Int.toNat_of_nonneg hexponent]

/-- Gaps do not shrink with the magnitude. -/
theorem gap_le_gap_succ (n : ℕ) : gap n ≤ gap (n + 1) := by
  have hpos := gap_pos n
  by_cases hstart : StartsBinade (n + 1)
  · rw [gap_succ_of_startsBinade hstart]
    linarith
  · rw [gap_succ_of_not_startsBinade hstart]

/-- Where gaps are not greater than 1, no other whole number lies in the cell of a whole number. -/
theorem shortest_value_of_gap_le {m : ℕ} (hm : x.magnitude = m + 1) (hn : n ≠ 0)
    (hpoint : point x.magnitude = n) (hgap : gap x.magnitude ≤ 1) : x.shortest.value = n := by
  obtain ⟨k, hk⟩ := exists_shortest_value_eq hm hn hpoint
  have hcell := (shortest_inCell hm).1
  have hbefore : (n : ℚ) - 1 ≤ signedPoint ((x.magnitude : ℤ) - 1) := by
    have hnext := point_succ m
    have hsmaller := gap_le_gap_succ m
    rw [← hm] at hnext hsmaller
    rw [hm, Nat.cast_succ, add_sub_cancel_right, signedPoint_natCast]
    linarith
  have hafter : signedPoint ((x.magnitude : ℤ) + 1) ≤ n + 1 := by
    rw [← Nat.cast_succ, signedPoint_natCast, Nat.succ_eq_add_one, point_succ]
    linarith
  have hthis : signedPoint x.magnitude = n := by rw [signedPoint_natCast, hpoint]
  have hlow : ((2 * n : ℕ) : ℚ) ≤ (2 * k + 1 : ℕ) := by
    push_cast
    linarith [hcell.low]
  have hhigh : ((2 * k : ℕ) : ℚ) ≤ (2 * n + 1 : ℕ) := by
    push_cast
    linarith [hcell.high]
  have hlow' : 2 * n ≤ 2 * k + 1 := by exact_mod_cast hlow
  have hhigh' : 2 * k ≤ 2 * n + 1 := by exact_mod_cast hhigh
  rw [hk, show k = n by omega]

/-- Up to `2 ^ 53` the shortest decimal of a whole number is that number. -/
theorem shortest_value_ofInt (hi : i ≠ 0) (hsmall : i.natAbs ≤ 2 ^ 53) :
    (ofInt i).shortest.value = i.natAbs := by
  have hmagnitude := magnitude_ofInt (i := i) (by omega)
  have habs : i.natAbs ≠ 0 := Int.natAbs_ne_zero.mpr hi
  obtain ⟨m, hm⟩ := Nat.exists_eq_succ_of_ne_zero (magnitudeOfNat_pos habs).ne'
  rcases hsmall.lt_or_eq with hless | htop
  · apply shortest_value_of_gap_le (hmagnitude.trans hm) habs
    · rw [hmagnitude, point_magnitudeOfNat hsmall]
    · have hlog : i.natAbs.log2 ≤ 52 := by
        have := (Nat.log2_lt habs).mpr hless
        omega
      rw [hmagnitude, magnitudeOfNat_eq habs, unit_of_le hlog, rest_of_le hlog, if_neg (by omega),
        Nat.add_zero, gap_magnitudeBelow habs]
      exact zpow_le_one_of_nonpos₀ one_le_two (by omega)
  · -- the gap above `2 ^ 53` is 2, and the next whole number is at the end of the interval
    have hshortest : (ofInt i).shortest = ⟨2 ^ 53, 0⟩ := by
      rcases Int.natAbs_eq i with heq | heq
      all_goals
        rw [heq, htop]
        decide +kernel
    rw [hshortest, htop, Decimal.value, zpow_zero, mul_one]

end Double

/-! ## The text of whole numbers -/

namespace Decimal

/-- A power of ten puts zeros behind the digits. -/
theorem digits_mul_pow {c : ℕ} (hc : c ≠ 0) (e : ℕ) :
    digits (c * 10 ^ e) = digits c ++ List.replicate e 0 := by
  rw [digits_eq, digits_eq, mul_comm, Nat.digits_base_pow_mul (by decide) (Nat.pos_of_ne_zero hc),
    List.reverse_append, List.reverse_replicate]

/-- A decimal without trailing zeros that is a whole number has no digits after the point. -/
theorem exponent_nonneg {d : Decimal} {n : ℕ} (hlast : d.coefficient % 10 ≠ 0)
    (hvalue : d.value = n) : 0 ≤ d.exponent := by
  by_contra hneg
  obtain ⟨k, hk⟩ : ∃ k : ℕ, d.exponent = -((k + 1 : ℕ) : ℤ) :=
    ⟨(-d.exponent).toNat - 1, by omega⟩
  rw [value, hk, zpow_neg, zpow_natCast, ← div_eq_mul_inv, div_eq_iff (by positivity)] at hvalue
  have hwhole : d.coefficient = n * 10 ^ (k + 1) := by exact_mod_cast hvalue
  rw [hwhole, pow_succ, ← mul_assoc, Nat.mul_mod_left] at hlast
  exact hlast rfl

/-- Its text is that of the whole number. -/
theorem positional_eq {d : Decimal} {n : ℕ} (hlast : d.coefficient % 10 ≠ 0)
    (hvalue : d.value = n) : d.positional .script = digitChars (digits n) := by
  have hexponent := exponent_nonneg hlast hvalue
  have hne := ne_zero_of_mod_ten hlast
  have hwhole : n = d.coefficient * 10 ^ d.exponent.toNat := by
    have hcast : (n : ℚ) = d.coefficient * 10 ^ d.exponent.toNat := by
      rw [← hvalue, value, ← zpow_natCast, Int.toNat_of_nonneg hexponent]
    exact_mod_cast hcast
  have hpoint : ¬((digits d.coefficient).length : ℤ) + d.exponent ≤ 0 := by
    have hlen := List.length_pos_iff.mpr (digits_ne_nil hne)
    omega
  have hstyle : NumberStyle.script.pointInWholes = false := rfl
  rw [hwhole, digits_mul_pow hne]
  simp [positional, hpoint, hexponent, hstyle, digitChars, Nat.digitChar]

/-- The digits of a number are written as in the library. -/
theorem digitChars_digits {n : ℕ} (hn : n ≠ 0) : digitChars (digits n) = Nat.toDigits 10 n := by
  induction n using digits.induct with
  | case1 => exact absurd rfl hn
  | case2 n hn ih =>
    rw [digits, dif_neg hn, digitChars, List.map_append, ← digitChars]
    rcases Nat.lt_or_ge n 10 with hless | hmore
    · rw [Nat.div_eq_of_lt hless, Nat.mod_eq_of_lt hless, Nat.toDigits_of_lt_base hless, digits,
        dif_pos rfl]
      rfl
    · rw [ih (by omega), Nat.toDigits_of_base_le (by decide) hmore]
      rfl

end Decimal

/-- A whole number is written as in the library. -/
theorem natChars_eq_toDigits (n : ℕ) : natChars n = Nat.toDigits 10 n := by
  unfold natChars
  split
  · next hzero =>
    rw [hzero]
    rfl
  · next hn => exact Decimal.digitChars_digits hn

/-- The text of a whole number is its decimal numeral. -/
theorem intText_eq_toString (i : ℤ) : intText i = toString i := by
  rw [intText, intChars]
  cases i with
  | ofNat n =>
    rw [if_neg (by simp), natChars_eq_toDigits]
    rfl
  | negSucc n =>
    have hminus : toString (Int.negSucc n) = "-" ++ String.ofList (Nat.toDigits 10 (n + 1)) := rfl
    rw [if_pos (Int.negSucc_lt_zero n), natChars_eq_toDigits, hminus, ← List.singleton_append,
      String.ofList_append]
    rfl

namespace Double

variable {i : ℤ}

/-- Numbers from 1 to `2 ^ 53` carry no power of ten. -/
theorem hasPower_ofInt (hi : i ≠ 0) (hsmall : i.natAbs ≤ 2 ^ 53) :
    (ofInt i).hasPower .script = false := by
  have hsize : i.natAbs < 2 ^ 64 := by omega
  have hzero : (ofInt i).isZero = false := by
    rw [isZero_ofInt hsize]
    exact decide_eq_false hi
  have habs : |(ofInt i).value| = i.natAbs := by
    rw [abs_value, magnitude_ofInt hsize, point_magnitudeOfNat hsmall]
  have hlow : (1 : ℚ) ≤ i.natAbs := by exact_mod_cast Int.natAbs_pos.mpr hi
  have hhigh : (i.natAbs : ℚ) ≤ 2 ^ 53 := by exact_mod_cast hsmall
  -- the bound for small numbers is at most twice a millionth, as zero is not nearer
  have hbound : NumberStyle.script.smallBelow.value < 1 := by
    have hnear := rounds_smallBelow.nearest ⟨0⟩ (by decide)
    have hvalue : (⟨0⟩ : Double).value = 0 := by
      rw [value_eq, show (⟨0⟩ : Double).rank = 0 from rfl, signedPoint_zero]
    rw [hvalue, sub_zero, abs_of_pos (by norm_num : (0 : ℚ) < 1 / 10 ^ 6)] at hnear
    have hupper := (abs_le.mp hnear).1
    linarith
  rw [← Bool.not_eq_true, hasPower_script_iff hzero, habs]
  rintro (hlarge | hless)
  · norm_num at hlarge hhigh
    linarith
  · linarith

/-- Up to `2 ^ 53` the text of a whole number's double is the text of the whole number. -/
theorem chars_ofInt (hsmall : i.natAbs ≤ 2 ^ 53) : (ofInt i).chars .script = intChars i := by
  rcases eq_or_ne i 0 with rfl | hi
  · decide
  have hsize : i.natAbs < 2 ^ 64 := by omega
  have hfinite := isFinite_ofInt hsize
  have hnan : (ofInt i).isNaN = false := decide_eq_false hfinite.not_gt
  have hinfinite : (ofInt i).isInfinite = false := decide_eq_false hfinite.ne
  have hzero : (ofInt i).isZero = false := by
    rw [isZero_ofInt hsize]
    exact decide_eq_false hi
  have hbody : (ofInt i).magnitudeChars .script = natChars i.natAbs := by
    rw [magnitudeChars, hasPower_ofInt hi hsmall, if_neg Bool.false_ne_true,
      Decimal.positional_eq (coefficient_shortest hzero) (shortest_value_ofInt hi hsmall), natChars,
      if_neg (Int.natAbs_ne_zero.mpr hi)]
  rw [chars, hnan, hinfinite, hzero, hbody, isNegative_ofInt hsize, intChars]
  by_cases hneg : i < 0 <;> simp [hneg]

end Double

/-! ## Times of files -/

/-- The time among the properties of a status is the number of its count of milliseconds. -/
theorem lastModified_statProperties (status : FileStatus) :
    (statProperties (.ok (.status status))).get? "lastModified" =
      some (.ofInt64 status.lastModified) := by
  rw [statProperties_eq]
  rfl

/-- The magnitude of a signed word is at most that of the least one. -/
theorem Value.natAbs_toInt_le (m : Int64) : m.toInt.natAbs ≤ 2 ^ 63 := by
  have hlow := m.le_toInt
  have hhigh := m.toInt_lt
  omega

open Double in
/-- Times keep their order and, in range, their value. The number that `stat` reports for a count of
milliseconds is the one that the count converts to and that it rounds to. It is finite and not the
negative zero, not less than the number of an earlier count and off by 512 at most. Up to `2 ^ 53` it
is the count itself, less than that of a later one in range, and its text is the decimal numeral of
the count. -/
theorem Value.times_keep_order (status later : FileStatus) :
    ∃ x y : Double,
      (statProperties (.ok (.status status))).get? "lastModified" = some (.number x) ∧
      ofInt64 status.lastModified = .number x ∧
      (statProperties (.ok (.status later))).get? "lastModified" = some (.number y) ∧
      ofInt64 later.lastModified = .number y ∧
      Rounds status.lastModified.toInt x ∧
      (status.lastModified ≤ later.lastModified → x.value ≤ y.value) ∧
      x.IsFinite ∧ x ≠ ⟨0x8000000000000000⟩ ∧
      |x.value - status.lastModified.toInt| ≤ 512 ∧
      (|status.lastModified.toInt| ≤ 2 ^ 53 →
        x.value = status.lastModified.toInt ∧
        (number x).text = toString status.lastModified.toInt ∧
        (status.lastModified < later.lastModified → |later.lastModified.toInt| ≤ 2 ^ 53 →
          x.value < y.value)) := by
  have hstatus := natAbs_toInt_le status.lastModified
  have hlater := natAbs_toInt_le later.lastModified
  have hround := rounds_ofInt (i := status.lastModified.toInt) (by omega)
  refine ⟨ofInt status.lastModified.toInt, ofInt later.lastModified.toInt,
    lastModified_statProperties status, rfl, lastModified_statProperties later, rfl, hround,
    fun hle => ?_, hround.finite, ofInt_ne_negative_zero (by omega), ?_, fun hrange => ?_⟩
  · refine hround.value_le (rounds_ofInt (by omega)) ?_
    exact_mod_cast Int64.le_iff_toInt_le.mp hle
  · rw [abs_sub_comm]
    exact abs_sub_value_ofInt_le hstatus
  · rw [Int.abs_eq_natAbs] at hrange
    have hexact := value_ofInt (i := status.lastModified.toInt) (by omega)
    refine ⟨hexact, ?_, fun hless hrange' => ?_⟩
    · rw [← intText_eq_toString]
      exact congrArg String.ofList (chars_ofInt (by omega))
    · rw [Int.abs_eq_natAbs] at hrange'
      rw [hexact, value_ofInt (by omega)]
      exact_mod_cast Int64.lt_iff_toInt_lt.mp hless

/-- The first whole number that is no double lies in the middle of a gap. -/
theorem Value.times_keep_order_tie :
    ofInt64 9007199254740993 = .number ⟨0x4340000000000000⟩ ∧
      Double.Rounds 9007199254740993 ⟨0x4340000000000000⟩ := by
  have hnumber : ofInt64 9007199254740993 = .number ⟨0x4340000000000000⟩ := by decide +kernel
  obtain ⟨x, -, -, hx, -, -, hround, -⟩ :=
    times_keep_order ⟨true, false, true, 9007199254740993⟩ .missing
  obtain rfl := Value.number.inj (hx.symm.trans hnumber)
  exact ⟨hnumber, hround⟩

end ScriptFiles
