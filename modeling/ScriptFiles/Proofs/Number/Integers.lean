import ScriptFiles.Proofs.Number.Rounding

/-!
# Whole numbers as doubles

`ofInt` takes a whole number into the cell of a double, so that the number rounds to it: the number
fills a number of gaps, `rest` is left over, and the nearer end of the gap is taken.
What follows is that the order of whole numbers is kept, that up to `2 ^ 53` nothing is left over
and that a number of 64 bits is missed by half a gap of 1024 at most.
-/

namespace ScriptFiles

namespace Double

/-! ## Rounding keeps the order -/

/-- Greater numbers round to greater doubles, or to the same. -/
theorem Rounds.value_le {p q : ℚ} {x y : Double} (hx : Rounds p x) (hy : Rounds q y) (h : p ≤ q) :
    x.value ≤ y.value := by
  rcases h.eq_or_lt with rfl | hless
  · exact (hx.value_unique hy).le
  · by_contra hgreater
    have hpx := hx.nearest y hy.finite
    have hqy := hy.nearest x hx.finite
    rcases abs_cases (p - x.value) with h₁ | h₁ <;> rcases abs_cases (p - y.value) with h₂ | h₂ <;>
      rcases abs_cases (q - x.value) with h₃ | h₃ <;>
        rcases abs_cases (q - y.value) with h₄ | h₄ <;> linarith

/-- A number lies in the cell of the double that it is. -/
theorem inCell_signedPoint (r : ℤ) : InCell (signedPoint r) r := by
  have hbefore : signedPoint (r - 1) < signedPoint r := strictMono_signedPoint (by omega)
  have hafter : signedPoint r < signedPoint (r + 1) := strictMono_signedPoint (by omega)
  constructor
  · linarith
  · linarith
  · intro
    linarith
  · intro
    linarith

/-! ## Gaps and the rest -/

/-- The gap of the binade of a whole number; below `2 ^ 53` it is 1. -/
def unit (n : ℕ) : ℕ := 2 ^ (n.log2 - 52)

/-- What a whole number is beyond the last point of the grid before it. -/
def rest (n : ℕ) : ℕ := n % unit n

/-- The gaps that a whole number fills, scaled up to a significand. -/
def filled (n : ℕ) : ℕ :=
  if n.log2 ≤ 52 then n * 2 ^ (52 - n.log2) else n / unit n

/-- The magnitude bits of the last point of the grid that a whole number reaches. -/
def magnitudeBelow (n : ℕ) : ℕ := (n.log2 + 1022) * exponentUnit + filled n

variable {n : ℕ}

/-- A unit is positive. -/
theorem unit_pos (n : ℕ) : 0 < unit n := Nat.two_pow_pos _

/-- The rest is less than a unit. -/
theorem rest_lt (n : ℕ) : rest n < unit n := Nat.mod_lt _ (unit_pos n)

/-- Whole numbers of up to 53 bits have the unit 1. -/
theorem unit_of_le (hn : n.log2 ≤ 52) : unit n = 1 := by
  rw [unit, Nat.sub_eq_zero_of_le hn, pow_zero]

/-- Whole numbers of up to 53 bits leave no rest. -/
theorem rest_of_le (hn : n.log2 ≤ 52) : rest n = 0 := by
  rw [rest, unit_of_le hn, Nat.mod_one]

/-- What is filled is a significand of 53 bits. -/
theorem filled_bounds (hn : n ≠ 0) : exponentUnit ≤ filled n ∧ filled n < 2 * exponentUnit := by
  have hlow := Nat.log2_self_le hn
  have hhigh := Nat.lt_log2_self (n := n)
  have hunit : exponentUnit = 2 ^ 52 := rfl
  rw [hunit, ← pow_succ', filled]
  split
  · next htop =>
    have hsplit : 2 ^ 52 = 2 ^ n.log2 * 2 ^ (52 - n.log2) := by
      rw [← pow_add, Nat.add_sub_cancel' htop]
    have hsplit' : 2 ^ (52 + 1) = 2 ^ (n.log2 + 1) * 2 ^ (52 - n.log2) := by
      rw [← pow_add]
      congr 1
      omega
    rw [hsplit, hsplit']
    exact ⟨Nat.mul_le_mul_right _ hlow, Nat.mul_lt_mul_of_pos_right hhigh (Nat.two_pow_pos _)⟩
  · next htop =>
    have hsplit : 2 ^ n.log2 = 2 ^ 52 * unit n := by
      rw [unit, ← pow_add]
      congr 1
      omega
    constructor
    · rw [Nat.le_div_iff_mul_le (unit_pos n), ← hsplit]
      exact hlow
    · rw [Nat.div_lt_iff_lt_mul (unit_pos n), pow_succ', mul_assoc, ← hsplit, ← pow_succ']
      exact hhigh

/-- The exponent bits of the last point that a whole number reaches. -/
theorem magnitudeBelow_div (hn : n ≠ 0) : magnitudeBelow n / exponentUnit = n.log2 + 1023 := by
  have hbounds := filled_bounds hn
  rw [exponentUnit_eq] at hbounds
  rw [magnitudeBelow, exponentUnit_eq]
  omega

/-- The gap after the last point that a whole number reaches. -/
theorem gap_magnitudeBelow (hn : n ≠ 0) :
    gap (magnitudeBelow n) = 2 ^ ((n.log2 : ℤ) - 52) := by
  have hscale : ((max 1 (n.log2 + 1023) : ℕ) : ℤ) - 1075 = (n.log2 : ℤ) - 52 := by omega
  rw [gap, magnitudeBelow_div hn, hscale]

/-- Beyond 53 bits that gap is the unit. -/
theorem gap_magnitudeBelow_of_lt (hn : n ≠ 0) (htop : 52 < n.log2) :
    gap (magnitudeBelow n) = unit n := by
  have hscale : (n.log2 : ℤ) - 52 = (n.log2 - 52 : ℕ) := by omega
  rw [gap_magnitudeBelow hn, unit, hscale, zpow_natCast, Nat.cast_pow, Nat.cast_ofNat]

/-- The last point that a whole number reaches is the number without the rest. -/
theorem point_magnitudeBelow (hn : n ≠ 0) : point (magnitudeBelow n) = n - rest n := by
  have hbounds := filled_bounds hn
  have hwhole : whole (magnitudeBelow n) = filled n := by
    have hdiv := magnitudeBelow_div hn
    rw [exponentUnit_eq] at hbounds
    rw [whole, hdiv, if_neg (by omega), magnitudeBelow, exponentUnit_eq]
    omega
  have hpoint : point (magnitudeBelow n) = filled n * gap (magnitudeBelow n) := by
    rw [point, hwhole]
  rw [hpoint]
  rcases Nat.lt_or_ge 52 n.log2 with htop | htop
  · have hdivide := Nat.div_add_mod n (unit n)
    rw [gap_magnitudeBelow_of_lt hn htop, filled, if_neg (by omega), eq_sub_iff_add_eq, rest]
    norm_cast
    rw [mul_comm]
    exact hdivide
  · have hcancel : ((2 : ℚ) ^ (52 - n.log2)) * 2 ^ ((n.log2 : ℤ) - 52) = 1 := by
      rw [← zpow_natCast, ← zpow_add₀ two_ne_zero, Nat.cast_sub htop]
      norm_num
    rw [gap_magnitudeBelow hn, filled, if_pos htop, rest_of_le htop]
    push_cast
    rw [mul_assoc, hcancel, mul_one, sub_zero]

/-- The nearer end of the gap is taken, in the middle the even one. -/
theorem magnitudeOfNat_eq (hn : n ≠ 0) :
    magnitudeOfNat n = magnitudeBelow n +
      if unit n < 2 * rest n ∨ (unit n = 2 * rest n ∧ magnitudeBelow n % 2 = 1) then 1 else 0 := by
  have hparity : magnitudeBelow n % 2 = filled n % 2 := by
    rw [magnitudeBelow, exponentUnit_eq]
    omega
  rw [hparity, magnitudeOfNat, if_neg hn]
  rcases Nat.lt_or_ge 52 n.log2 with htop | htop
  · have hfilled : filled n = n / unit n := if_neg (by omega)
    simp only [if_neg (show ¬ n.log2 ≤ 52 by omega), Nat.pow_eq]
    rw [magnitudeBelow, hfilled, ← unit, ← rest]
    split_ifs <;> omega
  · have hfilled : filled n = n * 2 ^ (52 - n.log2) := if_pos htop
    simp only [if_pos htop, Nat.pow_eq]
    rw [magnitudeBelow, hfilled, unit_of_le htop, rest_of_le htop]
    simp

/-- The next point is a gap further, and the number lies before it. -/
theorem point_magnitudeBelow_succ (hn : n ≠ 0) (htop : 52 < n.log2) :
    point (magnitudeBelow n + 1) = n - rest n + unit n := by
  rw [point_succ, point_magnitudeBelow hn, gap_magnitudeBelow_of_lt hn htop]

/-- A whole number lies in the cell that its magnitude bits name. -/
theorem inCell_magnitudeOfNat (n : ℕ) : InCell n (magnitudeOfNat n) := by
  rcases eq_or_ne n 0 with rfl | hn
  · have hzero := inCell_signedPoint 0
    rwa [signedPoint_zero] at hzero
  rcases Nat.lt_or_ge 52 n.log2 with htop | htop
  · have hbelow : signedPoint (magnitudeBelow n) = n - rest n := by
      rw [signedPoint_natCast, point_magnitudeBelow hn]
    have habove : signedPoint ((magnitudeBelow n : ℤ) + 1) = n - rest n + unit n := by
      rw [← point_magnitudeBelow_succ hn htop, ← signedPoint_natCast, Nat.cast_succ]
    have hrest : (rest n : ℚ) < unit n := by exact_mod_cast rest_lt n
    have hnonneg : (0 : ℚ) ≤ rest n := Nat.cast_nonneg _
    rw [magnitudeOfNat_eq hn]
    split
    · next hup =>
      have hnear : (unit n : ℚ) ≤ 2 * rest n := by exact_mod_cast (by omega)
      have hnext : signedPoint ((magnitudeBelow n : ℤ) + 1) <
          signedPoint ((magnitudeBelow n : ℤ) + 1 + 1) := strictMono_signedPoint (by omega)
      push_cast
      refine ⟨?_, ?_, fun hodd => ?_, fun _ => ?_⟩
      · rw [add_sub_cancel_right]
        linarith
      · linarith
      · -- the point above is odd, so the one below is even and this is no tie
        have hstrict : (unit n : ℚ) < 2 * rest n := by exact_mod_cast (by omega)
        rw [add_sub_cancel_right]
        linarith
      · linarith
    · next hdown =>
      have hnear : 2 * (rest n : ℚ) ≤ unit n := by exact_mod_cast (by omega)
      have hprevious : signedPoint ((magnitudeBelow n : ℤ) - 1) < signedPoint (magnitudeBelow n) :=
        strictMono_signedPoint (by omega)
      rw [Nat.add_zero]
      refine ⟨?_, ?_, fun _ => ?_, fun hodd => ?_⟩
      · linarith
      · linarith
      · linarith
      · have hstrict : 2 * (rest n : ℚ) < unit n := by exact_mod_cast (by omega)
        linarith
  · have hexact : magnitudeOfNat n = magnitudeBelow n := by
      rw [magnitudeOfNat_eq hn, unit_of_le htop, rest_of_le htop, if_neg (by omega), Nat.add_zero]
    have hpoint : signedPoint (magnitudeBelow n) = n := by
      rw [signedPoint_natCast, point_magnitudeBelow hn, rest_of_le htop, Nat.cast_zero, sub_zero]
    have hcell := inCell_signedPoint (magnitudeBelow n)
    rwa [hpoint, ← hexact] at hcell

/-- The error of rounding is the rest or less. -/
theorem abs_sub_point_le_rest (hn : n ≠ 0) :
    |(n : ℚ) - point (magnitudeOfNat n)| ≤ rest n := by
  have hnear := (inCell_magnitudeOfNat n).abs_sub_le (magnitudeBelow n)
  rw [signedPoint_natCast, signedPoint_natCast, point_magnitudeBelow hn, sub_sub_cancel,
    Nat.abs_cast] at hnear
  exact hnear

/-- The error of rounding is half a gap or less. -/
theorem two_mul_abs_sub_point_le (hn : n ≠ 0) :
    2 * |(n : ℚ) - point (magnitudeOfNat n)| ≤ unit n := by
  have hrest := abs_sub_point_le_rest hn
  rcases Nat.lt_or_ge 52 n.log2 with htop | htop
  · have hnear := (inCell_magnitudeOfNat n).abs_sub_le (magnitudeBelow n + 1 : ℕ)
    have hless : (rest n : ℚ) < unit n := by exact_mod_cast rest_lt n
    have hother : (n : ℚ) - (n - rest n + unit n) = -(unit n - rest n) := by ring
    rw [signedPoint_natCast, signedPoint_natCast, point_magnitudeBelow_succ hn htop, hother,
      abs_neg, abs_of_pos (sub_pos.mpr hless)] at hnear
    linarith
  · rw [rest_of_le htop, Nat.cast_zero] at hrest
    have hunit : (0 : ℚ) ≤ unit n := Nat.cast_nonneg _
    linarith

/-- Up to `2 ^ 53` nothing is left over. -/
theorem point_magnitudeOfNat (hsmall : n ≤ 2 ^ 53) : point (magnitudeOfNat n) = n := by
  rcases eq_or_ne n 0 with rfl | hn
  · rw [show magnitudeOfNat 0 = 0 from rfl, point_zero, Nat.cast_zero]
  have hrest : rest n = 0 := by
    rcases hsmall.lt_or_eq with hless | rfl
    · have htop := (Nat.log2_lt hn).mpr hless
      exact rest_of_le (by omega)
    · rfl
  have herror := abs_sub_point_le_rest hn
  rw [hrest, Nat.cast_zero] at herror
  exact (sub_eq_zero.mp (abs_nonpos_iff.mp herror)).symm

/-- Magnitudes of 64 bit integers are missed by 512 at most. -/
theorem abs_sub_point_le (hsmall : n ≤ 2 ^ 63) :
    |(n : ℚ) - point (magnitudeOfNat n)| ≤ 512 := by
  rcases eq_or_ne n 0 with rfl | hn
  · rw [show magnitudeOfNat 0 = 0 from rfl, point_zero]
    norm_num
  rcases hsmall.lt_or_eq with hless | rfl
  · have htop := (Nat.log2_lt hn).mpr hless
    have hunit : unit n ≤ 1024 := Nat.pow_le_pow_right two_pos (show n.log2 - 52 ≤ 10 by omega)
    have hcast : (unit n : ℚ) ≤ 1024 := by exact_mod_cast hunit
    linarith [two_mul_abs_sub_point_le hn]
  · have hrest : rest (2 ^ 63) = 0 := rfl
    have herror := abs_sub_point_le_rest hn
    rw [hrest] at herror
    exact herror.trans (by norm_num)

/-! ## Whole numbers with a sign -/

/-- Whole numbers of 64 bits stay finite. -/
theorem magnitudeOfNat_lt (hsmall : n < 2 ^ 64) : magnitudeOfNat n < infinityMagnitude := by
  rcases eq_or_ne n 0 with rfl | hn
  · decide
  have htop := (Nat.log2_lt hn).mpr hsmall
  have hfilled := (filled_bounds hn).2
  rw [exponentUnit_eq] at hfilled
  rw [magnitudeOfNat_eq hn, magnitudeBelow, exponentUnit_eq, infinityMagnitude_eq]
  split <;> omega

/-- Whole numbers but zero have magnitude bits. -/
theorem magnitudeOfNat_pos (hn : n ≠ 0) : 0 < magnitudeOfNat n := by
  rw [magnitudeOfNat_eq hn, magnitudeBelow, exponentUnit_eq]
  omega

variable {i : ℤ}

/-- The bits of a whole number are those of its magnitude and the sign bit. -/
theorem toNat_bits_ofInt (hsmall : i.natAbs < 2 ^ 64) :
    (ofInt i).bits.toNat = magnitudeOfNat i.natAbs + if i < 0 then signUnit else 0 := by
  have hfinite := magnitudeOfNat_lt hsmall
  rw [infinityMagnitude_eq] at hfinite
  rw [ofInt, UInt64.toNat_ofNat']
  apply Nat.mod_eq_of_lt
  rw [signUnit_eq]
  split <;> omega

/-- The magnitude bits of a whole number are those of its absolute value. -/
theorem magnitude_ofInt (hsmall : i.natAbs < 2 ^ 64) :
    (ofInt i).magnitude = magnitudeOfNat i.natAbs := by
  have hfinite := magnitudeOfNat_lt hsmall
  rw [infinityMagnitude_eq] at hfinite
  rw [magnitude, toNat_bits_ofInt hsmall, signUnit_eq]
  split <;> omega

/-- The sign bit of a whole number is set exactly below zero. -/
theorem isNegative_ofInt (hsmall : i.natAbs < 2 ^ 64) : (ofInt i).isNegative = decide (i < 0) := by
  have hfinite := magnitudeOfNat_lt hsmall
  rw [infinityMagnitude_eq] at hfinite
  rw [isNegative, toNat_bits_ofInt hsmall, signUnit_eq, decide_eq_decide]
  split <;> omega

/-- Only zero becomes a zero. -/
theorem isZero_ofInt (hsmall : i.natAbs < 2 ^ 64) : (ofInt i).isZero = decide (i = 0) := by
  rw [isZero, magnitude_ofInt hsmall, decide_eq_decide]
  rcases eq_or_ne i 0 with rfl | hi
  · simp [magnitudeOfNat]
  · have hpos := magnitudeOfNat_pos (Int.natAbs_ne_zero.mpr hi)
    omega

/-- Whole numbers of 64 bits become finite doubles. -/
theorem isFinite_ofInt (hsmall : i.natAbs < 2 ^ 64) : (ofInt i).IsFinite := by
  rw [IsFinite, magnitude_ofInt hsmall]
  exact magnitudeOfNat_lt hsmall

/-- The rank of a whole number that is not negative. -/
theorem rank_ofInt_natCast (hsmall : n < 2 ^ 64) : (ofInt n).rank = magnitudeOfNat n := by
  have habs : (n : ℤ).natAbs < 2 ^ 64 := by simpa using hsmall
  rw [rank, isNegative_ofInt habs, magnitude_ofInt habs, if_neg (by simp), Int.natAbs_natCast]

/-- The rank of a whole number that is not positive. -/
theorem rank_ofInt_neg (hsmall : n < 2 ^ 64) : (ofInt (-n)).rank = -magnitudeOfNat n := by
  have habs : (-(n : ℤ)).natAbs < 2 ^ 64 := by simpa using hsmall
  rw [rank, isNegative_ofInt habs, magnitude_ofInt habs, Int.natAbs_neg, Int.natAbs_natCast]
  rcases eq_or_ne n 0 with rfl | hn
  · rfl
  · rw [if_pos (by simp; omega)]

/-- A whole number rounds to its double. -/
theorem rounds_ofInt (hsmall : i.natAbs < 2 ^ 64) : Rounds i (ofInt i) := by
  apply rounds_of_inCell (isFinite_ofInt hsmall)
  obtain ⟨n, rfl | rfl⟩ := i.eq_nat_or_neg
  · rw [rank_ofInt_natCast (by simpa using hsmall)]
    exact_mod_cast inCell_magnitudeOfNat n
  · rw [rank_ofInt_neg (by simpa using hsmall)]
    exact_mod_cast (inCell_magnitudeOfNat n).neg

/-- Whole numbers up to `2 ^ 53` are doubles. -/
theorem value_ofInt (hsmall : i.natAbs ≤ 2 ^ 53) : (ofInt i).value = i := by
  obtain ⟨n, rfl | rfl⟩ := i.eq_nat_or_neg
  · have hn : n ≤ 2 ^ 53 := by simpa using hsmall
    rw [value_eq, rank_ofInt_natCast (by omega), signedPoint_natCast, point_magnitudeOfNat hn,
      Int.cast_natCast]
  · have hn : n ≤ 2 ^ 53 := by simpa using hsmall
    rw [value_eq, rank_ofInt_neg (by omega), signedPoint_neg, signedPoint_natCast,
      point_magnitudeOfNat hn, Int.cast_neg, Int.cast_natCast]

/-- Integers of 64 bits are missed by 512 at most. -/
theorem abs_sub_value_ofInt_le (hsmall : i.natAbs ≤ 2 ^ 63) : |(i : ℚ) - (ofInt i).value| ≤ 512 := by
  obtain ⟨n, rfl | rfl⟩ := i.eq_nat_or_neg
  · have hn : n ≤ 2 ^ 63 := by simpa using hsmall
    rw [value_eq, rank_ofInt_natCast (by omega), signedPoint_natCast, Int.cast_natCast]
    exact abs_sub_point_le hn
  · have hn : n ≤ 2 ^ 63 := by simpa using hsmall
    rw [value_eq, rank_ofInt_neg (by omega), signedPoint_neg, signedPoint_natCast, Int.cast_neg,
      Int.cast_natCast, neg_sub_neg, abs_sub_comm]
    exact abs_sub_point_le hn

/-- No whole number becomes the negative zero. -/
theorem ofInt_ne_negative_zero (hsmall : i.natAbs < 2 ^ 64) : ofInt i ≠ ⟨0x8000000000000000⟩ := by
  intro hminus
  have hzero := isZero_ofInt hsmall
  have hnegative := isNegative_ofInt hsmall
  rw [hminus] at hzero hnegative
  have hi : i = 0 := of_decide_eq_true (hzero.symm.trans (by decide))
  have hless : i < 0 := of_decide_eq_true (hnegative.symm.trans (by decide))
  omega

end Double
end ScriptFiles
