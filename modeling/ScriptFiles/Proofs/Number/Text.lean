import ScriptFiles.Value.Basic
import ScriptFiles.Proofs.Number.Numeral

/-!
# Number text loses nothing

The string form of a finite double is a numeral, `Double.numeral`: the digits of the shortest
decimal, laid out with zeros and a point, or as one digit, a fraction and a power of ten. Wherever
the point is put, the value of the numeral is that of the decimal, which rounds to the double.
-/

namespace ScriptFiles

/-- The look of a number that is not zero: a power of ten comes with its sign and after one digit
that is not zero, and no zero is redundant, neither in front nor at the end of a fraction. -/
structure Numeral.Tidy (t : Numeral) : Prop where
  sign : t.sign ≠ some .plus
  power_sign : ∀ p ∈ t.power, p.sign ≠ none
  whole_of_power : t.power ≠ none → ∃ d, t.whole = [d] ∧ d ≠ 0
  whole : t.whole = [0] ∨ t.whole.head? ≠ some 0
  fraction : t.fraction.getLast? ≠ some 0

/-! ## Values of digits -/

/-- No digits have the value zero. -/
@[simp] theorem digitsValue_nil : digitsValue [] = 0 := rfl

/-- A leading zero makes no difference. -/
@[simp] theorem digitsValue_zero_cons (ds : List ℕ) : digitsValue (0 :: ds) = digitsValue ds := by
  rw [digitsValue, List.reverse_cons, Nat.ofDigits_append_zero, digitsValue]

/-- More digits behind shift those in front. -/
theorem digitsValue_append (ds es : List ℕ) :
    digitsValue (ds ++ es) = digitsValue ds * 10 ^ es.length + digitsValue es := by
  rw [digitsValue, List.reverse_append, Nat.ofDigits_append, List.length_reverse, digitsValue,
    digitsValue]
  ring

/-- Zeros have the value zero. -/
@[simp] theorem digitsValue_replicate_zero (n : ℕ) : digitsValue (List.replicate n 0) = 0 := by
  rw [digitsValue, List.reverse_replicate, Nat.ofDigits_replicate_zero]

/-- The point of a numeral only shifts the exponent of its digits. -/
theorem Numeral.value_eq (t : Numeral) :
    t.value = Sign.factor t.sign *
      (digitsValue (t.whole ++ t.fraction) *
        10 ^ (t.power.elim 0 Power.value - t.fraction.length)) := by
  have hten : (10 : ℚ) ≠ 0 := by norm_num
  rw [value, digitsValue_append, zpow_sub₀ hten, zpow_natCast]
  push_cast
  field_simp

namespace Decimal

/-- The digits are those of the library, the last one last. -/
theorem digits_eq (n : ℕ) : digits n = (Nat.digits 10 n).reverse := by
  induction n using digits.induct with
  | case1 => rw [digits, dif_pos rfl, Nat.digits_zero, List.reverse_nil]
  | case2 n hn ih =>
    rw [digits, dif_neg hn, ih, Nat.digits_def' (by decide) (Nat.pos_of_ne_zero hn),
      List.reverse_cons]

/-- The digits of a number have its value. -/
@[simp] theorem digitsValue_digits (n : ℕ) : digitsValue (digits n) = n := by
  rw [digitsValue, digits_eq, List.reverse_reverse, Nat.ofDigits_digits]

/-- Digits are less than ten. -/
theorem digits_lt {n d : ℕ} (hd : d ∈ digits n) : d < 10 := by
  rw [digits_eq, List.mem_reverse] at hd
  exact Nat.digits_lt_base (by decide) hd

/-- Every number but zero has digits. -/
theorem digits_ne_nil {n : ℕ} (hn : n ≠ 0) : digits n ≠ [] := by
  rw [digits, dif_neg hn]
  exact List.concat_ne_nil _ _

/-- The last digit is the remainder modulo ten. -/
theorem getLast?_digits {n : ℕ} (hn : n ≠ 0) : (digits n).getLast? = some (n % 10) := by
  rw [digits, dif_neg hn, List.getLast?_concat]

/-- No number begins with a zero. -/
theorem head?_digits (n : ℕ) : (digits n).head? ≠ some 0 := by
  rw [digits_eq, List.head?_reverse]
  intro hzero
  have hne : n ≠ 0 := by
    rintro rfl
    simp at hzero
  have hlast := Nat.getLast_digit_ne_zero 10 hne
  rw [List.getLast?_eq_some_getLast (Nat.digits_ne_nil_iff_ne_zero.mpr hne)] at hzero
  exact hlast (Option.some.inj hzero)

/-! ## Layouts -/

/-- The digits of a whole number, one zero for zero. -/
def wholeDigits (n : ℕ) : List ℕ := if n = 0 then [0] else digits n

/-- A whole number is written with its digits. -/
theorem natChars_eq (n : ℕ) : natChars n = digitChars (wholeDigits n) := by
  unfold natChars wholeDigits
  split <;> rfl

/-- The digits of a whole number have its value, also for zero. -/
@[simp] theorem digitsValue_wholeDigits (n : ℕ) : digitsValue (wholeDigits n) = n := by
  unfold wholeDigits
  split
  · next hzero => rw [hzero, digitsValue_zero_cons, digitsValue_nil]
  · exact digitsValue_digits n

/-- Every whole number is written with some digits. -/
theorem wholeDigits_ne_nil (n : ℕ) : wholeDigits n ≠ [] := by
  unfold wholeDigits
  split
  · exact List.cons_ne_nil _ _
  · next hn => exact digits_ne_nil hn

/-- The digits of a whole number are less than ten. -/
theorem wholeDigits_lt {n d : ℕ} (hd : d ∈ wholeDigits n) : d < 10 := by
  unfold wholeDigits at hd
  split at hd
  · rw [List.eq_of_mem_singleton hd]
    decide
  · exact digits_lt hd

/-- Digits with a decimal point and no power of ten, taken apart. -/
def positionalNumeral (sign : Option Sign) (d : Decimal) : Numeral :=
  let ds := digits d.coefficient
  let point := (ds.length : ℤ) + d.exponent
  if point ≤ 0 then ⟨sign, [0], List.replicate (-point).toNat 0 ++ ds, none⟩
  else if 0 ≤ d.exponent then ⟨sign, ds ++ List.replicate d.exponent.toNat 0, [], none⟩
  else ⟨sign, ds.take point.toNat, ds.drop point.toNat, none⟩

/-- One digit, the others after a point, and the power of ten with its sign, taken apart. -/
def scientificNumeral (sign : Option Sign) (d : Decimal) : Numeral :=
  let ds := digits d.coefficient
  let power := (ds.length : ℤ) + d.exponent - 1
  ⟨sign, ds.take 1, ds.drop 1,
    some ⟨some (if power < 0 then .minus else .plus), wholeDigits power.natAbs⟩⟩

variable (sign : Option Sign) (d : Decimal)

/-- The digits lie behind the point, before it, or on both sides. -/
@[elab_as_elim]
theorem positionalNumeral_cases {motive : Numeral → Prop}
    (behind : ((digits d.coefficient).length : ℤ) + d.exponent ≤ 0 →
      motive ⟨sign, [0], List.replicate (-(((digits d.coefficient).length : ℤ) +
        d.exponent)).toNat 0 ++ digits d.coefficient, none⟩)
    (before : 0 ≤ d.exponent →
      motive ⟨sign, digits d.coefficient ++ List.replicate d.exponent.toNat 0, [], none⟩)
    (across : 0 < ((digits d.coefficient).length : ℤ) + d.exponent → d.exponent < 0 →
      motive ⟨sign, (digits d.coefficient).take (((digits d.coefficient).length : ℤ) +
        d.exponent).toNat, (digits d.coefficient).drop (((digits d.coefficient).length : ℤ) +
        d.exponent).toNat, none⟩) :
    motive (d.positionalNumeral sign) := by
  unfold positionalNumeral
  dsimp only
  split_ifs with hbehind hbefore
  · exact behind hbehind
  · exact before hbefore
  · exact across (by omega) (by omega)

/-- Positional notation has no power of ten. -/
theorem power_positionalNumeral : (d.positionalNumeral sign).power = none :=
  positionalNumeral_cases sign d (fun _ => rfl) (fun _ => rfl) fun _ _ => rfl

/-- Positional notation is the numeral as it is written. -/
theorem chars_positionalNumeral (hd : d.coefficient ≠ 0) :
    (d.positionalNumeral sign).chars = Sign.chars sign ++ d.positional .script := by
  have hne := digits_ne_nil hd
  have hlen := List.length_pos_iff.mpr hne
  have hstyle : NumberStyle.script.pointInWholes = false := rfl
  have hzero : Nat.digitChar 0 = '0' := rfl
  refine positionalNumeral_cases sign d (fun hbehind => ?_) (fun hbefore => ?_)
    fun hpoint hneg => ?_
  · simp [positional, hbehind, Numeral.chars, Numeral.fractionChars, Numeral.powerChars, digitChars,
      hne, hzero]
  · have hpoint : ¬((digits d.coefficient).length : ℤ) + d.exponent ≤ 0 := by omega
    simp [positional, hpoint, hbefore, hstyle, Numeral.chars, Numeral.fractionChars,
      Numeral.powerChars, digitChars, hzero]
  · have hfraction : ¬ (digits d.coefficient).length ≤
        (((digits d.coefficient).length : ℤ) + d.exponent).toNat := by omega
    simp [positional, hpoint.not_ge, hneg.not_ge, Numeral.chars, Numeral.fractionChars,
      Numeral.powerChars, digitChars, hfraction]

/-- Scientific notation is the numeral as it is written. -/
theorem chars_scientificNumeral :
    (d.scientificNumeral sign).chars = Sign.chars sign ++ d.scientific .script := by
  have hstyle : NumberStyle.script.plusInExponent = true := rfl
  have htail : (digits d.coefficient).drop 1 = [] ↔ (digits d.coefficient).length ≤ 1 :=
    List.drop_eq_nil_iff
  unfold scientificNumeral scientific
  dsimp only
  generalize (digits d.coefficient).drop 1 = tail at htail ⊢
  generalize ((digits d.coefficient).length : ℤ) + d.exponent - 1 = power
  have hchars : Power.chars ⟨some (if power < 0 then .minus else .plus),
      wholeDigits power.natAbs⟩ = (if 0 ≤ power then ['+'] else []) ++ intChars power := by
    rcases lt_or_ge power 0 with hneg | hpos
    · simp [Power.chars, Sign.chars, intChars, natChars_eq, hneg]
    · simp [Power.chars, Sign.chars, intChars, natChars_eq, hpos, hpos.not_gt]
  simp [Numeral.chars, Numeral.fractionChars, Numeral.powerChars, hchars, hstyle, htail]

/-- Zeros on either side of the digits and the point between them make no difference. -/
theorem value_positionalNumeral :
    (d.positionalNumeral sign).value = Sign.factor sign * d.value := by
  refine positionalNumeral_cases sign d (fun hbehind => ?_) (fun hbefore => ?_)
    fun hpoint hneg => ?_
  all_goals rw [Numeral.value_eq, value]
  · have hdigits (zeros : ℕ) : digitsValue ([0] ++ (List.replicate zeros 0 ++
        digits d.coefficient)) = d.coefficient := by
      simp [digitsValue_append]
    have hexponent : (0 : ℤ) - (List.replicate (-(((digits d.coefficient).length : ℤ) +
        d.exponent)).toNat 0 ++ digits d.coefficient).length = d.exponent := by
      rw [List.length_append, List.length_replicate]
      omega
    simp only [hdigits, Option.elim_none, hexponent]
  · have hdigits : digitsValue (digits d.coefficient ++ List.replicate d.exponent.toNat 0 ++ []) =
        d.coefficient * 10 ^ d.exponent.toNat := by
      simp [digitsValue_append]
    have hexponent : (10 : ℚ) ^ d.exponent = 10 ^ d.exponent.toNat := by
      rw [← zpow_natCast, Int.toNat_of_nonneg hbefore]
    simp only [hdigits, Option.elim_none, hexponent]
    simp
  · have hexponent : (0 : ℤ) - ((digits d.coefficient).drop (((digits d.coefficient).length : ℤ) +
        d.exponent).toNat).length = d.exponent := by
      rw [List.length_drop]
      omega
    simp only [List.take_append_drop, digitsValue_digits, Option.elim_none, hexponent]

/-- Putting the point after the first digit and a power behind makes no difference. -/
theorem value_scientificNumeral (hd : d.coefficient ≠ 0) :
    (d.scientificNumeral sign).value = Sign.factor sign * d.value := by
  have hlen := List.length_pos_iff.mpr (digits_ne_nil hd)
  have hpower (power : ℤ) : Power.value ⟨some (if power < 0 then .minus else .plus),
      wholeDigits power.natAbs⟩ = power := by
    rw [Power.value, digitsValue_wholeDigits]
    rcases lt_or_ge power 0 with hneg | hpos
    · rw [if_pos hneg, Sign.factor]
      omega
    · rw [if_neg hpos.not_gt, Sign.factor]
      · omega
      · simp
  have hexponent : ((digits d.coefficient).length : ℤ) + d.exponent - 1 -
      ((digits d.coefficient).drop 1).length = d.exponent := by
    rw [List.length_drop]
    omega
  rw [Numeral.value_eq, value]
  simp only [scientificNumeral, List.take_append_drop, digitsValue_digits, Option.elim_some, hpower,
    hexponent]

/-! ## What the layouts look like -/

/-- Positional notation is a numeral. -/
theorem wellFormed_positionalNumeral (hd : d.coefficient ≠ 0) :
    (d.positionalNumeral sign).WellFormed := by
  have hdigits : ∀ e ∈ digits d.coefficient, e < 10 := fun _ => digits_lt
  have hzeros (zeros : ℕ) : ∀ e ∈ List.replicate zeros 0, e < 10 := by
    intro e he
    rw [List.eq_of_mem_replicate he]
    decide
  have hne := digits_ne_nil hd
  refine positionalNumeral_cases sign d (fun hbehind => ?_) (fun hbefore => ?_)
    fun hpoint hneg => ?_
  · exact ⟨by simp, by simp, List.forall_mem_append.mpr ⟨hzeros _, hdigits⟩, by simp, by simp⟩
  · exact ⟨by simp [hne], List.forall_mem_append.mpr ⟨hdigits, hzeros _⟩, by simp, by simp,
      by simp⟩
  · refine ⟨?_, fun e he => hdigits e (List.mem_of_mem_take he),
      fun e he => hdigits e (List.mem_of_mem_drop he), by simp, by simp⟩
    simp only [ne_eq, List.take_eq_nil_iff, hne, or_false]
    omega

/-- Scientific notation is a numeral. -/
theorem wellFormed_scientificNumeral (hd : d.coefficient ≠ 0) :
    (d.scientificNumeral sign).WellFormed where
  whole_ne_nil := by simp [scientificNumeral, digits_ne_nil hd]
  whole_lt e he := digits_lt (List.mem_of_mem_take he)
  fraction_lt e he := digits_lt (List.mem_of_mem_drop he)
  power_ne_nil p hp := by
    cases hp
    exact wholeDigits_ne_nil _
  power_lt p hp e he := by
    cases hp
    exact wholeDigits_lt he

/-- A number that ends with no zero is not zero. -/
theorem ne_zero_of_mod_ten {n : ℕ} (hn : n % 10 ≠ 0) : n ≠ 0 := by
  rintro rfl
  exact hn rfl

/-- Without trailing zeros in the coefficient there are no redundant zeros in the text. -/
theorem tidy_positionalNumeral (hd : d.coefficient % 10 ≠ 0) (hsign : sign ≠ some .plus) :
    (d.positionalNumeral sign).Tidy := by
  have hnonzero := ne_zero_of_mod_ten hd
  have hlast := getLast?_digits hnonzero
  have hhead := head?_digits d.coefficient
  have hlen := List.length_pos_iff.mpr (digits_ne_nil hnonzero)
  refine positionalNumeral_cases sign d (fun hbehind => ?_) (fun hbefore => ?_)
    fun hpoint hneg => ?_
  · refine ⟨hsign, by simp, by simp, .inl rfl, ?_⟩
    rw [List.getLast?_append, hlast]
    simpa using hd
  · refine ⟨hsign, by simp, by simp, .inr ?_, by simp⟩
    rwa [List.head?_append_of_ne_nil _ (digits_ne_nil hnonzero)]
  · refine ⟨hsign, by simp, by simp, .inr ?_, ?_⟩
    · rwa [List.head?_take, if_neg (by omega)]
    · rw [List.getLast?_drop, if_neg (by omega), hlast]
      simpa using hd

/-- Without trailing zeros in the coefficient there are none in the fraction. -/
theorem tidy_scientificNumeral (hd : d.coefficient % 10 ≠ 0) (hsign : sign ≠ some .plus) :
    (d.scientificNumeral sign).Tidy := by
  have hnonzero := ne_zero_of_mod_ten hd
  have hlast := getLast?_digits hnonzero
  have hhead := head?_digits d.coefficient
  obtain ⟨e, es, hdigits⟩ := List.exists_cons_of_ne_nil (digits_ne_nil hnonzero)
  rw [hdigits] at hlast hhead
  have hfirst : e ≠ 0 := by simpa using hhead
  simp only [scientificNumeral, hdigits]
  refine ⟨hsign, by simp, fun _ => ⟨e, rfl, hfirst⟩, .inr hhead, ?_⟩
  rw [List.getLast?_drop, hlast]
  split
  · simp
  · simpa using hd

end Decimal

/-! ## Doubles -/

namespace Double

variable {x y : Double}

/-- The sign in front of a double that is not zero. -/
def sign (x : Double) : Option Sign := if x.isNegative then some .minus else none

/-- The string form of a finite double, taken apart. -/
def numeral (x : Double) : Numeral :=
  if x.isZero then ⟨none, [0], [], none⟩
  else if x.hasPower .script then x.shortest.scientificNumeral x.sign
  else x.shortest.positionalNumeral x.sign

/-- Every double but zero has magnitude bits. -/
theorem magnitude_pos (hzero : x.isZero = false) : 0 < x.magnitude := by
  simp only [isZero, decide_eq_false_iff_not] at hzero
  omega

/-- The shortest decimal ends with no zero. -/
theorem coefficient_shortest (hzero : x.isZero = false) : x.shortest.coefficient % 10 ≠ 0 :=
  (shortest_inCell (Nat.succ_pred_eq_of_pos (magnitude_pos hzero)).symm).2

/-- The shortest decimal of a double but zero is not zero. -/
theorem coefficient_shortest_ne_zero (hzero : x.isZero = false) : x.shortest.coefficient ≠ 0 :=
  Decimal.ne_zero_of_mod_ten (coefficient_shortest hzero)

/-- A double but zero is written with a power of ten or in positional notation. -/
theorem numeral_of_ne_zero (hzero : x.isZero = false) :
    x.numeral = if x.hasPower .script then x.shortest.scientificNumeral x.sign
      else x.shortest.positionalNumeral x.sign := by
  rw [numeral, if_neg (by rw [hzero]; decide)]

/-- The string form of a finite double is its numeral as it is written. -/
theorem chars_numeral (hfinite : x.IsFinite) : x.numeral.chars = x.chars .script := by
  have hnan : x.isNaN = false := decide_eq_false hfinite.not_gt
  have hinf : x.isInfinite = false := decide_eq_false hfinite.ne
  cases hzero : x.isZero with
  | true =>
    have hstyle : NumberStyle.script.signOfZero = false ∧
      NumberStyle.script.pointInWholes = false := ⟨rfl, rfl⟩
    simp only [numeral, chars, hnan, hinf, hzero, hstyle]
    simp [Numeral.chars, Sign.chars, digitChars, Numeral.fractionChars, Numeral.powerChars,
      Nat.digitChar]
  | false =>
    have hne := coefficient_shortest_ne_zero hzero
    have hsign : Sign.chars x.sign =
        if x.isNegative = true ∧ (NumberStyle.script.signOfZero = true ∨ (!x.isZero) = true)
          then ['-'] else [] := by
      rw [hzero, sign]
      cases x.isNegative <;> simp [Sign.chars]
    cases hpower : x.hasPower .script with
    | true =>
      simp only [numeral, chars, magnitudeChars, hnan, hinf, hpower, hzero] at hsign ⊢
      simp [Decimal.chars_scientificNumeral, hsign]
    | false =>
      simp only [numeral, chars, magnitudeChars, hnan, hinf, hpower, hzero] at hsign ⊢
      simp [Decimal.chars_positionalNumeral _ _ hne, hsign]

/-- The string form of a double is a numeral. -/
theorem wellFormed_numeral (x : Double) : x.numeral.WellFormed := by
  unfold numeral
  split_ifs with hzero hpower
  · constructor <;> simp
  · exact Decimal.wellFormed_scientificNumeral _ _
      (coefficient_shortest_ne_zero (Bool.eq_false_of_not_eq_true hzero))
  · exact Decimal.wellFormed_positionalNumeral _ _
      (coefficient_shortest_ne_zero (Bool.eq_false_of_not_eq_true hzero))

/-- The string form of a double but zero has no redundant zeros. -/
theorem tidy_numeral (hzero : x.isZero = false) : x.numeral.Tidy := by
  have hlast := coefficient_shortest hzero
  have hsign : x.sign ≠ some .plus := by
    unfold sign
    cases x.isNegative <;> simp
  rw [numeral_of_ne_zero hzero]
  split
  · exact Decimal.tidy_scientificNumeral _ _ hlast hsign
  · exact Decimal.tidy_positionalNumeral _ _ hlast hsign

/-- A power of ten is written where the notation asks for one. -/
theorem power_numeral_ne_none_iff (hzero : x.isZero = false) :
    x.numeral.power ≠ none ↔ x.hasPower .script = true := by
  rw [numeral_of_ne_zero hzero]
  split
  · next hpower => simp [Decimal.scientificNumeral, hpower]
  · next hpower => simp [Decimal.power_positionalNumeral, hpower]

/-- The value of the string form is that of the shortest decimal, with the sign. -/
theorem value_numeral (hzero : x.isZero = false) :
    x.numeral.value = (if x.isNegative then -1 else 1) * x.shortest.value := by
  have hsign : (Sign.factor x.sign : ℚ) = if x.isNegative then -1 else 1 := by
    unfold sign
    cases x.isNegative <;> simp [Sign.factor]
  rw [numeral_of_ne_zero hzero]
  split
  · rw [Decimal.value_scientificNumeral _ _ (coefficient_shortest_ne_zero hzero), hsign]
  · rw [Decimal.value_positionalNumeral, hsign]

/-- The string form of a double rounds to it. -/
theorem rounds_numeral (hfinite : x.IsFinite) : Rounds x.numeral.value x := by
  apply rounds_of_inCell hfinite
  cases hzero : x.isZero with
  | true =>
    have hmagnitude : x.magnitude = 0 := of_decide_eq_true hzero
    have hrank : x.rank = 0 := by
      rw [← Int.natAbs_eq_zero, natAbs_rank, hmagnitude]
    have hvalue : x.numeral.value = 0 := by
      rw [numeral, if_pos hzero]
      simp [Numeral.value]
    have hone : 0 < signedPoint 1 := by
      rw [← signedPoint_zero]
      exact strictMono_signedPoint zero_lt_one
    rw [hrank, hvalue]
    constructor <;> simp [signedPoint_zero, signedPoint_neg, hone.le]
  | false =>
    have hcell :=
      (shortest_inCell (Nat.succ_pred_eq_of_pos (magnitude_pos hzero)).symm).1
    rw [value_numeral hzero, rank]
    split
    · rw [neg_one_mul]
      exact hcell.neg
    · rw [one_mul]
      exact hcell

/-- Magnitude bits with their sign tell all doubles apart but the two zeros. -/
theorem rank_eq_iff : x.rank = y.rank ↔ x.bits = y.bits ∨ x.isZero = true ∧ y.isZero = true := by
  rw [← UInt64.toNat_inj]
  have hx := x.bits.toNat_lt
  have hy := y.bits.toNat_lt
  unfold rank isZero isNegative magnitude
  rw [signUnit_eq]
  simp only [decide_eq_true_eq]
  split_ifs <;> omega

/-- Doubles are equal as numbers if they have the same bits or are both zero. -/
theorem numericEq_iff :
    x.numericEq y = true ↔ ¬x.isNaN = true ∧ ¬y.isNaN = true ∧
      (x.bits = y.bits ∨ x.isZero = true ∧ y.isZero = true) := by
  simp [numericEq, and_assoc]

/-- The magnitude of a double is the point of its magnitude bits. -/
theorem abs_value (x : Double) : |x.value| = point x.magnitude := by
  rw [value_eq, abs_signedPoint, natAbs_rank]

/-- Powers of ten are chosen by magnitude bits, which are in the order of the numbers. -/
theorem hasPower_script_iff (hzero : x.isZero = false) :
    x.hasPower .script = true ↔
      10 ^ 21 ≤ |x.value| ∨ |x.value| < NumberStyle.script.smallBelow.value := by
  have hlarge : (10 : ℚ) ^ 21 = point NumberStyle.script.largeFrom.magnitude := by
    have hmagnitude : NumberStyle.script.largeFrom.magnitude = 0x444B1AE4D6E2EF50 := rfl
    rw [hmagnitude, point, whole, gap, exponentUnit_eq]
    norm_num
  have hsmall : NumberStyle.script.smallBelow.value =
      point NumberStyle.script.smallBelow.magnitude := by
    rw [value_eq]
    exact signedPoint_natCast _
  rw [abs_value, hlarge, hsmall, strictMono_point.le_iff_le, strictMono_point.lt_iff_lt]
  simp [hasPower, hzero]

/-- The bound for small numbers is the double nearest to a millionth. -/
theorem rounds_smallBelow : Rounds (1 / 10 ^ 6) NumberStyle.script.smallBelow := by
  have hpoint (n : ℕ) (hn : n / exponentUnit = 1003) :
      signedPoint n = (exponentUnit + n % exponentUnit : ℕ) / 2 ^ 72 := by
    rw [signedPoint_natCast, point, whole, gap, hn, div_eq_mul_inv, ← zpow_natCast, ← zpow_neg]
    rfl
  have hrank : NumberStyle.script.smallBelow.rank = (0x3EB0C6F7A0B5ED8D : ℕ) := by decide
  have hbefore := hpoint 0x3EB0C6F7A0B5ED8C (by decide)
  have hthis := hpoint 0x3EB0C6F7A0B5ED8D (by decide)
  have hafter := hpoint 0x3EB0C6F7A0B5ED8E (by decide)
  rw [exponentUnit_eq] at *
  apply rounds_of_inCell (by decide)
  rw [hrank]
  have hpred : (0x3EB0C6F7A0B5ED8D : ℕ) - (1 : ℤ) = (0x3EB0C6F7A0B5ED8C : ℕ) := rfl
  have hsucc : (0x3EB0C6F7A0B5ED8D : ℕ) + (1 : ℤ) = (0x3EB0C6F7A0B5ED8E : ℕ) := rfl
  constructor
  · rw [hpred, hbefore, hthis]
    norm_num
  · rw [hsucc, hafter, hthis]
    norm_num
  · rw [hpred, hbefore, hthis]
    norm_num
  · rw [hsucc, hafter, hthis]
    norm_num

/-! ## Equal texts -/

/-- A double is no number, infinite or finite. -/
theorem isNaN_or_isInfinite_or_isFinite (x : Double) :
    x.isNaN = true ∨ x.isInfinite = true ∨ x.IsFinite := by
  rcases lt_trichotomy infinityMagnitude x.magnitude with hnan | hinfinite | hfinite
  · exact .inl (decide_eq_true hnan)
  · exact .inr (.inl (decide_eq_true hinfinite.symm))
  · exact .inr (.inr hfinite)

/-- The text of what is no number. -/
theorem chars_of_isNaN (hnan : x.isNaN = true) : x.chars .script = ['N', 'a', 'N'] := by
  rw [chars, if_pos hnan]
  rfl

/-- The text of an infinity has its sign. -/
theorem chars_of_isInfinite (hinfinite : x.isInfinite = true) :
    x.chars .script = Sign.chars x.sign ++ ['I', 'n', 'f', 'i', 'n', 'i', 't', 'y'] := by
  have hmagnitude : x.magnitude = infinityMagnitude := of_decide_eq_true hinfinite
  have hnan : x.isNaN = false := decide_eq_false hmagnitude.not_gt
  have hzero : x.isZero = false := decide_eq_false (by rw [hmagnitude]; decide)
  have htext : NumberStyle.script.infinity.toList = ['I', 'n', 'f', 'i', 'n', 'i', 't', 'y'] := rfl
  simp only [chars, hnan, hinfinite, hzero, htext, sign]
  cases x.isNegative <;> simp [Sign.chars]

/-- The text of a finite double has digits, signs, a point and an `e` only. -/
theorem mem_chars_of_isFinite (hfinite : x.IsFinite) {c : Char} (hc : c ∈ x.chars .script) :
    c.isDigit = true ∨ c ∈ ['+', '-', '.', 'e'] := by
  rw [← chars_numeral hfinite] at hc
  exact (wellFormed_numeral x).mem_chars hc

/-- Only what is no number has an `N` in its text. -/
theorem mem_N_iff : 'N' ∈ x.chars .script ↔ x.isNaN = true := by
  refine ⟨fun hmem => ?_, fun hnan => ?_⟩
  · rcases isNaN_or_isInfinite_or_isFinite x with hnan | hinfinite | hfinite
    · exact hnan
    · rw [chars_of_isInfinite hinfinite, sign] at hmem
      cases hneg : x.isNegative <;> simp [hneg, Sign.chars] at hmem
    · exact absurd (mem_chars_of_isFinite hfinite hmem) (by decide)
  · rw [chars_of_isNaN hnan]
    decide

/-- Only infinities have an `I` in their text. -/
theorem mem_I_iff : 'I' ∈ x.chars .script ↔ x.isInfinite = true := by
  refine ⟨fun hmem => ?_, fun hinfinite => ?_⟩
  · rcases isNaN_or_isInfinite_or_isFinite x with hnan | hinfinite | hfinite
    · rw [chars_of_isNaN hnan] at hmem
      exact absurd hmem (by decide)
    · exact hinfinite
    · exact absurd (mem_chars_of_isFinite hfinite hmem) (by decide)
  · rw [chars_of_isInfinite hinfinite]
    exact List.mem_append_right _ (by decide)

/-- Infinities of one text have one sign. -/
theorem rank_eq_of_isInfinite (hx : x.isInfinite = true) (hy : y.isInfinite = true)
    (h : x.chars .script = y.chars .script) : x.rank = y.rank := by
  rw [chars_of_isInfinite hx, chars_of_isInfinite hy] at h
  have hsign := List.append_cancel_right h
  have hxmagnitude : x.magnitude = infinityMagnitude := of_decide_eq_true hx
  have hymagnitude : y.magnitude = infinityMagnitude := of_decide_eq_true hy
  unfold sign at hsign
  unfold rank
  rw [hxmagnitude, hymagnitude]
  cases hxneg : x.isNegative <;> cases hyneg : y.isNegative <;> simp_all [Sign.chars]

/-- Zeros of either sign have one text. -/
theorem chars_of_isZero (hzero : x.isZero = true) : x.chars .script = ['0'] := by
  have hfinite : x.IsFinite := by
    have hmagnitude : x.magnitude = 0 := of_decide_eq_true hzero
    rw [IsFinite, hmagnitude]
    decide
  rw [← chars_numeral hfinite, numeral, if_pos hzero]
  rfl

/-- Two doubles have one string form exactly if they are equal as numbers or neither is one. -/
theorem chars_eq_iff :
    x.chars .script = y.chars .script ↔
      x.numericEq y = true ∨ x.isNaN = true ∧ y.isNaN = true := by
  refine ⟨fun h => ?_, fun h => ?_⟩
  · have hnan : x.isNaN = true ↔ y.isNaN = true := by rw [← mem_N_iff, ← mem_N_iff, h]
    have hinfinite : x.isInfinite = true ↔ y.isInfinite = true := by
      rw [← mem_I_iff, ← mem_I_iff, h]
    by_cases hxnan : x.isNaN = true
    · exact .inr ⟨hxnan, hnan.mp hxnan⟩
    have hynan := mt hnan.mpr hxnan
    have hrank : x.rank = y.rank := by
      by_cases hx : x.isInfinite = true
      · exact rank_eq_of_isInfinite hx (hinfinite.mp hx) h
      have hxfinite : x.IsFinite := by
        simpa [hxnan, hx] using isNaN_or_isInfinite_or_isFinite x
      have hyfinite : y.IsFinite := by
        simpa [hynan, mt hinfinite.mpr hx] using isNaN_or_isInfinite_or_isFinite y
      rw [← chars_numeral hxfinite, ← chars_numeral hyfinite] at h
      -- one text is one numeral, and a numeral rounds to one value
      have hnumeral := (wellFormed_numeral x).eq_of_chars_eq (wellFormed_numeral y) h
      have hround := rounds_numeral hyfinite
      rw [← hnumeral] at hround
      have hvalue := (rounds_numeral hxfinite).value_unique hround
      rwa [value_eq, value_eq, strictMono_signedPoint.injective.eq_iff] at hvalue
    exact .inl (numericEq_iff.mpr ⟨hxnan, hynan, rank_eq_iff.mp hrank⟩)
  · rcases h with hequal | ⟨hx, hy⟩
    · obtain ⟨-, -, hbits | ⟨hx, hy⟩⟩ := numericEq_iff.mp hequal
      · have hsame : x = y := by
          cases x
          cases y
          exact congrArg _ hbits
        rw [hsame]
      · rw [chars_of_isZero hx, chars_of_isZero hy]
    · rw [chars_of_isNaN hx, chars_of_isNaN hy]

end Double

open Double in
/-- The string form of numbers loses nothing. The text of every finite double but zero is a numeral
whose exact value rounds to the double; a power of ten is written for magnitudes from `10 ^ 21` on
and below the double nearest to `10 ^ -6`, with a sign and after one digit that is not zero, and
there are no redundant zeros. Two numbers have one text exactly if they are equal or neither is a
number. -/
theorem Value.number_text_exact :
    Rounds (1 / 10 ^ 6) NumberStyle.script.smallBelow ∧
    (∀ x : Double, x.IsFinite → x.isZero = false →
      ∃ t : Numeral, t.WellFormed ∧ t.Tidy ∧
        (number x).text = String.ofList t.chars ∧
        Rounds t.value x ∧
        (t.power ≠ none ↔
          10 ^ 21 ≤ |x.value| ∨ |x.value| < NumberStyle.script.smallBelow.value)) ∧
    ∀ x y : Double, (number x).text = (number y).text ↔
      x.numericEq y = true ∨ x.isNaN = true ∧ y.isNaN = true := by
  refine ⟨rounds_smallBelow, fun x hfinite hzero => ?_, fun x y => ?_⟩
  · refine ⟨x.numeral, wellFormed_numeral x, tidy_numeral hzero, ?_, rounds_numeral hfinite, ?_⟩
    · rw [chars_numeral hfinite]
      rfl
    · rw [power_numeral_ne_none_iff hzero, hasPower_script_iff hzero]
  · exact String.ofList_inj.trans chars_eq_iff

/-- The least positive double. -/
theorem Value.number_text_exact_least :
    (number ⟨1⟩).text = "5e-324" ∧
      ∃ t : Numeral, t.WellFormed ∧ t.Tidy ∧ String.ofList t.chars = "5e-324" ∧
        Double.Rounds t.value ⟨1⟩ := by
  have htext : (number ⟨1⟩).text = "5e-324" := by decide +kernel
  obtain ⟨t, hwell, htidy, hchars, hround, -⟩ :=
    number_text_exact.2.1 ⟨1⟩ (by decide) (by decide)
  exact ⟨htext, t, hwell, htidy, hchars.symm.trans htext, hround⟩

end ScriptFiles
