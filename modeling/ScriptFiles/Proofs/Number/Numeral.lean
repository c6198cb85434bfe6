import ScriptFiles.Number.Text
import ScriptFiles.Proofs.Number.Shortest

/-!
# Decimal numerals

A `Numeral` is a decimal text taken apart: perhaps a minus sign, digits, perhaps a fraction, perhaps
a power of ten. `Numeral.chars` is the grammar of such texts, and a text has one reading in it at
most, so that `Numeral.value` is the exact value of a text. Nothing here knows how doubles are
written.
-/

namespace ScriptFiles

/-- A written sign. -/
inductive Sign
  | plus
  | minus
deriving DecidableEq

/-- The sign in front of a number. -/
def Sign.chars : Option Sign → List Char
  | none => []
  | some plus => ['+']
  | some minus => ['-']

/-- What a sign multiplies by. -/
def Sign.factor : Option Sign → ℤ
  | some minus => -1
  | _ => 1

/-- The number of a list of decimal digits, the most significant one first. -/
def digitsValue (digits : List ℕ) : ℕ := Nat.ofDigits 10 digits.reverse

/-- The written power of ten. -/
structure Power where
  sign : Option Sign
  digits : List ℕ

/-- A power as it is written. -/
def Power.chars (p : Power) : List Char :=
  Sign.chars p.sign ++ digitChars p.digits

/-- The exponent that a power stands for. -/
def Power.value (p : Power) : ℤ :=
  Sign.factor p.sign * digitsValue p.digits

/-- A decimal text taken apart; without fraction digits there is no decimal point. -/
structure Numeral where
  sign : Option Sign
  whole : List ℕ
  fraction : List ℕ
  power : Option Power

namespace Numeral

/-- The power of a numeral as it is written, with its `e`. -/
def powerChars : Option Power → List Char
  | none => []
  | some p => 'e' :: p.chars

/-- The fraction of a numeral as it is written, with its point. -/
def fractionChars (fraction : List ℕ) : List Char :=
  if fraction = [] then [] else '.' :: digitChars fraction

/-- The text. -/
def chars (t : Numeral) : List Char :=
  Sign.chars t.sign ++ digitChars t.whole ++ (fractionChars t.fraction ++ powerChars t.power)

/-- The exact number. -/
def value (t : Numeral) : ℚ :=
  Sign.factor t.sign *
    (digitsValue t.whole + digitsValue t.fraction / 10 ^ t.fraction.length) *
      10 ^ (t.power.elim 0 Power.value)

/-- Digits are digits, and there is one before the point and one in a power of ten. -/
structure WellFormed (t : Numeral) : Prop where
  whole_ne_nil : t.whole ≠ []
  whole_lt : ∀ d ∈ t.whole, d < 10
  fraction_lt : ∀ d ∈ t.fraction, d < 10
  power_ne_nil : ∀ p ∈ t.power, p.digits ≠ []
  power_lt : ∀ p ∈ t.power, ∀ d ∈ p.digits, d < 10

end Numeral

/-! ## One reading -/

/-- The character of a digit is one. -/
theorem isDigit_digitChar {d : ℕ} (hd : d < 10) : (Nat.digitChar d).isDigit = true := by
  revert d
  decide

/-- Digits of one character are the same. -/
theorem digitChar_inj {d e : ℕ} (hd : d < 10) (he : e < 10)
    (h : Nat.digitChar d = Nat.digitChar e) : d = e := by
  have hcode := congrArg Char.toNat h
  rw [Nat.toNat_digitChar_of_lt_ten hd, Nat.toNat_digitChar_of_lt_ten he] at hcode
  omega

/-- What follows digits does not go on with a digit. -/
def EndsDigits (rest : List Char) : Prop := ∀ c ∈ rest.head?, c.isDigit = false

/-- Digits are read as far as they go. -/
theorem digitChars_append_inj {ds es : List ℕ} {rest others : List Char}
    (hds : ∀ d ∈ ds, d < 10) (hes : ∀ e ∈ es, e < 10) (hrest : EndsDigits rest)
    (hothers : EndsDigits others) (h : digitChars ds ++ rest = digitChars es ++ others) :
    ds = es ∧ rest = others := by
  induction ds generalizing es with
  | nil =>
    cases es with
    | nil => exact ⟨rfl, h⟩
    | cons e es =>
      have hhead : rest.head? = some (Nat.digitChar e) := by
        rw [show rest = digitChars (e :: es) ++ others from h]
        rfl
      have hdigit := isDigit_digitChar (hes e (List.mem_cons_self))
      rw [hrest _ hhead] at hdigit
      cases hdigit
  | cons d ds ih =>
    cases es with
    | nil =>
      have hhead : others.head? = some (Nat.digitChar d) := by
        rw [show others = digitChars (d :: ds) ++ rest from h.symm]
        rfl
      have hdigit := isDigit_digitChar (hds d (List.mem_cons_self))
      rw [hothers _ hhead] at hdigit
      cases hdigit
    | cons e es =>
      obtain ⟨hchar, htail⟩ := List.cons.inj h
      have hsame := digitChar_inj (hds d List.mem_cons_self) (hes e List.mem_cons_self) hchar
      obtain ⟨rfl, hrest'⟩ := ih (fun d hd => hds d (List.mem_cons_of_mem _ hd))
        (fun e he => hes e (List.mem_cons_of_mem _ he)) htail
      exact ⟨by rw [hsame], hrest'⟩

/-- A character that is no digit is the character of no digit. -/
theorem digitChar_ne {d : ℕ} (hd : d < 10) {c : Char} (hc : c.isDigit = false) :
    Nat.digitChar d ≠ c := by
  rintro rfl
  rw [isDigit_digitChar hd] at hc
  cases hc

/-- A sign and digits are read as far as they go. -/
theorem signChars_append_inj {s r : Option Sign} {ds es : List ℕ} {rest others : List Char}
    (hds : ∀ d ∈ ds, d < 10) (hes : ∀ e ∈ es, e < 10) (hdsne : ds ≠ []) (hesne : es ≠ [])
    (hrest : EndsDigits rest) (hothers : EndsDigits others)
    (h : Sign.chars s ++ digitChars ds ++ rest = Sign.chars r ++ digitChars es ++ others) :
    s = r ∧ ds = es ∧ rest = others := by
  have hsign : s = r := by
    obtain ⟨d, ds, rfl⟩ := List.exists_cons_of_ne_nil hdsne
    obtain ⟨e, es, rfl⟩ := List.exists_cons_of_ne_nil hesne
    have hhead := congrArg List.head? h
    have hdplus := digitChar_ne (hds d List.mem_cons_self) (show '+'.isDigit = false by decide)
    have hdminus := digitChar_ne (hds d List.mem_cons_self) (show '-'.isDigit = false by decide)
    have heplus := digitChar_ne (hes e List.mem_cons_self) (show '+'.isDigit = false by decide)
    have heminus := digitChar_ne (hes e List.mem_cons_self) (show '-'.isDigit = false by decide)
    rcases s with _ | _ | _ <;> rcases r with _ | _ | _ <;>
      simp_all [Sign.chars, digitChars, eq_comm]
  subst hsign
  rw [List.append_assoc, List.append_assoc] at h
  exact ⟨rfl, digitChars_append_inj hds hes hrest hothers (List.append_cancel_left h)⟩

namespace Numeral

variable {t u : Numeral}

/-- No digit begins a power. -/
theorem endsDigits_powerChars (power : Option Power) : EndsDigits (powerChars power) := by
  cases power with
  | none => simp [EndsDigits, powerChars]
  | some p => simp [EndsDigits, powerChars]

/-- No digit begins a fraction. -/
theorem endsDigits_fractionChars (fraction : List ℕ) (power : Option Power) :
    EndsDigits (fractionChars fraction ++ powerChars power) := by
  unfold fractionChars
  split
  · exact endsDigits_powerChars power
  · simp [EndsDigits]

/-- Powers of one text are the same. -/
theorem powerChars_inj (ht : t.WellFormed) (hu : u.WellFormed)
    (h : powerChars t.power = powerChars u.power) : t.power = u.power := by
  have htlt := ht.power_lt
  have hult := hu.power_lt
  have htne := ht.power_ne_nil
  have hune := hu.power_ne_nil
  cases hp : t.power with
  | none => cases hr : u.power with
    | none => rfl
    | some r => simp [hp, hr, powerChars] at h
  | some p => cases hr : u.power with
    | none => simp [hp, hr, powerChars] at h
    | some r =>
      rw [hp, hr] at h
      have hchars : Sign.chars p.sign ++ digitChars p.digits ++ [] =
          Sign.chars r.sign ++ digitChars r.digits ++ [] := by
        simpa [powerChars, Power.chars] using h
      obtain ⟨hsign, hdigits, -⟩ := signChars_append_inj (htlt p hp) (hult r hr) (htne p hp)
        (hune r hr) (by simp [EndsDigits]) (by simp [EndsDigits]) hchars
      cases p
      cases r
      simp_all

/-- Fractions of one text are the same, with the same text after them. -/
theorem fractionChars_inj (ht : t.WellFormed) (hu : u.WellFormed)
    (h : fractionChars t.fraction ++ powerChars t.power =
      fractionChars u.fraction ++ powerChars u.power) :
    t.fraction = u.fraction ∧ powerChars t.power = powerChars u.power := by
  -- a point and an `e` tell the two readings apart
  have hpoint (rest : List Char) (power : Option Power) : powerChars power ≠ '.' :: rest := by
    cases power <;> simp [powerChars]
  unfold fractionChars at h
  split at h <;> split at h
  · next htnil hunil => exact ⟨htnil.trans hunil.symm, h⟩
  · exact absurd h (hpoint _ _)
  · exact absurd h.symm (hpoint _ _)
  · exact digitChars_append_inj ht.fraction_lt hu.fraction_lt (endsDigits_powerChars _)
      (endsDigits_powerChars _) (List.cons.inj h).2

/-- Digits are written with the characters of digits. -/
theorem isDigit_of_mem_digitChars {ds : List ℕ} (hds : ∀ d ∈ ds, d < 10) {c : Char}
    (hc : c ∈ digitChars ds) : c.isDigit = true := by
  obtain ⟨d, hd, rfl⟩ := List.mem_map.mp hc
  exact isDigit_digitChar (hds d hd)

/-- A sign is one of the characters of numerals that are no digits. -/
theorem mem_signChars {s : Option Sign} {c : Char} (hc : c ∈ Sign.chars s) :
    c ∈ ['+', '-', '.', 'e'] := by
  rcases s with _ | _ | _ <;> simp_all [Sign.chars]

/-- The characters of numerals. -/
theorem WellFormed.mem_chars (ht : t.WellFormed) {c : Char} (hc : c ∈ t.chars) :
    c.isDigit = true ∨ c ∈ ['+', '-', '.', 'e'] := by
  have hfraction : c ∈ fractionChars t.fraction → c.isDigit = true ∨ c = '.' := by
    unfold fractionChars
    split
    · exact fun hmem => absurd hmem List.not_mem_nil
    · rintro (_ | ⟨_, hmem⟩)
      · exact .inr rfl
      · exact .inl (isDigit_of_mem_digitChars ht.fraction_lt hmem)
  have hpower : c ∈ powerChars t.power → c.isDigit = true ∨ c ∈ ['+', '-', '.', 'e'] := by
    have hlt := ht.power_lt
    cases hp : t.power with
    | none => exact fun hmem => absurd hmem List.not_mem_nil
    | some p =>
      rintro (_ | ⟨_, hmem⟩)
      · exact .inr (by decide)
      rcases List.mem_append.mp hmem with hsign | hdigit
      · exact .inr (mem_signChars hsign)
      · exact .inl (isDigit_of_mem_digitChars (hlt p hp) hdigit)
  simp only [chars, List.mem_append] at hc
  rcases hc with (hsign | hdigit) | hmem | hmem
  · exact .inr (mem_signChars hsign)
  · exact .inl (isDigit_of_mem_digitChars ht.whole_lt hdigit)
  · refine (hfraction hmem).imp_right ?_
    rintro rfl
    decide
  · exact hpower hmem

/-- A text is read in one way. -/
theorem WellFormed.eq_of_chars_eq (ht : t.WellFormed) (hu : u.WellFormed) (h : t.chars = u.chars) :
    t = u := by
  obtain ⟨hsign, hwhole, hrest⟩ := signChars_append_inj ht.whole_lt hu.whole_lt ht.whole_ne_nil
    hu.whole_ne_nil (endsDigits_fractionChars _ _) (endsDigits_fractionChars _ _) h
  obtain ⟨hfraction, hpower⟩ := fractionChars_inj ht hu hrest
  have hpower' := powerChars_inj ht hu hpower
  cases t
  cases u
  simp_all

end Numeral
end ScriptFiles
