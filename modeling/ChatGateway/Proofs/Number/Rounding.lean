import ChatGateway.Number.Single
import Mathlib.Algebra.Order.Field.Power
import Mathlib.Tactic.Positivity
import Mathlib.Tactic.Ring

/-!
# Rounding

What rounding gives back has the one representation that its format allows, and a number that a
format holds is rounded to itself.  So a 32-bit number survives being written as a 64-bit one.
-/

namespace ChatGateway

namespace Binary

/-- The exact value without its sign. -/
def magnitude (value : Binary) : ℚ := value.mantissa * 2 ^ value.exponent

/-- The representations that a format allows: a mantissa below the leading bit only with the least
exponent. -/
structure Fits (format : Format) (value : Binary) : Prop where
  mantissa : value.mantissa < 2 ^ format.precision
  least : format.leastExponent ≤ value.exponent
  greatest : value.exponent ≤ format.greatestExponent
  leading : 2 ^ (format.precision - 1) ≤ value.mantissa ∨ value.exponent = format.leastExponent

/-! ## Fractions -/

theorem pos_scale {denominator : Nat} (positive : 0 < denominator) (numerator : Nat) (shift : Int) :
    0 < (scale numerator denominator shift).2 := by
  cases shift with
  | ofNat shift => exact positive
  | negSucc shift => exact Nat.mul_pos positive (Nat.pow_pos Nat.two_pos)

theorem ratio_scale (numerator denominator : Nat) (shift : Int) :
    ((scale numerator denominator shift).1 : ℚ) / (scale numerator denominator shift).2 =
      numerator / denominator * 2 ^ shift := by
  cases shift with
  | ofNat shift =>
      simp only [scale, Nat.pow_eq, Nat.cast_mul, Nat.cast_pow, Nat.cast_ofNat, Int.ofNat_eq_natCast,
        zpow_natCast]
      ring
  | negSucc shift =>
      simp only [scale, Nat.pow_eq, Nat.cast_mul, Nat.cast_pow, Nat.cast_ofNat, zpow_negSucc]
      rw [div_mul_eq_div_div, div_eq_mul_inv _ ((2 : ℚ) ^ (shift + 1))]

theorem ratio_fraction (value : Binary) :
    (value.fraction.1 : ℚ) / value.fraction.2 = value.magnitude := by
  rw [fraction, ratio_scale, magnitude, Nat.cast_one, div_one]

theorem pos_fraction (value : Binary) : 0 < value.fraction.2 :=
  pos_scale Nat.one_pos value.mantissa value.exponent

/-! ## Leading bits -/

/-- The leading bit of a number is at an exponent. -/
structure LeadsAt (exponent : Int) (ratio : ℚ) : Prop where
  low : 2 ^ exponent ≤ ratio
  high : ratio < 2 ^ (exponent + 1)

theorem LeadsAt.unique {exponent other : Int} {ratio : ℚ} (leads : LeadsAt exponent ratio)
    (leadsToo : LeadsAt other ratio) : exponent = other := by
  have first : exponent < other + 1 :=
    (zpow_lt_zpow_iff_right₀ one_lt_two).mp (leads.low.trans_lt leadsToo.high)
  have second : other < exponent + 1 :=
    (zpow_lt_zpow_iff_right₀ one_lt_two).mp (leadsToo.low.trans_lt leads.high)
  omega

theorem leadsAt_log2 {number : Nat} (nonzero : number ≠ 0) : LeadsAt number.log2 number where
  low := by
    rw [zpow_natCast]
    exact_mod_cast Nat.log2_self_le nonzero
  high := by exact_mod_cast Nat.lt_log2_self

theorem LeadsAt.shift {exponent : Int} {ratio : ℚ} (leads : LeadsAt exponent ratio) (shift : Int) :
    LeadsAt (exponent + shift) (ratio * 2 ^ shift) where
  low := by
    rw [zpow_add₀ two_ne_zero]
    gcongr
    exact leads.low
  high := by
    rw [add_right_comm, zpow_add₀ two_ne_zero]
    gcongr
    exact leads.high

theorem leadsAt_leadingExponent {numerator denominator : Nat} (nonzero : numerator ≠ 0)
    (positive : 0 < denominator) :
    LeadsAt (leadingExponent numerator denominator) (numerator / denominator) := by
  have above : (0 : ℚ) < denominator := by exact_mod_cast positive
  have ofNumerator := leadsAt_log2 nonzero
  have ofDenominator := leadsAt_log2 positive.ne'
  obtain ⟨guess, guessed⟩ : ∃ guess : Int, guess = (numerator.log2 : Int) - denominator.log2 :=
    ⟨_, rfl⟩
  have below : (2 : ℚ) ^ (guess - 1) ≤ numerator / denominator := by
    rw [le_div_iff₀ above]
    calc
      (2 : ℚ) ^ (guess - 1) * denominator
          ≤ 2 ^ (guess - 1) * 2 ^ ((denominator.log2 : Int) + 1) := by
            gcongr
            exact ofDenominator.high.le
      _ = 2 ^ (numerator.log2 : Int) := by
          rw [← zpow_add₀ two_ne_zero]
          congr 1
          omega
      _ ≤ numerator := ofNumerator.low
  have beyond : (numerator : ℚ) / denominator < 2 ^ (guess + 1) := by
    rw [div_lt_iff₀ above]
    calc
      (numerator : ℚ) < 2 ^ ((numerator.log2 : Int) + 1) := ofNumerator.high
      _ = 2 ^ (guess + 1) * 2 ^ (denominator.log2 : Int) := by
          rw [← zpow_add₀ two_ne_zero]
          congr 1
          omega
      _ ≤ 2 ^ (guess + 1) * denominator := by
          gcongr
          exact ofDenominator.low
  have reaches :
      (scale numerator denominator (-guess)).2 ≤ (scale numerator denominator (-guess)).1 ↔
        (2 : ℚ) ^ guess ≤ numerator / denominator := by
    have low : (0 : ℚ) < (scale numerator denominator (-guess)).2 := by
      exact_mod_cast pos_scale positive numerator (-guess)
    have power : (0 : ℚ) < 2 ^ guess := by positivity
    rw [← Nat.cast_le (α := ℚ), ← one_le_div low, ratio_scale, zpow_neg, ← div_eq_mul_inv,
      one_le_div power]
  simp only [leadingExponent, ← guessed]
  split
  · rename_i enough
    exact ⟨reaches.mp enough, beyond⟩
  · rename_i short
    rw [reaches, not_le] at short
    exact ⟨below, by rwa [sub_add_cancel]⟩

/-! ## The nearest whole number -/

theorem nearest_le {numerator denominator bound : Nat} (positive : 0 < denominator)
    (below : numerator < bound * denominator) : nearest numerator denominator ≤ bound := by
  have quotient : numerator / denominator < bound := (Nat.div_lt_iff_lt_mul positive).mpr below
  simp only [nearest]
  split
  · omega
  · split <;> omega

theorem le_nearest {numerator denominator bound : Nat} (positive : 0 < denominator)
    (reaches : bound * denominator ≤ numerator) : bound ≤ nearest numerator denominator := by
  have quotient : bound ≤ numerator / denominator := (Nat.le_div_iff_mul_le positive).mpr reaches
  simp only [nearest]
  split
  · exact quotient
  · split <;> omega

theorem nearest_of_exact {denominator : Nat} (positive : 0 < denominator) (whole : Nat) :
    nearest (whole * denominator) denominator = whole := by
  simp [nearest, Nat.mul_div_cancel _ positive, positive]

/-! ## Rounding to a format -/

theorem scale_lt_iff {denominator : Nat} (positive : 0 < denominator) (numerator bits : Nat)
    (exponent : Int) :
    (scale numerator denominator (-exponent)).1 <
        2 ^ bits * (scale numerator denominator (-exponent)).2 ↔
      (numerator : ℚ) / denominator < 2 ^ ((bits : Int) + exponent) := by
  have low : (0 : ℚ) < (scale numerator denominator (-exponent)).2 := by
    exact_mod_cast pos_scale positive numerator (-exponent)
  have power : (0 : ℚ) < 2 ^ exponent := by positivity
  rw [← Nat.cast_lt (α := ℚ), Nat.cast_mul, ← div_lt_iff₀ low, ratio_scale, zpow_neg,
    ← div_eq_mul_inv, div_lt_iff₀ power, Nat.cast_pow, Nat.cast_ofNat, zpow_add₀ two_ne_zero,
    zpow_natCast]

theorem le_scale_iff {denominator : Nat} (positive : 0 < denominator) (numerator bits : Nat)
    (exponent : Int) :
    2 ^ bits * (scale numerator denominator (-exponent)).2 ≤
        (scale numerator denominator (-exponent)).1 ↔
      (2 : ℚ) ^ ((bits : Int) + exponent) ≤ numerator / denominator := by
  rw [← not_lt, scale_lt_iff positive, not_lt]

/-- A number that has been rounded to a format is in it. -/
theorem fits_of_round? {format : Format} (precise : 0 < format.precision)
    (range : format.leastExponent ≤ format.greatestExponent) {negative : Bool}
    {numerator denominator : Nat} (positive : 0 < denominator) {value : Binary}
    (rounded : round? format negative numerator denominator = some value) :
    value.Fits format := by
  obtain ⟨rest, precision⟩ : ∃ rest, format.precision = rest + 1 :=
    ⟨format.precision - 1, by omega⟩
  rw [round?] at rounded
  split at rounded
  · cases rounded
    exact ⟨by positivity, le_rfl, range, .inr rfl⟩
  · rename_i nonzero
    have leads := leadsAt_leadingExponent nonzero positive
    generalize leadingExponent numerator denominator = leading at leads rounded
    obtain ⟨exponent, chosen⟩ : ∃ exponent,
        exponent = max (leading - (format.precision : Int) + 1) format.leastExponent := ⟨_, rfl⟩
    have low := pos_scale positive numerator (-exponent)
    have most : nearest (scale numerator denominator (-exponent)).1
        (scale numerator denominator (-exponent)).2 ≤ 2 ^ format.precision := by
      apply nearest_le low
      rw [scale_lt_iff positive]
      refine leads.high.trans_le (zpow_le_zpow_right₀ one_le_two ?_)
      omega
    have leading : 2 ^ (format.precision - 1) ≤ nearest
        (scale numerator denominator (-exponent)).1 (scale numerator denominator (-exponent)).2 ∨
          exponent = format.leastExponent := by
      rcases max_choice (leading - (format.precision : Int) + 1) format.leastExponent with
        bits | least
      · left
        apply le_nearest low
        rw [le_scale_iff positive]
        refine le_trans (zpow_le_zpow_right₀ one_le_two ?_) leads.low
        omega
      · exact .inr (chosen.trans least)
    simp only [← chosen] at rounded
    generalize nearest (scale numerator denominator (-exponent)).1
      (scale numerator denominator (-exponent)).2 = mantissa at most leading rounded
    have bound : format.leastExponent ≤ exponent := chosen ▸ le_max_right _ _
    by_cases full : mantissa = Nat.pow 2 format.precision
    · have half : mantissa / 2 = 2 ^ (format.precision - 1) := by
        rw [full, Nat.pow_eq, precision, Nat.pow_succ, Nat.add_sub_cancel]
        exact Nat.mul_div_cancel _ Nat.two_pos
      have less : 2 ^ (format.precision - 1) < 2 ^ format.precision :=
        Nat.pow_lt_pow_right Nat.one_lt_two (by omega)
      rw [if_pos full, Option.ite_none_right_eq_some] at rounded
      obtain ⟨within, made⟩ := rounded
      cases made
      exact ⟨half ▸ less, by simp only; omega, within, .inl half.ge⟩
    · rw [if_neg full, Option.ite_none_right_eq_some] at rounded
      obtain ⟨within, made⟩ := rounded
      cases made
      exact ⟨lt_of_le_of_ne most full, bound, within, leading⟩

/-- A number of a format is rounded to itself. -/
theorem round?_of_fits {format : Format} {value : Binary} (fits : value.Fits format)
    {numerator denominator : Nat} (positive : 0 < denominator)
    (exact : (numerator : ℚ) / denominator = value.magnitude) :
    round? format value.negative numerator denominator = some value := by
  by_cases nonzero : numerator = 0
  · have none : value.mantissa = 0 := by
      rw [nonzero, Nat.cast_zero, zero_div, magnitude, eq_comm, mul_eq_zero] at exact
      rcases exact with zero | power
      · exact_mod_cast zero
      · exact absurd power (by positivity)
    have least : value.exponent = format.leastExponent := by
      rcases fits.leading with bits | least
      · rw [none] at bits
        exact absurd bits (Nat.not_le.mpr (Nat.pow_pos Nat.two_pos))
      · exact least
    rw [round?, if_pos nonzero, ← none, ← least]
  · have some : value.mantissa ≠ 0 := by
      intro none
      rw [magnitude, none, Nat.cast_zero, zero_mul, div_eq_zero_iff] at exact
      rcases exact with zero | zero
      · exact nonzero (by exact_mod_cast zero)
      · exact positive.ne' (by exact_mod_cast zero)
    have leads := leadsAt_leadingExponent nonzero positive
    rw [exact] at leads
    have leading := leads.unique ((leadsAt_log2 some).shift value.exponent)
    have chosen : max (leadingExponent numerator denominator - (format.precision : Int) + 1)
        format.leastExponent = value.exponent := by
      have bits : value.mantissa.log2 < format.precision :=
        (Nat.log2_lt some).mpr fits.mantissa
      have least := fits.least
      rcases fits.leading with full | subnormal
      · have := (Nat.le_log2 some).mpr full
        omega
      · omega
    have low := pos_scale positive numerator (-value.exponent)
    have whole : (scale numerator denominator (-value.exponent)).1 =
        value.mantissa * (scale numerator denominator (-value.exponent)).2 := by
      have power : (2 : ℚ) ^ value.exponent ≠ 0 := by positivity
      have ratio := ratio_scale numerator denominator (-value.exponent)
      rw [exact, magnitude, zpow_neg, mul_inv_cancel_right₀ power,
        div_eq_iff (by exact_mod_cast low.ne')] at ratio
      exact_mod_cast ratio
    rw [round?, if_neg nonzero]
    simp only [chosen, whole, nearest_of_exact low]
    have small : value.mantissa ≠ Nat.pow 2 format.precision := fits.mantissa.ne
    rw [if_neg small]
    exact if_pos fits.greatest

/-- The number of a format with the value of another one is what that one is converted to. -/
theorem convert_of_fits {format : Format} {value other : Binary} (fits : other.Fits format)
    (sign : other.negative = value.negative) (same : other.magnitude = value.magnitude) :
    value.convert format = .finite other := by
  have rounded := round?_of_fits fits value.pos_fraction (by rw [ratio_fraction, same])
  rw [sign] at rounded
  simp only [convert, round, rounded]

/-- The 64-bit format holds every number of the 32-bit format. -/
theorem exists_double {value : Binary} (fits : value.Fits .single) :
    ∃ wide : Binary, wide.Fits .double ∧ wide.negative = value.negative ∧
      wide.magnitude = value.magnitude := by
  have least := fits.least
  have greatest := fits.greatest
  by_cases zero : value.mantissa = 0
  · refine ⟨⟨value.negative, 0, -1074⟩, ?_, rfl, ?_⟩
    · exact ⟨Nat.two_pow_pos 53, le_rfl, Int.le_of_lt (by decide : (-1074 : Int) < 971), .inr rfl⟩
    · simp [magnitude, zero]
  · have bits : value.mantissa.log2 < 24 := (Nat.log2_lt zero).mpr fits.mantissa
    obtain ⟨shift, shifted⟩ : ∃ shift, value.mantissa.log2 + shift = 52 :=
      ⟨52 - value.mantissa.log2, by omega⟩
    have power : 0 < 2 ^ shift := Nat.pow_pos Nat.two_pos
    have low : 2 ^ 52 ≤ value.mantissa * 2 ^ shift := by
      rw [← shifted, Nat.pow_add]
      exact Nat.mul_le_mul_right _ (Nat.log2_self_le zero)
    have high : value.mantissa * 2 ^ shift < 2 ^ 53 := by
      rw [show 53 = value.mantissa.log2 + 1 + shift by omega, Nat.pow_add]
      exact Nat.mul_lt_mul_of_pos_right Nat.lt_log2_self power
    refine ⟨⟨value.negative, value.mantissa * 2 ^ shift, value.exponent - shift⟩, ?_, rfl, ?_⟩
    · simp only [Format.single] at least greatest
      exact ⟨high, by simp only [Format.double]; omega, by simp only [Format.double]; omega,
        .inl low⟩
    · rw [magnitude, magnitude, Nat.cast_mul, Nat.cast_pow, Nat.cast_ofNat, mul_assoc,
        ← zpow_natCast, ← zpow_add₀ two_ne_zero, add_sub_cancel]

end Binary

/-! ## 32-bit numbers in JSON -/

/-- The number that a JSON number is read as fits its format. -/
theorem Number.fits_of_toExtended {number : Number} {value : Binary}
    (read : number.toExtended .single = .finite value) : value.Fits .single := by
  have rounds : ∃ (negative : Bool) (numerator denominator : Nat), 0 < denominator ∧
      Binary.round .single negative numerator denominator = .finite value := by
    cases number with
    | integer whole => exact ⟨_, _, 1, Nat.one_pos, read⟩
    | double other => exact ⟨_, _, _, other.pos_fraction, read⟩
  obtain ⟨negative, numerator, denominator, positive, rounded⟩ := rounds
  rw [Binary.round] at rounded
  split at rounded
  · rename_i found
    cases rounded
    exact Binary.fits_of_round? (by decide) (by decide) positive found
  · cases rounded

namespace Single

/-- A number that is neither infinite nor undefined. -/
def IsFinite (single : Single) : Prop := ∃ value, single.value = .finite value

/-- A finite number of the format. -/
def IsRegular (single : Single) : Prop := ∃ value, single.value = .finite value ∧ value.Fits .single

theorem isRegular_of_decode? {json : Json} {single : Single} (read : decode? json = some single)
    (finite : single.IsFinite) : single.IsRegular := by
  obtain ⟨value, isValue⟩ := finite
  cases json with
  | number number =>
      cases read
      exact ⟨value, isValue, Number.fits_of_toExtended isValue⟩
  | null | bool | string | array | object => cases read

/-- A finite number is written as a number that is read as the same one. -/
theorem IsRegular.encode {single : Single} (regular : single.IsRegular) :
    ∃ number, single.encode = .number number ∧ decode? (.number number) = some single := by
  obtain ⟨value, isValue, fits⟩ := regular
  obtain ⟨wide, fitsWide, sign, same⟩ := Binary.exists_double fits
  have widened := Binary.convert_of_fits fitsWide sign same
  have narrowed := Binary.convert_of_fits fits sign.symm same.symm
  refine ⟨.double wide, ?_, ?_⟩
  · simp only [Single.encode, isValue, widened]
  · rw [decode?, Number.toExtended, narrowed, ← isValue]

end Single

end ChatGateway
