import ChatGateway.Proofs.Number.Rounding

/-!
# How large results are

Rounding keeps to powers of two and to the sign.  So what comes out of an operation on numbers that
are not below zero and not above a power of two is not below zero and not far above that power.
-/

namespace ChatGateway

namespace Binary

/-- A fraction below a power of two is rounded to a number that is not above it, if the format
reaches so far. -/
theorem exists_round?_of_lt (format : Format) {power : Int}
    (least : format.leastExponent + format.precision ≤ power)
    (greatest : power - format.precision + 1 ≤ format.greatestExponent) (negative : Bool)
    {numerator denominator : Nat} (positive : 0 < denominator)
    (below : (numerator : ℚ) / denominator < 2 ^ power) :
    ∃ value, round? format negative numerator denominator = some value ∧
      value.magnitude ≤ 2 ^ power := by
  by_cases zero : numerator = 0
  · refine ⟨⟨negative, 0, format.leastExponent⟩, ?_, ?_⟩
    · rw [round?, if_pos zero]
    · simp only [magnitude, Nat.cast_zero, zero_mul]
      positivity
  · have leads := leadsAt_leadingExponent zero positive
    have reach : leadingExponent numerator denominator < power :=
      (zpow_lt_zpow_iff_right₀ one_lt_two).mp (leads.low.trans_lt below)
    rw [round?, if_neg zero]
    generalize leadingExponent numerator denominator = leading at leads reach
    obtain ⟨exponent, chosen⟩ : ∃ exponent,
        exponent = max (leading - (format.precision : Int) + 1) format.leastExponent := ⟨_, rfl⟩
    have low := pos_scale positive numerator (-exponent)
    have most : nearest (scale numerator denominator (-exponent)).1
        (scale numerator denominator (-exponent)).2 ≤ 2 ^ format.precision := by
      apply nearest_le low
      rw [scale_lt_iff positive]
      refine leads.high.trans_le (zpow_le_zpow_right₀ one_le_two ?_)
      omega
    have room : exponent + format.precision ≤ power := by omega
    simp only [← chosen]
    generalize nearest (scale numerator denominator (-exponent)).1
      (scale numerator denominator (-exponent)).2 = mantissa at most
    have size : (mantissa : ℚ) * 2 ^ exponent ≤ 2 ^ power := by
      calc
        (mantissa : ℚ) * 2 ^ exponent ≤ 2 ^ (format.precision : Int) * 2 ^ exponent := by
            gcongr
            rw [zpow_natCast]
            exact_mod_cast most
        _ = 2 ^ (exponent + format.precision) := by
            rw [← zpow_add₀ two_ne_zero, add_comm]
        _ ≤ 2 ^ power := zpow_le_zpow_right₀ one_le_two room
    by_cases full : mantissa = Nat.pow 2 format.precision
    · rw [if_pos full]
      have within : exponent + 1 ≤ format.greatestExponent := by omega
      refine ⟨⟨negative, mantissa / 2, exponent + 1⟩, if_pos within, le_trans ?_ size⟩
      rw [magnitude, zpow_add_one₀ two_ne_zero, ← mul_assoc, mul_right_comm]
      gcongr
      exact_mod_cast Nat.div_mul_le_self mantissa 2
    · rw [if_neg full]
      have within : exponent ≤ format.greatestExponent := by omega
      exact ⟨⟨negative, mantissa, exponent⟩, if_pos within, size⟩

theorem negative_of_round? {format : Format} {negative : Bool} {numerator denominator : Nat}
    {value : Binary} (rounded : round? format negative numerator denominator = some value) :
    value.negative = negative ∧ (numerator = 0 → value.mantissa = 0) := by
  rw [round?] at rounded
  split at rounded
  · cases rounded
    exact ⟨rfl, fun _ => rfl⟩
  · rename_i nonzero
    rw [Option.ite_none_right_eq_some, Option.some.injEq] at rounded
    obtain ⟨-, rfl⟩ := rounded
    refine ⟨?_, fun zero => (nonzero zero).elim⟩
    split <;> rfl

/-- The exact value. -/
def value (number : Binary) : ℚ := if number.negative then -number.magnitude else number.magnitude

theorem magnitude_nonneg (number : Binary) : 0 ≤ number.magnitude := by
  rw [magnitude]
  positivity

theorem fraction_eq_zero {number : Binary} : number.fraction.1 = 0 ↔ number.mantissa = 0 := by
  rw [← Nat.cast_eq_zero (R := ℚ), ← Nat.cast_eq_zero (R := ℚ) (n := number.mantissa)]
  have ratio := number.ratio_fraction
  have low : (number.fraction.2 : ℚ) ≠ 0 := by exact_mod_cast number.pos_fraction.ne'
  have power : (2 : ℚ) ^ number.exponent ≠ 0 := by positivity
  rw [div_eq_iff low, magnitude] at ratio
  rw [ratio]
  simp [low, power]

/-- A number is not below zero if it has no minus sign or is zero. -/
theorem value_nonneg_iff {number : Binary} :
    0 ≤ number.value ↔ number.negative = false ∨ number.mantissa = 0 := by
  have power : (2 : ℚ) ^ number.exponent ≠ 0 := by positivity
  have least := number.magnitude_nonneg
  rw [value]
  cases number.negative with
  | false => simp [least]
  | true =>
      have zero : number.magnitude = 0 ↔ number.mantissa = 0 := by simp [magnitude, power]
      simp only [if_true, Left.nonneg_neg_iff, reduceCtorEq, false_or, ← zero]
      exact ⟨fun above => le_antisymm above least, fun none => none.le⟩

theorem value_eq_magnitude {number : Binary} (above : 0 ≤ number.value) :
    number.value = number.magnitude := by
  rcases value_nonneg_iff.mp above with sign | none
  · simp [value, sign]
  · simp [value, magnitude, none]

theorem value_eq (number : Binary) :
    number.value = (if number.negative then -(number.fraction.1 : ℚ) else number.fraction.1) /
      number.fraction.2 := by
  rw [value, ← ratio_fraction]
  split
  · rw [neg_div]
  · rfl

end Binary

namespace Extended

open Binary

/-- Comparing compares exact values. -/
theorem less_finite (left right : Binary) :
    less (.finite left) (.finite right) = decide (left.value < right.value) := by
  have leftLow : (0 : ℚ) < left.fraction.2 := by exact_mod_cast left.pos_fraction
  have rightLow : (0 : ℚ) < right.fraction.2 := by exact_mod_cast right.pos_fraction
  rw [less, decide_eq_decide, value_eq, value_eq, div_lt_div_iff₀ leftLow rightLow,
    ← Int.cast_lt (R := ℚ)]
  simp only [signedNumerators]
  cases left.negative <;> cases right.negative <;> simp [Nat.cast_mul]

theorem less_zero (number : Binary) :
    less (.finite number) (Binary.ofInt .double 0) = decide (number.value < 0) := by
  have zero : Binary.ofInt .double 0 = .finite ⟨false, 0, -1074⟩ := rfl
  rw [zero, less_finite, decide_eq_decide]
  simp [value, magnitude]

/-- Whether a number, if it is defined, is not below zero. -/
def NonNegative : Extended → Prop
  | .finite number => 0 ≤ number.value
  | .infinite negative => negative = false
  | .undefined => True

/-- Whether a number is finite, not below zero and not above a power of two. -/
def Within (power : Int) (number : Extended) : Prop :=
  ∃ finite, number = .finite finite ∧ 0 ≤ finite.value ∧ finite.value ≤ 2 ^ power

theorem nonNegative_iff {number : Extended} :
    number.NonNegative ↔ less number (Binary.ofInt .double 0) = false := by
  cases number with
  | finite number => rw [less_zero, decide_eq_false_iff_not, not_lt, NonNegative]
  | infinite negative => rfl
  | undefined => exact iff_of_true trivial rfl

theorem nonNegative_round {format : Format} {negative : Bool} {numerator denominator : Nat}
    (sign : numerator ≠ 0 → negative = false) :
    (Binary.round format negative numerator denominator).NonNegative := by
  rw [Binary.round]
  split
  · rename_i number rounded
    obtain ⟨same, none⟩ := negative_of_round? rounded
    rw [NonNegative, value_nonneg_iff, same]
    by_cases zero : numerator = 0
    · exact .inr (none zero)
    · exact .inl (sign zero)
  · rename_i beyond
    apply sign
    rintro rfl
    simp [round?] at beyond

theorem nonNegative_ofInt (format : Format) (number : Nat) :
    (Binary.ofInt format number).NonNegative :=
  nonNegative_round fun _ => decide_eq_false (Int.not_lt.mpr (Int.natCast_nonneg number))

theorem NonNegative.multiply {left right : Extended} (above : left.NonNegative)
    (also : right.NonNegative) (format : Format) : (left.multiply format right).NonNegative := by
  cases left with
  | finite left =>
      rw [NonNegative, value_nonneg_iff] at above
      cases right with
      | finite right =>
          rw [NonNegative, value_nonneg_iff] at also
          apply nonNegative_round
          intro filled
          have some : left.mantissa ≠ 0 ∧ right.mantissa ≠ 0 := by
            rw [← not_or, ← fraction_eq_zero, ← fraction_eq_zero, ← Nat.mul_eq_zero]
            exact filled
          simp [above.resolve_right some.1, also.resolve_right some.2]
      | infinite negative =>
          cases also
          simp only [Extended.multiply]
          split
          · trivial
          · rename_i some
            simp [NonNegative, above.resolve_right some]
      | undefined => trivial
  | infinite negative =>
      cases above
      cases right with
      | finite right =>
          rw [NonNegative, value_nonneg_iff] at also
          simp only [Extended.multiply]
          split
          · trivial
          · rename_i some
            simp [NonNegative, also.resolve_right some]
      | infinite negative =>
          cases also
          rfl
      | undefined => trivial
  | undefined => trivial

theorem NonNegative.powerFrom {base result : Extended} (above : base.NonNegative)
    (also : result.NonNegative) (format : Format) (steps exponent : Nat) :
    (Extended.powerFrom format steps base exponent result).NonNegative := by
  induction steps generalizing base result exponent with
  | zero => exact also
  | succ steps ih =>
      have next :
          (if exponent % 2 = 1 then result.multiply format base else result).NonNegative := by
        split
        · exact also.multiply above format
        · exact also
      rw [Extended.powerFrom]
      split
      · exact next
      · exact ih (above.multiply above format) next _

theorem NonNegative.power {base : Extended} (above : base.NonNegative) (format : Format)
    (exponent : Nat) : (base.power format exponent).NonNegative :=
  above.powerFrom (nonNegative_ofInt format 1) format 32 exponent

/-- A limit bounds what is not below zero. -/
theorem Within.least {power : Int} {limit number : Extended} (within : limit.Within power)
    (above : number.NonNegative) : (number.least limit).Within power := by
  obtain ⟨bound, rfl, positive, small⟩ := within
  cases number with
  | undefined => exact ⟨bound, rfl, positive, small⟩
  | infinite negative =>
      cases above
      exact ⟨bound, rfl, positive, small⟩
  | finite number =>
      simp only [Extended.least]
      split
      · exact ⟨bound, rfl, positive, small⟩
      · rename_i notGreater
        rw [less_finite, decide_eq_true_iff, not_lt] at notGreater
        exact ⟨number, rfl, above, notGreater.trans small⟩

/-- A fraction below a power of two is rounded to something that is not above it. -/
theorem within_round {power : Int} (least : -1021 ≤ power) (greatest : power ≤ 1023)
    {numerator denominator : Nat} (positive : 0 < denominator)
    (below : (numerator : ℚ) / denominator < 2 ^ power) {negative : Bool}
    (sign : numerator ≠ 0 → negative = false) :
    (Binary.round .double negative numerator denominator).Within power := by
  have above : (Binary.round .double negative numerator denominator).NonNegative :=
    nonNegative_round sign
  obtain ⟨number, rounded, small⟩ := exists_round?_of_lt .double
    (by simp only [Format.double]; omega) (by simp only [Format.double]; omega) negative positive
    below
  rw [Binary.round, rounded] at above ⊢
  exact ⟨number, rfl, above, (value_eq_magnitude above).trans_le small⟩

theorem within_ofInt {number : Nat} {power : Nat} (below : number < 2 ^ power)
    (greatest : power ≤ 1023) : (Binary.ofInt .double number).Within power := by
  apply within_round (by omega) (by omega) Nat.one_pos
  · rw [Nat.cast_one, div_one, zpow_natCast]
    exact_mod_cast below
  · exact fun _ => decide_eq_false (Int.not_lt.mpr (Int.natCast_nonneg number))

theorem multiply_finite (format : Format) (left right : Binary) :
    Extended.multiply format (.finite left) (.finite right) =
      Binary.round format (left.negative != right.negative) (left.fraction.1 * right.fraction.1)
        (left.fraction.2 * right.fraction.2) := rfl

theorem Within.multiply {power other : Int} {left right : Extended} (within : left.Within power)
    (also : right.Within other) (least : -1022 ≤ power + other) (greatest : power + other ≤ 1022) :
    (left.multiply .double right).Within (power + other + 1) := by
  obtain ⟨left, rfl, above, small⟩ := within
  obtain ⟨right, rfl, aboveToo, smallToo⟩ := also
  rw [multiply_finite]
  apply within_round (by omega) (by omega) (Nat.mul_pos left.pos_fraction right.pos_fraction)
  · rw [value_eq_magnitude above] at small
    rw [value_eq_magnitude aboveToo] at smallToo
    rw [Nat.cast_mul, Nat.cast_mul, mul_div_mul_comm, ratio_fraction, ratio_fraction]
    calc
      left.magnitude * right.magnitude ≤ 2 ^ power * 2 ^ other := by
          gcongr
          exact right.magnitude_nonneg
      _ = 2 ^ (power + other) := (zpow_add₀ two_ne_zero power other).symm
      _ < 2 ^ (power + other + 1) := zpow_lt_zpow_right₀ one_lt_two (Int.lt_succ _)
  · intro filled
    have some : left.mantissa ≠ 0 ∧ right.mantissa ≠ 0 := by
      rw [← not_or, ← fraction_eq_zero, ← fraction_eq_zero, ← Nat.mul_eq_zero]
      exact filled
    simp [(value_nonneg_iff.mp above).resolve_right some.1,
      (value_nonneg_iff.mp aboveToo).resolve_right some.2]

theorem add_self_finite (format : Format) (number : Binary) :
    Extended.add format (.finite number) (.finite number) =
      Binary.round format number.negative (2 * (number.fraction.1 * number.fraction.2))
        (number.fraction.2 * number.fraction.2) := by
  simp only [Extended.add, signedNumerators]
  by_cases sign : number.negative = true
  · simp only [sign, if_true, Bool.and_self]
    congr 1
    · split
      · rfl
      · exact decide_eq_true (by omega)
    · omega
  · simp only [sign, Bool.false_eq_true, if_false, Bool.and_self]
    congr 1
    · split
      · rfl
      · exact decide_eq_false (by omega)
    · omega

/-- Twice a number. -/
theorem Within.add_self {power : Int} {number : Extended} (within : number.Within power)
    (least : -1023 ≤ power) (greatest : power ≤ 1021) :
    (number.add .double number).Within (power + 2) := by
  obtain ⟨finite, rfl, above, small⟩ := within
  rw [add_self_finite]
  apply within_round (by omega) (by omega) (Nat.mul_pos finite.pos_fraction finite.pos_fraction)
  · have low : (finite.fraction.2 : ℚ) ≠ 0 := by exact_mod_cast finite.pos_fraction.ne'
    rw [value_eq_magnitude above] at small
    rw [Nat.cast_mul, Nat.cast_mul, Nat.cast_mul, mul_div_assoc, mul_div_mul_right _ _ low,
      ratio_fraction]
    calc
      ((2 : Nat) : ℚ) * finite.magnitude ≤ 2 * 2 ^ power := by
          rw [Nat.cast_ofNat]
          gcongr
      _ = 2 ^ (power + 1) := by rw [zpow_add_one₀ two_ne_zero, mul_comm]
      _ < 2 ^ (power + 2) := zpow_lt_zpow_right₀ one_lt_two (by omega)
  · intro filled
    refine (value_nonneg_iff.mp above).resolve_right fun none => filled ?_
    rw [fraction_eq_zero.mpr none, Nat.zero_mul, Nat.mul_zero]

end Extended

end ChatGateway
