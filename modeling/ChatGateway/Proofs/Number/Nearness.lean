import ChatGateway.Proofs.Number.Rounding
import Mathlib.Tactic.Linarith

/-!
# Nearness

How a fraction is rounded depends on its ratio only, and every fraction that is near enough to a
number of a format is rounded to that number.
-/

namespace ChatGateway

namespace Binary

/-! ## Fractions of one ratio -/

theorem nearest_mul_right {factor : Nat} (positive : 0 < factor) (numerator denominator : Nat) :
    nearest (numerator * factor) (denominator * factor) = nearest numerator denominator := by
  have less (left right : Nat) : left * factor < right * factor ↔ left < right :=
    Nat.mul_lt_mul_right positive
  simp only [nearest, Nat.mul_div_mul_right _ _ positive, Nat.mul_mod_mul_right, ← Nat.mul_assoc,
    less]

theorem nearest_congr {numerator denominator other below : Nat} (positive : 0 < denominator)
    (positiveToo : 0 < below) (same : (numerator : ℚ) / denominator = other / below) :
    nearest numerator denominator = nearest other below := by
  have crossed : numerator * below = other * denominator := by
    rw [div_eq_div_iff (by positivity) (by positivity)] at same
    exact_mod_cast same
  rw [← nearest_mul_right positiveToo, crossed, Nat.mul_comm denominator,
    nearest_mul_right positive]

/-- Fractions of the same ratio are rounded to the same number. -/
theorem round?_congr {numerator denominator other below : Nat} (positive : 0 < denominator)
    (positiveToo : 0 < below) (same : (numerator : ℚ) / denominator = other / below)
    (format : Format) (negative : Bool) :
    round? format negative numerator denominator = round? format negative other below := by
  have zero : numerator = 0 ↔ other = 0 := by
    have ratios : (numerator : ℚ) / denominator = 0 ↔ (other : ℚ) / below = 0 := by rw [same]
    simpa [positive.ne', positiveToo.ne'] using ratios
  rw [round?, round?]
  by_cases none : numerator = 0
  · rw [if_pos none, if_pos (zero.mp none)]
  · rw [if_neg none, if_neg (mt zero.mpr none)]
    have leading : leadingExponent numerator denominator = leadingExponent other below := by
      have leads := leadsAt_leadingExponent none positive
      rw [same] at leads
      exact leads.unique (leadsAt_leadingExponent (mt zero.mpr none) positiveToo)
    have rounded (shift : Int) :
        nearest (scale numerator denominator shift).1 (scale numerator denominator shift).2 =
          nearest (scale other below shift).1 (scale other below shift).2 := by
      apply nearest_congr (pos_scale positive _ _) (pos_scale positiveToo _ _)
      rw [ratio_scale, ratio_scale, same]
    simp only [leading, rounded]

/-! ## Near numbers -/

/-- A whole number is the nearest one to everything that is less than a half away. -/
theorem nearest_of_near {numerator denominator whole : Nat} (positive : 0 < denominator)
    (low : (whole : ℚ) - 1 / 2 < numerator / denominator)
    (high : (numerator : ℚ) / denominator < whole + 1 / 2) :
    nearest numerator denominator = whole := by
  have divided := Nat.div_add_mod numerator denominator
  generalize quotient_eq : numerator / denominator = quotient at divided
  generalize rest_eq : numerator % denominator = rest at divided
  have below : (0 : ℚ) < denominator := by exact_mod_cast positive
  rw [lt_div_iff₀ below, sub_mul] at low
  rw [div_lt_iff₀ below, add_mul] at high
  have lowWhole : 2 * (whole * denominator) < 2 * numerator + denominator := by
    have doubled : 2 * ((whole : ℚ) * denominator) < 2 * numerator + denominator := by linarith
    exact_mod_cast doubled
  have highWhole : 2 * numerator < 2 * (whole * denominator) + denominator := by
    have doubled : 2 * (numerator : ℚ) < 2 * (whole * denominator) + denominator := by linarith
    exact_mod_cast doubled
  have small : rest < denominator := rest_eq ▸ Nat.mod_lt _ positive
  have least : quotient < whole + 1 := by
    apply Nat.lt_of_mul_lt_mul_left (a := denominator)
    nlinarith
  have greatest : whole < quotient + 2 := by
    apply Nat.lt_of_mul_lt_mul_left (a := denominator)
    nlinarith
  simp only [nearest, quotient_eq, rest_eq]
  obtain rfl | rfl : whole = quotient ∨ whole = quotient + 1 := by omega
  · have closer : 2 * rest < denominator := by nlinarith
    rw [if_pos closer]
  · have farther : denominator < 2 * rest := by nlinarith
    rw [if_neg (Nat.lt_asymm farther), if_pos farther]

theorem nearest_scale_of_near {numerator denominator whole : Nat} (positive : 0 < denominator)
    {exponent : Int} (low : ((whole : ℚ) - 1 / 2) * 2 ^ exponent < numerator / denominator)
    (high : (numerator : ℚ) / denominator < (whole + 1 / 2) * 2 ^ exponent) :
    nearest (scale numerator denominator (-exponent)).1
      (scale numerator denominator (-exponent)).2 = whole := by
  have unit : (0 : ℚ) < 2 ^ exponent := by positivity
  apply nearest_of_near (pos_scale positive _ _)
  · rwa [ratio_scale, zpow_neg, ← div_eq_mul_inv, lt_div_iff₀ unit]
  · rwa [ratio_scale, zpow_neg, ← div_eq_mul_inv, div_lt_iff₀ unit]

/-- A ratio is less than a quarter of a unit of the last bit away from a number.  Just above a power
of two the numbers below it stand twice as close, so a half would be too much. -/
structure IsNear (value : Binary) (ratio : ℚ) : Prop where
  low : ((value.mantissa : ℚ) - 1 / 4) * 2 ^ value.exponent < ratio
  high : ratio < (value.mantissa + 1 / 4) * 2 ^ value.exponent

section Near

variable {value : Binary} {ratio : ℚ} {leading : Int} {bits : Nat}

theorem IsNear.pos (near : value.IsNear ratio) (nonzero : value.mantissa ≠ 0) : 0 < ratio := by
  have one_le : (1 : ℚ) ≤ value.mantissa := by
    exact_mod_cast Nat.one_le_iff_ne_zero.mpr nonzero
  refine lt_trans (mul_pos ?_ (by positivity)) near.low
  linarith

/-- What is near to a number without the bit in front of its mantissa has not got it either. -/
theorem IsNear.leading_lt (near : value.IsNear ratio) (leads : LeadsAt leading ratio)
    (small : value.mantissa < 2 ^ (bits + 1)) : leading < bits + 1 + value.exponent := by
  have top : (value.mantissa : ℚ) + 1 ≤ 2 ^ (bits + 1) := by exact_mod_cast small
  have whole : (2 : ℚ) ^ ((bits : Int) + 1) = 2 ^ (bits + 1) := by
    rw [← Nat.cast_succ, zpow_natCast]
  apply (zpow_lt_zpow_iff_right₀ (one_lt_two (α := ℚ))).mp
  apply (leads.low.trans_lt near.high).trans
  rw [zpow_add₀ two_ne_zero, whole]
  gcongr
  linarith

/-- What is near to a number with a full mantissa misses its leading bit by no more than one. -/
theorem IsNear.lt_leading (near : value.IsNear ratio) (leads : LeadsAt leading ratio)
    (full : 2 ^ bits ≤ value.mantissa) : bits - 1 + value.exponent < leading + 1 := by
  have fullRational : (2 : ℚ) ^ (bits : Int) ≤ value.mantissa := by
    rw [zpow_natCast]
    exact_mod_cast full
  have half : (2 : ℚ) ^ (bits : Int) = 2 * 2 ^ ((bits : Int) - 1) := by
    rw [← zpow_one_add₀ two_ne_zero, add_sub_cancel]
  have quarter : (1 : ℚ) / 2 ≤ 2 ^ ((bits : Int) - 1) := by
    rw [one_div, ← zpow_neg_one]
    apply zpow_le_zpow_right₀ one_le_two
    omega
  apply (zpow_lt_zpow_iff_right₀ (one_lt_two (α := ℚ))).mp
  refine lt_of_le_of_lt ?_ (near.low.trans leads.high)
  rw [zpow_add₀ two_ne_zero]
  gcongr
  linarith

/-- The leading bit is missed from a power of two only. -/
theorem IsNear.eq_pow (near : value.IsNear ratio)
    (leads : LeadsAt (bits + value.exponent - 1) ratio) (full : 2 ^ bits ≤ value.mantissa) :
    value.mantissa = 2 ^ bits := by
  have below := near.low.trans leads.high
  rw [sub_add_cancel, zpow_add₀ two_ne_zero, zpow_natCast] at below
  have less := lt_of_mul_lt_mul_right below (by positivity)
  apply le_antisymm _ full
  by_contra more
  have next : ((2 ^ bits : Nat) : ℚ) + 1 ≤ value.mantissa := by
    exact_mod_cast Nat.lt_of_not_le more
  push_cast at next
  linarith

end Near

/-- Everything that is near enough to a number of a format is rounded to it. -/
theorem round?_of_near {format : Format} {value : Binary} (fits : value.Fits format)
    (precise : 0 < format.precision) (nonzero : value.mantissa ≠ 0) {numerator denominator : Nat}
    (positive : 0 < denominator) (near : value.IsNear (numerator / denominator)) :
    round? format value.negative numerator denominator = some value := by
  obtain ⟨bits, precision⟩ : ∃ bits, format.precision = bits + 1 :=
    ⟨format.precision - 1, by omega⟩
  have some : numerator ≠ 0 := by
    rintro rfl
    simpa using near.pos nonzero
  have leads := leadsAt_leadingExponent some positive
  have notAbove := near.leading_lt leads (precision ▸ fits.mantissa)
  rw [round?, if_neg some]
  generalize leadingExponent numerator denominator = leading at leads notAbove
  obtain ⟨exponent, chosen⟩ : ∃ exponent,
      exponent = max (leading - (format.precision : Int) + 1) format.leastExponent := ⟨_, rfl⟩
  simp only [← chosen]
  have least := fits.least
  have unit : (0 : ℚ) < 2 ^ value.exponent := by positivity
  have low := near.low
  have high := near.high
  by_cases same : exponent = value.exponent
  · -- The unit of the last bit is the number's own.
    have own : nearest (scale numerator denominator (-exponent)).1
        (scale numerator denominator (-exponent)).2 = value.mantissa := by
      rw [same]
      apply nearest_scale_of_near positive <;> nlinarith
    have small : value.mantissa ≠ Nat.pow 2 format.precision := fits.mantissa.ne
    rw [own, if_neg small, same]
    exact if_pos fits.greatest
  · -- The ratio is just below a power of two, where the unit is half as large.
    have full : 2 ^ bits ≤ value.mantissa := by
      have leadingBit := fits.leading
      rw [precision, Nat.add_sub_cancel] at leadingBit
      exact leadingBit.resolve_right (by omega)
    have notBelow := near.lt_leading leads full
    obtain ⟨before, leading_eq⟩ :
        exponent = value.exponent - 1 ∧ leading = bits + value.exponent - 1 := by omega
    have exact := near.eq_pow (leading_eq ▸ leads) full
    have halved : (2 : ℚ) ^ exponent = 2 ^ value.exponent / 2 := by
      rw [before, zpow_sub_one₀ two_ne_zero, div_eq_mul_inv]
    have double : nearest (scale numerator denominator (-exponent)).1
        (scale numerator denominator (-exponent)).2 = 2 * value.mantissa := by
      apply nearest_scale_of_near positive <;> rw [halved] <;> push_cast <;> linarith
    have overflows : 2 * value.mantissa = Nat.pow 2 format.precision := by
      rw [exact, precision, Nat.pow_eq, Nat.pow_succ, Nat.mul_comm]
    have half : 2 * value.mantissa / 2 = value.mantissa := Nat.mul_div_cancel_left _ Nat.two_pos
    rw [double, if_pos overflows, half, before, sub_add_cancel]
    exact if_pos fits.greatest

end Binary

end ChatGateway
