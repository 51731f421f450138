import ChatGateway.Number.Decimal
import ChatGateway.Proofs.Number.Nearness
import Mathlib.Tactic.FieldSimp

/-!
# Shortest decimals

The decimal that is written for a number of the 64-bit format is read as that number.  Eighteen
digits are enough to tell any two of them apart, and a shorter decimal is taken only where it reads
back.
-/

namespace ChatGateway.Decimal

/-- The exact value without its sign. -/
def value (decimal : Decimal) : ℚ := decimal.digits * 10 ^ decimal.exponent

theorem pos_fraction (decimal : Decimal) : 0 < decimal.fraction.2 := by
  rw [fraction]
  split
  · exact Nat.one_pos
  · exact Nat.pow_pos (by decide)

theorem ratio_fraction (decimal : Decimal) :
    (decimal.fraction.1 : ℚ) / decimal.fraction.2 = decimal.value := by
  obtain ⟨digits, exponent⟩ := decimal
  cases exponent with
  | ofNat exponent => simp [fraction, value]
  | negSucc exponent => simp [fraction, value, zpow_negSucc, div_eq_mul_inv]

/-! ## Leading digits -/

/-- The first digit of a positive number stands just below a power of ten. -/
structure StandsBelow (power : Int) (ratio : ℚ) : Prop where
  low : 10 ^ (power - 1) ≤ ratio
  high : ratio < 10 ^ power

theorem StandsBelow.le {power : Int} {ratio : ℚ} (stands : StandsBelow power ratio) {bound : Int}
    (below : ratio < 10 ^ bound) : power ≤ bound := by
  have less : power - 1 < bound :=
    (zpow_lt_zpow_iff_right₀ (by norm_num : (1 : ℚ) < 10)).mp (stands.low.trans_lt below)
  omega

theorem StandsBelow.lt {power : Int} {ratio : ℚ} (stands : StandsBelow power ratio) {bound : Int}
    (reaches : 10 ^ bound ≤ ratio) : bound < power :=
  (zpow_lt_zpow_iff_right₀ (by norm_num : (1 : ℚ) < 10)).mp (reaches.trans_lt stands.high)

theorem StandsBelow.unique {power other : Int} {ratio : ℚ} (stands : StandsBelow power ratio)
    (standsToo : StandsBelow other ratio) : power = other :=
  le_antisymm (stands.le standsToo.high) (standsToo.le stands.high)

theorem digitCount_pos (number : Nat) : 0 < digitCount number := Nat.length_toDigits_pos

theorem lt_pow_digitCount (number : Nat) : number < 10 ^ digitCount number :=
  (Nat.length_toDigits_le_iff (by decide) (digitCount_pos number)).mp le_rfl

theorem pow_le_of_digitCount {number count : Nat} (nonzero : number ≠ 0)
    (digits : digitCount number = count + 1) : 10 ^ count ≤ number := by
  cases count with
  | zero => exact Nat.one_le_iff_ne_zero.mpr nonzero
  | succ count =>
      by_contra less
      have fewer := (Nat.length_toDigits_le_iff (by decide) (Nat.succ_pos count)).mpr
        (Nat.lt_of_not_le less)
      rw [digitCount] at digits
      omega

theorem standsBelow {decimal : Decimal} (nonzero : decimal.digits ≠ 0) :
    StandsBelow (decimal.exponent + digitCount decimal.digits) decimal.value := by
  obtain ⟨count, digits⟩ : ∃ count, digitCount decimal.digits = count + 1 :=
    ⟨_, (Nat.sub_add_cancel (digitCount_pos decimal.digits)).symm⟩
  have ten : (10 : ℚ) ≠ 0 := by norm_num
  have power : (0 : ℚ) < 10 ^ decimal.exponent := by positivity
  constructor
  · have low : ((10 ^ count : Nat) : ℚ) ≤ decimal.digits := by
      exact_mod_cast pow_le_of_digitCount nonzero digits
    rw [digits, Nat.cast_add, Nat.cast_one, ← add_assoc, add_sub_cancel_right, add_comm,
      zpow_add₀ ten, value, zpow_natCast]
    push_cast at low
    gcongr
  · have high : (decimal.digits : ℚ) < (10 ^ digitCount decimal.digits : Nat) := by
      exact_mod_cast lt_pow_digitCount decimal.digits
    rw [add_comm, zpow_add₀ ten, value, zpow_natCast]
    push_cast at high
    gcongr

/-- Decimals of the same value are read as the same number. -/
theorem toBinary?_congr {decimal other : Decimal} (same : decimal.value = other.value)
    (format : Binary.Format) (negative : Bool) :
    decimal.toBinary? format negative = other.toBinary? format negative := by
  have zero (decimal : Decimal) : decimal.digits = 0 ↔ decimal.value = 0 := by
    have power : (10 : ℚ) ^ decimal.exponent ≠ 0 := by positivity
    simp [value, power]
  rw [toBinary?, toBinary?]
  by_cases none : decimal.digits = 0
  · have noneToo : other.digits = 0 := (zero other).mpr (same ▸ (zero decimal).mp none)
    simp only [none, noneToo, true_or, if_true]
  · have someToo : other.digits ≠ 0 := fun noneToo =>
      none ((zero decimal).mpr (same ▸ (zero other).mp noneToo))
    have stands := standsBelow none
    rw [same] at stands
    have magnitude := stands.unique (standsBelow someToo)
    have rounded := Binary.round?_congr decimal.pos_fraction other.pos_fraction
      (by rw [ratio_fraction, ratio_fraction, same]) format negative
    simp only [none, someToo, magnitude, rounded]

/-! ## The shortest decimal -/

theorem value_one (power : Int) : (⟨1, power⟩ : Decimal).value = 10 ^ power := by
  rw [value, Nat.cast_one, one_mul]

/-- The power of ten just above a fraction is found if it is not far from where the search
begins. -/
theorem standsBelow_ceilingPower {numerator denominator : Nat} (positive : 0 < denominator)
    {steps : Nat} {power : Int} (low : 10 ^ (power - 1) ≤ (numerator : ℚ) / denominator)
    (high : (numerator : ℚ) / denominator < 10 ^ (power + steps)) :
    StandsBelow (ceilingPower numerator denominator steps power) (numerator / denominator) := by
  induction steps generalizing power with
  | zero =>
      rw [Nat.cast_zero, add_zero] at high
      exact ⟨low, high⟩
  | succ steps ih =>
      have reaches : numerator * (fraction ⟨1, power⟩).2 < (fraction ⟨1, power⟩).1 * denominator ↔
          (numerator : ℚ) / denominator < 10 ^ power := by
        have unit : (0 : ℚ) < (fraction ⟨1, power⟩).2 := by
          exact_mod_cast pos_fraction ⟨1, power⟩
        have below : (0 : ℚ) < denominator := by exact_mod_cast positive
        rw [← value_one, ← ratio_fraction, div_lt_div_iff₀ below unit]
        exact_mod_cast Iff.rfl
      simp only [ceilingPower]
      split
      · rename_i less
        exact ⟨low, reaches.mp less⟩
      · rename_i notLess
        rw [reaches, not_lt] at notLess
        apply ih
        · rwa [add_sub_cancel_right]
        · rwa [Nat.cast_succ, add_comm (steps : Int), ← add_assoc] at high

/-- Both decimals with so many digits around a fraction are less than a unit of the last digit away
from it. -/
theorem near_of_mem_neighbours {numerator denominator : Nat} (positive : 0 < denominator)
    {power : Int} {count : Nat} {decimal : Decimal}
    (member : decimal ∈ neighbours numerator denominator power count) :
    (numerator : ℚ) / denominator - 10 ^ (power - count) ≤ decimal.value ∧
      decimal.value ≤ numerator / denominator + 10 ^ (power - count) := by
  have unit := pos_fraction ⟨1, power - count⟩
  have own := ratio_fraction ⟨1, power - count⟩
  rw [value_one] at own
  have power_pos : (0 : ℚ) < 10 ^ (power - count) := by positivity
  generalize whole_eq : (fraction ⟨1, power - count⟩).1 = whole at own
  generalize part_eq : (fraction ⟨1, power - count⟩).2 = part at own unit
  have whole_pos : 0 < whole := by
    by_contra none
    rw [Nat.eq_zero_of_not_pos none, Nat.cast_zero, zero_div] at own
    exact power_pos.ne own
  have low := Nat.mul_pos positive whole_pos
  have around : decimal = ⟨numerator * part / (denominator * whole), power - count⟩ ∨
      decimal = ⟨numerator * part / (denominator * whole) + 1, power - count⟩ := by
    simp only [neighbours, whole_eq, part_eq] at member
    split at member <;> simp only [List.mem_cons, List.not_mem_nil, or_false] at member
    · exact member
    · exact member.symm
  have ratio : (numerator : ℚ) / denominator =
      ((numerator * part : Nat) : ℚ) / (denominator * whole : Nat) * 10 ^ (power - count) := by
    have below : (denominator : ℚ) ≠ 0 := by exact_mod_cast positive.ne'
    have wholeNe : (whole : ℚ) ≠ 0 := by exact_mod_cast whole_pos.ne'
    have partNe : (part : ℚ) ≠ 0 := by exact_mod_cast unit.ne'
    rw [← own]
    push_cast
    field_simp
  have below : (0 : ℚ) < (denominator * whole : Nat) := by exact_mod_cast low
  have floor : ((numerator * part / (denominator * whole) : Nat) : ℚ) ≤
      ((numerator * part : Nat) : ℚ) / (denominator * whole : Nat) := by
    rw [le_div_iff₀ below]
    exact_mod_cast Nat.div_mul_le_self _ _
  have ceiling : ((numerator * part : Nat) : ℚ) / (denominator * whole : Nat) ≤
      (numerator * part / (denominator * whole) : Nat) + 1 := by
    rw [div_le_iff₀ below, add_mul, one_mul]
    exact_mod_cast (Nat.lt_div_mul_add low).le
  rw [ratio]
  generalize ((numerator * part : Nat) : ℚ) / (denominator * whole : Nat) = exact at floor ceiling
  rcases around with rfl | rfl
  · rw [value]
    constructor <;> nlinarith
  · rw [value, Nat.cast_succ]
    constructor <;> nlinarith

/-- A search for the shortest decimal that reads back ends with one if those with the most digits
do. -/
theorem toBinary?_shortestFrom {format : Binary.Format} {number : Binary}
    {numerator denominator : Nat} {power : Int} {steps count : Nat}
    (last : ∀ decimal ∈ neighbours numerator denominator power (count + steps),
      decimal.toBinary? format number.negative = some number) :
    (shortestFrom format number numerator denominator power steps count).toBinary? format
      number.negative = some number := by
  induction steps generalizing count with
  | zero =>
      rw [shortestFrom]
      apply last
      rw [Nat.add_zero]
      simp only [neighbours]
      split <;> exact List.mem_cons_self
  | succ steps ih =>
      rw [shortestFrom]
      split
      · rename_i decimal found
        simpa using List.find?_some found
      · apply ih
        rwa [Nat.add_assoc, Nat.add_comm 1]

theorem value_strip (steps : Nat) (decimal : Decimal) : (strip steps decimal).value =
    decimal.value := by
  induction steps generalizing decimal with
  | zero => rfl
  | succ steps ih =>
      rw [strip]
      split
      · rename_i ends
        have whole : decimal.digits / 10 * 10 = decimal.digits :=
          Nat.div_mul_cancel (Nat.dvd_of_mod_eq_zero ends.1)
        rw [ih, value, value, zpow_add_one₀ (by norm_num : (10 : ℚ) ≠ 0)]
        nth_rewrite 2 [← whole]
        push_cast
        ring
      · rfl

/-- No number of the 64-bit format has its first digit far from the point. -/
theorem magnitude_double {number : Binary} (fits : number.Fits .double)
    (nonzero : number.mantissa ≠ 0) {places : Nat} (enough : 358 ≤ places) :
    10 ^ (-(places : Int)) ≤ number.magnitude ∧ number.magnitude < 10 ^ (places : Int) := by
  have one_le : (1 : ℚ) ≤ number.mantissa := by
    exact_mod_cast Nat.one_le_iff_ne_zero.mpr nonzero
  have least := fits.least
  have greatest := fits.greatest
  simp only [Binary.Format.double] at least greatest
  have bits : (2 : ℚ) ^ (3 * places) ≤ 10 ^ places := by
    rw [pow_mul]
    gcongr
    norm_num
  constructor
  · calc
      (10 : ℚ) ^ (-(places : Int)) ≤ 2 ^ (-((3 * places : Nat) : Int)) := by
          rw [zpow_neg, zpow_neg, zpow_natCast, zpow_natCast]
          exact inv_anti₀ (by positivity) bits
      _ ≤ 2 ^ number.exponent := zpow_le_zpow_right₀ one_le_two (by omega)
      _ ≤ number.magnitude := le_mul_of_one_le_left (by positivity) one_le
  · have most : (number.mantissa : ℚ) < 2 ^ (53 : Int) := by exact_mod_cast fits.mantissa
    calc
      number.magnitude < 2 ^ (53 : Int) * 2 ^ number.exponent := by
          rw [Binary.magnitude]
          gcongr
      _ = 2 ^ (53 + number.exponent) := (zpow_add₀ two_ne_zero _ _).symm
      _ ≤ 2 ^ ((3 * places : Nat) : Int) := zpow_le_zpow_right₀ one_le_two (by omega)
      _ = 2 ^ (3 * places) := zpow_natCast _ _
      _ ≤ 10 ^ places := bits
      _ = 10 ^ (places : Int) := (zpow_natCast _ _).symm

/-- Eighteen digits are enough to tell apart the numbers of the 64-bit format. -/
theorem toBinary?_of_mem_neighbours {number : Binary} (fits : number.Fits .double)
    (nonzero : number.mantissa ≠ 0) {power : Int} (stands : StandsBelow power number.magnitude)
    {decimal : Decimal}
    (member : decimal ∈ neighbours number.fraction.1 number.fraction.2 power 18) :
    decimal.toBinary? .double number.negative = some number := by
  obtain ⟨low, high⟩ := near_of_mem_neighbours number.pos_fraction member
  rw [number.ratio_fraction] at low high
  obtain ⟨above, below⟩ := magnitude_double fits nonzero (le_refl 358)
  have farBelow := stands.lt above
  have farAbove := stands.le below
  obtain ⟨last, last_eq⟩ : ∃ last : ℚ, last = 10 ^ (power - (18 : Nat)) := ⟨_, rfl⟩
  have last_pos : 0 < last := last_eq ▸ zpow_pos (by norm_num) _
  have shifted (digits : Nat) : (10 : ℚ) ^ (power - (18 : Nat) + digits) = last * 10 ^ digits := by
    rw [zpow_add₀ (by norm_num), zpow_natCast, last_eq]
  have reach := stands.low
  have top := stands.high
  rw [show power - 1 = power - (18 : Nat) + (17 : Nat) by omega, shifted] at reach
  rw [show power = power - (18 : Nat) + (18 : Nat) by omega, shifted] at top
  rw [← last_eq] at low high
  have digits : decimal.digits ≠ 0 := by
    intro none
    rw [value, none, Nat.cast_zero, zero_mul] at low
    linarith
  have own := standsBelow digits
  have most : decimal.exponent + digitCount decimal.digits ≤ power + 1 := by
    apply own.le
    rw [show power + 1 = power - (18 : Nat) + (19 : Nat) by omega, shifted]
    linarith
  have least : power - 2 < decimal.exponent + digitCount decimal.digits := by
    apply own.lt
    rw [show power - 2 = power - (18 : Nat) + (16 : Nat) by omega, shifted]
    linarith
  have notLess : ¬decimal.exponent + (digitCount decimal.digits : Int) < -Decimal.reach := by
    rw [Decimal.reach]
    omega
  have notMore : ¬Decimal.reach < decimal.exponent + (digitCount decimal.digits : Int) := by
    rw [Decimal.reach]
    omega
  have bits : (number.mantissa : ℚ) < 2 ^ 53 := by exact_mod_cast fits.mantissa
  have unit_pos : (0 : ℚ) < 2 ^ number.exponent := by positivity
  simp only [toBinary?, digits, notLess, notMore, or_self, if_false]
  apply Binary.round?_of_near fits (by decide) nonzero decimal.pos_fraction
  rw [Binary.magnitude] at low high reach
  rw [decimal.ratio_fraction]
  constructor
  all_goals
    generalize (2 : ℚ) ^ number.exponent = unit at low high reach unit_pos ⊢
    nlinarith

/-- The decimal that is written for a number of the 64-bit format is read as that number. -/
theorem toBinary?_shortest {number : Binary} (fits : number.Fits .double) :
    (shortest .double number).toBinary? .double number.negative = some number := by
  rw [shortest]
  split
  · rename_i zero
    have least : number.exponent = Binary.Format.double.leastExponent := by
      refine fits.leading.resolve_left ?_
      rw [zero]
      exact Nat.not_le.mpr (Nat.two_pow_pos _)
    rw [toBinary?, if_pos (.inl rfl), ← zero, ← least]
  · rename_i nonzero
    have stands : StandsBelow
        (ceilingPower number.fraction.1 number.fraction.2 800 (-Decimal.reach))
        number.magnitude := by
      obtain ⟨low, high⟩ := magnitude_double fits nonzero (by decide : 358 ≤ 400)
      rw [← number.ratio_fraction] at low high ⊢
      refine standsBelow_ceilingPower number.pos_fraction (le_trans ?_ low) high
      exact zpow_le_zpow_right₀ (by norm_num) (by decide)
    rw [toBinary?_congr (value_strip 20 _)]
    exact toBinary?_shortestFrom fun decimal => toBinary?_of_mem_neighbours fits nonzero stands

end ChatGateway.Decimal
