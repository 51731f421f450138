import ChatGateway.Resilience.KeyRing
import Mathlib.Algebra.Group.Nat.Defs
import Mathlib.Order.Monotone.Basic

/-!
# Parking times

How long a key is parked is counted in words of 64 bits, in which a power or a product that grows
too large stops at the largest number.  The limit of the time is such a word as well, so what has
stopped is never seen.  The time is what one gets by counting without a largest number: it doubles
with each error until the limit is reached, and stays there.
-/

namespace ChatGateway

/-! ## Counting up to a largest number -/

namespace Word

/-- What so many bits hold of a number if counting stops at the largest one. -/
def saturate (bits value : Nat) : Nat := min value (size bits - 1)

theorem saturate_of_lt {bits value : Nat} (fits : value < size bits) :
    saturate bits value = value :=
  Nat.min_eq_left (Nat.le_pred_of_lt fits)

theorem saturate_of_le {bits value : Nat} (full : size bits - 1 ≤ value) :
    saturate bits value = size bits - 1 :=
  Nat.min_eq_right full

/-- A factor that has stopped is not seen in a product that may stop. -/
theorem saturate_mul_saturate (bits factor value : Nat) :
    saturate bits (factor * saturate bits value) = saturate bits (factor * value) := by
  cases Nat.lt_or_ge value (size bits) with
  | inl fits => rw [saturate_of_lt fits]
  | inr past =>
      have full : size bits - 1 ≤ value := (Nat.sub_le _ 1).trans past
      cases Nat.eq_zero_or_pos factor with
      | inl zero => rw [zero, Nat.zero_mul, Nat.zero_mul]
      | inr positive =>
          have stopped : size bits - 1 ≤ factor * (size bits - 1) :=
            Nat.le_mul_of_pos_left _ positive
          have exceeded : size bits - 1 ≤ factor * value :=
            stopped.trans (Nat.mul_le_mul_left factor full)
          rw [saturate_of_le full, saturate_of_le stopped, saturate_of_le exceeded]

/-- Below a bound that fits, nothing has stopped. -/
theorem min_saturate {bits bound : Nat} (fits : bound < size bits) (value : Nat) :
    min (saturate bits value) bound = min value bound := by
  have within : bound ≤ size bits - 1 := Nat.le_pred_of_lt fits
  rw [saturate, Nat.min_assoc, Nat.min_eq_right within]

end Word

/-! ## How long a key is parked -/

namespace KeyRing.Settings

/-- The power stops at the largest number, the product does so too, and the limit comes last. -/
theorem parkingTime_eq_saturate (settings : Settings) (errors : Nat) :
    settings.parkingTime errors =
      min (Word.saturate 64 (settings.base * Word.saturate 64 (2 ^ errors))) settings.limit := by
  have power : (if errors < 64 then Word.size errors else greatest) =
      Word.saturate 64 (2 ^ errors) := by
    split
    · rename_i few
      exact (Word.saturate_of_lt (Nat.pow_lt_pow_right Nat.one_lt_two few)).symm
    · rename_i many
      have past : Word.size 64 ≤ 2 ^ errors :=
        Nat.pow_le_pow_right Nat.two_pos (Nat.le_of_not_lt many)
      exact (Word.saturate_of_le ((Nat.sub_le _ 1).trans past)).symm
  rw [parkingTime, power]
  rfl

/-- A key is parked for some time just if both the base and the limit are some time. -/
theorem parkingTime_pos_iff (settings : Settings) (errors : Nat) :
    0 < settings.parkingTime errors ↔ 0 < settings.base ∧ 0 < settings.limit := by
  have top : 0 < Word.size 64 - 1 := by decide
  rw [parkingTime_eq_saturate, Word.saturate_mul_saturate, Word.saturate]
  simp only [Nat.lt_min, Nat.mul_pos_iff_of_pos_right (Nat.two_pow_pos errors), top, and_true]

theorem parkingTime_of_base_eq_zero {settings : Settings} (none : settings.base = 0)
    (errors : Nat) : settings.parkingTime errors = 0 := by
  simp [parkingTime, none]

theorem parkingTime_le (settings : Settings) (errors : Nat) :
    settings.parkingTime errors ≤ settings.limit :=
  Nat.min_le_right _ _

section Fits

variable {settings : Settings}

/-- The time for which a key is parked is as if there were no largest number. -/
theorem parkingTime_eq (fits : settings.limit < Word.size 64) (errors : Nat) :
    settings.parkingTime errors = min (settings.base * 2 ^ errors) settings.limit := by
  rw [parkingTime_eq_saturate, Word.saturate_mul_saturate, Word.min_saturate fits]

/-- Each further error doubles the time, up to the limit. -/
theorem parkingTime_succ (fits : settings.limit < Word.size 64) (errors : Nat) :
    settings.parkingTime (errors + 1) = min (2 * settings.parkingTime errors) settings.limit := by
  have doubled : settings.base * 2 ^ (errors + 1) = 2 * (settings.base * 2 ^ errors) := by
    rw [Nat.pow_succ', Nat.mul_left_comm]
  rw [parkingTime_eq fits, parkingTime_eq fits, doubled]
  omega

theorem monotone_parkingTime (fits : settings.limit < Word.size 64) :
    Monotone settings.parkingTime := by
  apply monotone_nat_of_le_succ
  intro errors
  rw [parkingTime_succ fits]
  apply Nat.le_min_of_le_of_le
  · exact Nat.le_mul_of_pos_left _ Nat.two_pos
  · exact settings.parkingTime_le errors

/-- Whatever the base, the limit of 64 bits and the number of errors, a key is parked for exactly
the base doubled for each error, and at most for the limit. -/
theorem parkingTime_exact (fits : settings.limit < Word.size 64) :
    (∀ errors, settings.parkingTime errors = min (settings.base * 2 ^ errors) settings.limit) ∧
      Monotone settings.parkingTime ∧
      (∀ errors, settings.parkingTime errors ≤ settings.limit) ∧
      ∀ errors, 0 < settings.parkingTime errors ↔ 0 < settings.base ∧ 0 < settings.limit := by
  refine ⟨?_, ?_, ?_, ?_⟩
  · exact parkingTime_eq fits
  · exact monotone_parkingTime fits
  · exact settings.parkingTime_le
  · exact settings.parkingTime_pos_iff

/-- With the largest limit there is, a product just below it is exact, the next one is cut off,
and so are all that follow. -/
theorem parkingTime_exact_at_greatest :
    let settings : Settings := ⟨3, greatest⟩
    settings.limit < Word.size 64 ∧
      (∀ errors, settings.parkingTime errors = min (3 * 2 ^ errors) greatest) ∧
      Monotone settings.parkingTime ∧ 0 < settings.parkingTime 64 ∧
      settings.parkingTime 62 = 3 * 2 ^ 62 ∧ settings.parkingTime 63 = greatest ∧
      settings.parkingTime (2 ^ 32 - 1) = greatest := by
  intro settings
  have fits : settings.limit < Word.size 64 := by decide
  obtain ⟨exact, rising, -, lasting⟩ := parkingTime_exact fits
  exact ⟨fits, exact, rising, (lasting 64).mpr (by decide), by decide, by decide, by decide⟩

end Fits

end KeyRing.Settings

end ChatGateway
