import Mathlib.Algebra.Order.Floor.Semifield
import Mathlib.Data.Rat.Floor
import Telemetry.Proofs.Binary64.Finite

/-!
The rational number that a double denotes.

`toRat` reads the three fields of a finite double as IEEE 754 does. It is the signed
number of steps over the number of steps in one, and cutting the steps off is rounding
the number down.
-/

namespace Telemetry.Binary64

variable {x : Binary64} {limit : ℕ}

/-- The number that the bits of a finite double denote. -/
def toRat (x : Binary64) : ℚ :=
  (if x.signBit then -1 else 1) * (x.significand * 2 ^ (Max.max (x.exponentField : ℤ) 1 - 1075))

/-- The magnitude of a finite double is its number of steps. -/
theorem significand_mul_zpow (x : Binary64) :
    (x.significand : ℚ) * 2 ^ (Max.max (x.exponentField : ℤ) 1 - 1075) = x.steps / stepsPerUnit := by
  obtain ⟨k, hk⟩ : ∃ k, k = 1074 := ⟨1074, rfl⟩
  have hexponent : Max.max (x.exponentField : ℤ) 1 - 1075 = (x.exponentField - 1 : ℕ) - (k : ℤ) := by
    omega
  rw [hexponent, zpow_sub₀ two_ne_zero, zpow_natCast, zpow_natCast, stepsPerUnit_eq hk, steps]
  push_cast
  ring

theorem toRat_of_positive (h : x.signBit = false) : x.toRat = x.steps / stepsPerUnit := by
  rw [toRat, significand_mul_zpow, h, if_neg Bool.false_ne_true, one_mul]

theorem toRat_of_negative (h : x.signBit = true) : x.toRat = -(x.steps / stepsPerUnit) := by
  rw [toRat, significand_mul_zpow, h, if_pos rfl, neg_one_mul]

/-- What cutting off the fraction of a finite double leaves is the floor, below the limit. -/
theorem truncate_of_isFinite (h : x.isFinite) :
    x.truncate limit = if 0 < x.toRat then min limit ⌊x.toRat⌋₊ else 0 := by
  have hpos : (0 : ℚ) < stepsPerUnit := by exact_mod_cast stepsPerUnit_pos
  rw [truncate, meaning, if_pos h]
  cases hsign : x.signBit with
  | false =>
      have hfloor : ⌊x.toRat⌋₊ = x.steps / stepsPerUnit := by
        rw [toRat_of_positive hsign, Nat.floor_div_eq_div]
      show min limit (x.steps / stepsPerUnit) = _
      rw [← hfloor]
      split
      · rfl
      · next hvalue => rw [Nat.floor_of_nonpos (not_lt.mp hvalue), Nat.min_zero]
  | true =>
      have hnonpos : ¬ 0 < x.toRat := by
        rw [toRat_of_negative hsign, not_lt, neg_nonpos]
        exact div_nonneg (Nat.cast_nonneg _) hpos.le
      rw [if_neg hnonpos]
      rfl

end Telemetry.Binary64
