import Telemetry.Proofs.Binary64.Value
import Telemetry.Proofs.Decimal.Placed

/-!
Finite doubles as decimals.

With a fixed number of places a finite double is written as an integer number of units of the
last place: the integer nearest to it, a tie going to the even one. The sign is that of the
double, also where no digit but zero is left, and reading the text back gives the number of
units.
-/

namespace Telemetry.Decimal

open Binary64

variable {x y : Binary64} {places : ℕ} {text : List Char}

/-- The number that a decimal denotes, negative behind a minus sign. -/
def signedValueOf : List Char → ℚ
  | '-' :: digits => -valueOf digits
  | digits => valueOf digits

theorem signedValueOf_of_notMem (h : '-' ∉ text) : signedValueOf text = valueOf text := by
  unfold signedValueOf
  split
  · exact absurd List.mem_cons_self h
  · rfl

/-- How many units of the last place a finite double is written as. -/
def unitsOf (places : ℕ) (x : Binary64) : ℤ :=
  Meaning.signed x.signBit (roundQuotient (x.steps * 10 ^ places) stepsPerUnit)

theorem natAbs_unitsOf (places : ℕ) (x : Binary64) :
    (unitsOf places x).natAbs = roundQuotient (x.steps * 10 ^ places) stepsPerUnit := by
  rw [unitsOf, Meaning.signed]
  split
  · rw [Int.natAbs_neg, Int.natAbs_natCast]
  · rw [Int.natAbs_natCast]

theorem cast_unitsOf_of_positive (h : x.signBit = false) (places : ℕ) :
    (unitsOf places x : ℚ) = (unitsOf places x).natAbs := by
  rw [natAbs_unitsOf, unitsOf, h]
  exact Int.cast_natCast _

theorem cast_unitsOf_of_negative (h : x.signBit = true) (places : ℕ) :
    (unitsOf places x : ℚ) = -(unitsOf places x).natAbs := by
  rw [natAbs_unitsOf, unitsOf, h, Meaning.signed, if_pos rfl, Int.cast_neg, Int.cast_natCast]

theorem fixed_of_isFinite (h : x.isFinite) (places : ℕ) :
    fixed places x =
      (if x.signBit then "-" else "") ++ String.ofList (placed places (unitsOf places x).natAbs) := by
  rw [natAbs_unitsOf, fixed, meaning, if_pos h]

theorem isNearestInteger_unitsOf (places : ℕ) (x : Binary64) :
    IsNearestInteger (x.toRat * 10 ^ places) (unitsOf places x) := by
  have hnearest := (isNearestEven_roundQuotient (x.steps * 10 ^ places)
    stepsPerUnit_pos).isNearestInteger
  push_cast at hnearest
  rw [mul_div_right_comm] at hnearest
  rw [unitsOf, Meaning.signed]
  cases hsign : x.signBit with
  | false =>
      rw [toRat_of_positive hsign, if_neg Bool.false_ne_true]
      exact hnearest
  | true =>
      rw [toRat_of_negative hsign, if_pos rfl, neg_mul]
      exact hnearest.neg

theorem minus_notMem_placed (n : ℕ) (hplaces : 0 < places) : '-' ∉ placed places n := by
  intro hminus
  rcases mem_placed n hplaces hminus with hdigit | hpoint
  · exact absurd hdigit (by decide)
  · exact absurd hpoint (by decide)

/-- The text of a finite double is read back as the units that it was written as. -/
theorem signedValueOf_fixed (h : x.isFinite) (hplaces : 0 < places) :
    signedValueOf (fixed places x).toList = unitsOf places x / 10 ^ places := by
  have hminus := minus_notMem_placed (unitsOf places x).natAbs hplaces
  have hvalue := valueOf_placed (unitsOf places x).natAbs hplaces
  rw [fixed_of_isFinite h]
  cases hsign : x.signBit with
  | false =>
      rw [if_neg Bool.false_ne_true, String.empty_append, String.toList_ofList,
        signedValueOf_of_notMem hminus, hvalue, cast_unitsOf_of_positive hsign]
  | true =>
      have htext : ("-" ++ String.ofList (placed places (unitsOf places x).natAbs)).toList =
          '-' :: placed places (unitsOf places x).natAbs := by
        simp
      rw [if_pos rfl, htext, signedValueOf, hvalue, cast_unitsOf_of_negative hsign, neg_div]

theorem unitsOf_mono (places : ℕ) (h : x.toRat ≤ y.toRat) : unitsOf places x ≤ unitsOf places y := by
  refine (isNearestInteger_unitsOf places x).mono (isNearestInteger_unitsOf places y) ?_
  gcongr

end Telemetry.Decimal
