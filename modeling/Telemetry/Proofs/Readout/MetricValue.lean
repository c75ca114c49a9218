import Telemetry.Proofs.Decimal.Signed
import Telemetry.Readout.Label

/-!
What the text of a measured value tells.

A finite value is shown as the nearest hundredth. So the text is off by at most half a hundredth,
and since rounding keeps the order, a greater value never reads smaller.
-/

namespace Telemetry.Readout

open Binary64

variable {x y : Binary64}

/-- The number that the text of a measured value denotes. -/
def shownValue (text : String) : ℚ := Decimal.signedValueOf text.toList

theorem shownValue_metricValue (h : x.isFinite) :
    shownValue (metricValue x) = Decimal.unitsOf 2 x / 100 := by
  rw [shownValue, metricValue, Decimal.signedValueOf_fixed h two_pos]
  norm_num

theorem isNearestInteger_hundredths (x : Binary64) :
    IsNearestInteger (x.toRat * 100) (Decimal.unitsOf 2 x) := by
  have hnearest := Decimal.isNearestInteger_unitsOf 2 x
  norm_num at hnearest
  exact hnearest

theorem abs_shownValue_sub_le (h : x.isFinite) :
    |shownValue (metricValue x) - x.toRat| ≤ 1 / 200 := by
  rw [shownValue_metricValue h]
  calc
    |(Decimal.unitsOf 2 x : ℚ) / 100 - x.toRat| ≤ 1 / (2 * 100) :=
      (isNearestInteger_hundredths x).abs_div_sub_le (by norm_num)
    _ = 1 / 200 := by norm_num

theorem shownValue_mono (hx : x.isFinite) (hy : y.isFinite) (h : x.toRat ≤ y.toRat) :
    shownValue (metricValue x) ≤ shownValue (metricValue y) := by
  have hunits : (Decimal.unitsOf 2 x : ℚ) ≤ Decimal.unitsOf 2 y := by
    exact_mod_cast Decimal.unitsOf_mono 2 h
  rw [shownValue_metricValue hx, shownValue_metricValue hy]
  gcongr

/-- **The nearest hundredth.** A finite value is shown as the hundredths nearest to it, ties going
to the even one: a minus sign if the sign bit is set, the whole part without a superfluous zero, a
point and two digits. Read back, the text is off by at most half a hundredth, and greater values
never read smaller. -/
theorem metricValue_nearest :
    (∀ x : Binary64, x.isFinite → ∃ hundredths : ℤ,
      let whole := Nat.toDigits 10 (hundredths.natAbs / 100)
      IsNearestInteger (x.toRat * 100) hundredths ∧
      metricValue x = (if x.signBit then "-" else "") ++
        String.ofList (whole ++
          ['.', (hundredths.natAbs / 10 % 10).digitChar, (hundredths.natAbs % 10).digitChar]) ∧
      (whole = ['0'] ∨ whole.head? ≠ some '0') ∧
      shownValue (metricValue x) = hundredths / 100 ∧
      |shownValue (metricValue x) - x.toRat| ≤ 1 / 200) ∧
    ∀ x y : Binary64, x.isFinite → y.isFinite → x.toRat ≤ y.toRat →
      shownValue (metricValue x) ≤ shownValue (metricValue y) := by
  refine ⟨fun x hx => ?_, fun x y => shownValue_mono⟩
  refine ⟨Decimal.unitsOf 2 x, isNearestInteger_hundredths x, ?_, Decimal.toDigits_eq_zero_or _,
    shownValue_metricValue hx, abs_shownValue_sub_le hx⟩
  rw [metricValue, Decimal.fixed_of_isFinite hx, Decimal.placed_two]

/-- A tie that goes down and one that goes up, and a zero that keeps its sign. -/
theorem metricValue_nearest_ties :
    let low : Binary64 := ⟨0xbfd8000000000000⟩
    let high : Binary64 := ⟨0x3fc0000000000000⟩
    low.isFinite ∧ high.isFinite ∧ low.toRat ≤ high.toRat ∧
      metricValue low = "-0.38" ∧ metricValue high = "0.12" ∧
      metricValue ⟨0x8000000000000000⟩ = "-0.00" ∧
      |shownValue (metricValue low) - low.toRat| ≤ 1 / 200 ∧
      shownValue (metricValue low) ≤ shownValue (metricValue high) := by
  intro low high
  have hlow : low.isFinite := by decide
  have hhigh : high.isFinite := by decide
  have horder : low.toRat ≤ high.toRat := by
    rw [toRat_of_negative rfl, toRat_of_positive rfl]
    exact (neg_nonpos.mpr (by positivity)).trans (by positivity)
  obtain ⟨-, -, -, -, -, herror⟩ := metricValue_nearest.1 low hlow
  exact ⟨hlow, hhigh, horder, by decide +kernel, by decide +kernel, by decide +kernel, herror,
    metricValue_nearest.2 low high hlow hhigh horder⟩

end Telemetry.Readout
