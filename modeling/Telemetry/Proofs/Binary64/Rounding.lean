import Mathlib.Data.Rat.Floor
import Mathlib.Tactic.FieldSimp
import Mathlib.Tactic.Linarith
import Telemetry.Binary64.Basic

/-!
Rounding to the nearest integer.

`IsNearestInteger` says what rounding to nearest with ties to even means for a rational
number, without saying how it is found, and `IsNearestEven` says the same of natural numbers.
It determines the rounded number and respects the order; `roundQuotient` finds it.
-/

namespace Telemetry

variable {x y : ℚ} {z w : ℤ} {m n num den num' den' b : ℕ}

/-! ### Integers -/

/-- `z` is an integer nearest to `x`, and the even one if two are equally near. -/
structure IsNearestInteger (x : ℚ) (z : ℤ) : Prop where
  near : |x - z| ≤ 1 / 2
  even_of_tie : |x - z| = 1 / 2 → Even z

namespace IsNearestInteger

theorem bounds (h : IsNearestInteger x z) : (z : ℚ) - 1 / 2 ≤ x ∧ x ≤ z + 1 / 2 := by
  have hnear := abs_le.mp h.near
  constructor <;> linarith

/-- What is rounded up from halfway is even. -/
theorem even_of_eq_sub (h : IsNearestInteger x z) (hx : x = z - 1 / 2) : Even z := by
  refine h.even_of_tie ?_
  rw [hx, show (z : ℚ) - 1 / 2 - z = -(1 / 2) by ring, abs_neg, abs_of_pos (by norm_num)]

/-- What is rounded down from halfway is even. -/
theorem even_of_eq_add (h : IsNearestInteger x z) (hx : x = z + 1 / 2) : Even z := by
  refine h.even_of_tie ?_
  rw [hx, show (z : ℚ) + 1 / 2 - z = 1 / 2 by ring, abs_of_pos (by norm_num)]

theorem mono (hx : IsNearestInteger x z) (hy : IsNearestInteger y w) (hxy : x ≤ y) : z ≤ w := by
  by_contra hlt
  have hlt : w + 1 ≤ z := Int.add_one_le_iff.mpr (not_le.mp hlt)
  have hcast : (w : ℚ) + 1 ≤ z := by exact_mod_cast hlt
  have hlow := hx.bounds.1
  have hhigh := hy.bounds.2
  -- the two numbers can only be neighbours, with `x` and `y` halfway between them
  have hz : z = w + 1 := by
    have : (z : ℚ) ≤ w + 1 := by linarith
    exact le_antisymm (by exact_mod_cast this) hlt
  have heven : Even z := hx.even_of_eq_sub (by linarith)
  have heven' : Even w := hy.even_of_eq_add (by linarith)
  rw [hz] at heven
  exact (Int.even_add_one.mp heven) heven'

theorem neg (h : IsNearestInteger x z) : IsNearestInteger (-x) (-z) := by
  have hsame : |-x - ((-z : ℤ) : ℚ)| = |x - z| := by
    rw [← abs_neg]
    congr 1
    push_cast
    ring
  exact ⟨hsame.trans_le h.near, fun htie => (h.even_of_tie (hsame.symm.trans htie)).neg⟩

/-- The rounded number is off by at most half of one, whatever it is counted in. -/
theorem abs_div_sub_le (h : IsNearestInteger (x * y) z) (hy : 0 < y) :
    |(z : ℚ) / y - x| ≤ 1 / (2 * y) := by
  have hscale : (z : ℚ) / y - x = (z - x * y) / y := by
    field_simp
  calc
    |(z : ℚ) / y - x| = |x * y - z| / y := by
      rw [hscale, abs_div, abs_of_pos hy, abs_sub_comm]
    _ ≤ 1 / 2 / y := by
      gcongr
      exact h.near
    _ = 1 / (2 * y) := div_div 1 2 y

end IsNearestInteger

/-! ### Natural numbers -/

/-- `m` is a natural number nearest to `x`, and the even one if two are equally near. -/
structure IsNearestEven (x : ℚ) (m : ℕ) : Prop where
  near : |x - m| ≤ 1 / 2
  even_of_tie : |x - m| = 1 / 2 → Even m

namespace IsNearestEven

theorem isNearestInteger (h : IsNearestEven x m) : IsNearestInteger x m :=
  ⟨by exact_mod_cast h.near, fun htie => by exact_mod_cast h.even_of_tie (by exact_mod_cast htie)⟩

theorem bounds (h : IsNearestEven x m) : (m : ℚ) - 1 / 2 ≤ x ∧ x ≤ m + 1 / 2 := by
  exact_mod_cast h.isNearestInteger.bounds

/-- What is rounded down from halfway is even. -/
theorem even_of_eq_add (h : IsNearestEven x m) (hx : x = m + 1 / 2) : Even m := by
  exact_mod_cast h.isNearestInteger.even_of_eq_add (by exact_mod_cast hx)

theorem mono (hx : IsNearestEven x m) (hy : IsNearestEven y n) (hxy : x ≤ y) : m ≤ n := by
  exact_mod_cast hx.isNearestInteger.mono hy.isNearestInteger hxy

theorem unique (hm : IsNearestEven x m) (hn : IsNearestEven x n) : m = n :=
  Nat.le_antisymm (hm.mono hn le_rfl) (hn.mono hm le_rfl)

theorem of_lt (h : |x - m| < 1 / 2) : IsNearestEven x m :=
  ⟨h.le, fun htie => absurd htie h.ne⟩

theorem natCast (m : ℕ) : IsNearestEven m m :=
  of_lt (by norm_num)

theorem le_of_le (h : IsNearestEven x m) (hx : x ≤ b) : m ≤ b := h.mono (natCast b) hx

theorem le_of_ge (h : IsNearestEven x m) (hx : b ≤ x) : b ≤ m := (natCast b).mono h hx

end IsNearestEven

/-! ### Quotients -/

/-- A quotient is its whole part and a fraction below one. -/
theorem div_eq_div_add_mod_div (num : ℕ) (hden : 0 < den) :
    (num : ℚ) / den = (num / den : ℕ) + (num % den : ℕ) / (den : ℚ) := by
  have hpos : (0 : ℚ) < den := by exact_mod_cast hden
  have hmod : (num : ℚ) = (num / den : ℕ) * den + (num % den : ℕ) := by
    exact_mod_cast (Nat.div_add_mod' num den).symm
  rw [div_eq_iff hpos.ne', add_mul, div_mul_cancel₀ _ hpos.ne']
  exact hmod

theorem isNearestEven_roundQuotient (num : ℕ) (hden : 0 < den) :
    IsNearestEven (num / den) (roundQuotient num den) := by
  have hpos : (0 : ℚ) < den := by exact_mod_cast hden
  rw [div_eq_div_add_mod_div num hden, roundQuotient]
  set q := num / den
  set r := num % den
  have hr : r < den := Nat.mod_lt num hden
  have hfraction : (0 : ℚ) ≤ r / den ∧ (r : ℚ) / den < 1 :=
    ⟨by positivity, (div_lt_one hpos).mpr (by exact_mod_cast hr)⟩
  split
  · next hlow =>
      have hlow : (r : ℚ) / den < 1 / 2 := by
        rw [div_lt_div_iff₀ hpos two_pos]
        exact_mod_cast (by omega : r * 2 < 1 * den)
      exact .of_lt (by rw [add_sub_cancel_left, abs_of_nonneg hfraction.1]; exact hlow)
  split
  · next hhigh =>
      have hhigh : 1 / 2 < (r : ℚ) / den := by
        rw [div_lt_div_iff₀ two_pos hpos]
        exact_mod_cast (by omega : 1 * den < r * 2)
      refine .of_lt (abs_lt.mpr ?_)
      push_cast
      constructor <;> linarith [hfraction.2]
  · next hlow hhigh =>
      have htie : (r : ℚ) / den = 1 / 2 := by
        rw [div_eq_div_iff hpos.ne' two_ne_zero]
        exact_mod_cast (by omega : r * 2 = 1 * den)
      have heven : Even (q + q % 2) := Nat.even_iff.mpr (by omega)
      refine ⟨abs_le.mpr ?_, fun _ => heven⟩
      have hparity : ((q % 2 : ℕ) : ℚ) ≤ 1 := by exact_mod_cast (by omega : q % 2 ≤ 1)
      have hnonneg : (0 : ℚ) ≤ (q % 2 : ℕ) := Nat.cast_nonneg _
      rw [htie]
      push_cast at *
      constructor <;> linarith

theorem roundQuotient_eq (hden : 0 < den) (h : IsNearestEven (num / den) m) :
    roundQuotient num den = m :=
  (isNearestEven_roundQuotient num hden).unique h

/-- A whole quotient stays as it is. -/
theorem roundQuotient_mul_left (q : ℕ) (hden : 0 < den) : roundQuotient (q * den) den = q := by
  simp [roundQuotient, hden]

/-- Rounding does not depend on how the quotient is written. -/
theorem roundQuotient_congr (hden : 0 < den) (hden' : 0 < den') (h : num * den' = num' * den) :
    roundQuotient num den = roundQuotient num' den' := by
  refine roundQuotient_eq hden ?_
  have hpos : (den : ℚ) ≠ 0 := by exact_mod_cast hden.ne'
  have hpos' : (den' : ℚ) ≠ 0 := by exact_mod_cast hden'.ne'
  have hquotient : (num : ℚ) / den = num' / den' :=
    (div_eq_div_iff hpos hpos').mpr (by exact_mod_cast h)
  rw [hquotient]
  exact isNearestEven_roundQuotient num' hden'

theorem roundQuotient_le (hden : 0 < den) (h : num ≤ b * den) : roundQuotient num den ≤ b := by
  refine (isNearestEven_roundQuotient num hden).le_of_le ?_
  rw [div_le_iff₀ (by exact_mod_cast hden)]
  exact_mod_cast h

theorem le_roundQuotient (hden : 0 < den) (h : b * den ≤ num) : b ≤ roundQuotient num den := by
  refine (isNearestEven_roundQuotient num hden).le_of_ge ?_
  rw [le_div_iff₀ (by exact_mod_cast hden)]
  exact_mod_cast h

theorem roundQuotient_mono (hden : 0 < den) (hden' : 0 < den') (h : num * den' ≤ num' * den) :
    roundQuotient num den ≤ roundQuotient num' den' := by
  refine (isNearestEven_roundQuotient num hden).mono (isNearestEven_roundQuotient num' hden') ?_
  rw [div_le_div_iff₀ (by exact_mod_cast hden) (by exact_mod_cast hden')]
  exact_mod_cast h

end Telemetry
