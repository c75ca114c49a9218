import Telemetry.Binary64.Arithmetic
import Telemetry.Proofs.Binary64.Rounding

/-!
What the finite doubles stand for.

The magnitude bits that rounding puts together, a weight and a significand, are taken
apart again by the fields: so what `Binary64.ofQuotient` answers stands for the rounded
number of steps. A number of steps with at most 53 significant binary digits is not
rounded at all, which makes the division by a power of two exact.
-/

namespace Telemetry.Binary64

variable {k m n num den num' den' magnitude : ℕ}

/-! ### Fields of a magnitude -/

section

variable (negative : Bool) (h : magnitude < 2 ^ 63)

include h

theorem toNat_ofMagnitude :
    (ofMagnitude negative magnitude).bits.toNat =
      (if negative then 2 ^ 63 else 0) + magnitude := by
  rw [ofMagnitude, UInt64.toNat_ofNat']
  cases negative <;> simp <;> omega

theorem signBit_ofMagnitude : (ofMagnitude negative magnitude).signBit = negative := by
  rw [signBit, toNat_ofMagnitude negative h]
  cases negative with
  | false => simpa using h
  | true => simp

theorem exponentField_ofMagnitude :
    (ofMagnitude negative magnitude).exponentField = magnitude / 2 ^ 52 := by
  rw [exponentField, toNat_ofMagnitude negative h]
  cases negative <;> simp <;> omega

theorem fractionField_ofMagnitude :
    (ofMagnitude negative magnitude).fractionField = magnitude % 2 ^ 52 := by
  rw [fractionField, toNat_ofMagnitude negative h]
  cases negative with
  | false => simp
  | true => simp; omega

end

variable {negative : Bool}

theorem infiniteMagnitude_lt : infiniteMagnitude < 2 ^ 63 := by decide

/-! ### Weight and significand -/

/-- The magnitude of a significand and its weight stands for their product. A significand that
has all its digits belongs to every weight, a shorter one to the lowest only. -/
theorem meaning_ofMagnitude (hm : m ≤ 2 ^ 53) (hk : k = 0 ∨ 2 ^ 52 ≤ m)
    (hfinite : k * 2 ^ 52 + m < infiniteMagnitude) :
    (ofMagnitude negative (k * 2 ^ 52 + m)).meaning = .finite negative (m * 2 ^ k) := by
  have hlt : k * 2 ^ 52 + m < 2 ^ 63 := hfinite.trans infiniteMagnitude_lt
  have hexponent := exponentField_ofMagnitude negative hlt
  have hfraction := fractionField_ofMagnitude negative hlt
  have hisFinite : (ofMagnitude negative (k * 2 ^ 52 + m)).isFinite = true := by
    rw [isFinite, hexponent, decide_eq_true_eq]
    rw [infiniteMagnitude] at hfinite
    omega
  rw [meaning, if_pos hisFinite, signBit_ofMagnitude negative hlt, steps, significand, hexponent,
    hfraction]
  congr 1
  obtain hlow | hfull | hcarry : m < 2 ^ 52 ∨ (2 ^ 52 ≤ m ∧ m < 2 ^ 53) ∨ m = 2 ^ 53 := by omega
  · -- no hidden bit
    obtain rfl : k = 0 := hk.resolve_right (by omega)
    rw [if_pos (by omega)]
    simp [Nat.mod_eq_of_lt hlow, Nat.div_eq_of_lt hlow]
  · -- the hidden bit carries into the exponent field
    rw [if_neg (by omega), show (k * 2 ^ 52 + m) / 2 ^ 52 = k + 1 by omega,
      show 2 ^ 52 + (k * 2 ^ 52 + m) % 2 ^ 52 = m by omega, Nat.add_sub_cancel]
  · -- the significand was rounded up to the next power of two
    subst hcarry
    rw [if_neg (by omega), show (k * 2 ^ 52 + 2 ^ 53) / 2 ^ 52 = k + 1 + 1 by omega,
      show 2 ^ 52 + (k * 2 ^ 52 + 2 ^ 53) % 2 ^ 52 = 2 ^ 52 by omega, Nat.add_sub_cancel,
      Nat.pow_succ 2 k]
    omega

/-! ### Rounded quotients -/

/-- The weight of the last of 53 significant digits. -/
def weight (num den : ℕ) : ℕ := (num / den).log2 - 52

/-- The number of steps of a quotient, rounded to 53 significant digits. -/
def roundSteps (num den : ℕ) : ℕ :=
  roundQuotient num (den * 2 ^ weight num den) * 2 ^ weight num den

theorem significand_le (num : ℕ) (hden : 0 < den) :
    roundQuotient num (den * 2 ^ weight num den) ≤ 2 ^ 53 := by
  refine roundQuotient_le (by positivity) ?_
  have hquotient : num / den < 2 ^ 53 * 2 ^ weight num den := by
    rw [← Nat.pow_add]
    exact Nat.lt_log2_self.trans_le (Nat.pow_le_pow_right two_pos (by rw [weight]; omega))
  have hnum := (Nat.div_lt_iff_lt_mul hden).mp hquotient
  calc
    num ≤ 2 ^ 53 * 2 ^ weight num den * den := hnum.le
    _ = 2 ^ 53 * (den * 2 ^ weight num den) := by ring

theorem le_significand (num : ℕ) (hden : 0 < den) (hweight : weight num den ≠ 0) :
    2 ^ 52 ≤ roundQuotient num (den * 2 ^ weight num den) := by
  refine le_roundQuotient (by positivity) ?_
  have hlog : (num / den).log2 = 52 + weight num den := by
    rw [weight] at hweight ⊢
    omega
  have hne : num / den ≠ 0 := by
    intro hzero
    simp [weight, hzero] at hweight
  have hquotient : 2 ^ 52 * 2 ^ weight num den ≤ num / den := by
    rw [← Nat.pow_add, ← hlog]
    exact Nat.log2_self_le hne
  calc
    2 ^ 52 * (den * 2 ^ weight num den) = 2 ^ 52 * 2 ^ weight num den * den := by ring
    _ ≤ num := (Nat.le_div_iff_mul_le hden).mp hquotient

/-- Within the finite range the double of a quotient stands for the rounded number of steps. -/
theorem meaning_ofQuotient (hden : 0 < den)
    (hfinite : magnitudeOfQuotient num den < infiniteMagnitude) :
    (ofQuotient negative num den).meaning = .finite negative (roundSteps num den) := by
  rw [ofQuotient, Nat.min_eq_right hfinite.le]
  refine meaning_ofMagnitude (significand_le num hden) ?_ hfinite
  rcases Nat.eq_zero_or_pos (weight num den) with hzero | hpos
  · exact .inl hzero
  · exact .inr (le_significand num hden hpos.ne')

/-- The number of steps of the greatest finite double. -/
def greatestSteps : ℕ := (2 ^ 53 - 1) * 2 ^ 2045

/-- The exponent stands as a variable, so that the power is not evaluated. -/
theorem greatestSteps_eq (hk : k = 2045) : greatestSteps = (2 ^ 53 - 1) * 2 ^ k := by
  rw [hk, greatestSteps]

/-- What is not beyond the greatest finite double is not rounded beyond it. -/
theorem magnitudeOfQuotient_lt (hden : 0 < den) (h : num ≤ greatestSteps * den) :
    magnitudeOfQuotient num den < infiniteMagnitude := by
  obtain ⟨k, hk⟩ : ∃ k, k = 2045 := ⟨2045, rfl⟩
  rw [greatestSteps_eq hk] at h
  have hweight : weight num den ≤ k := by
    rcases Nat.eq_zero_or_pos (num / den) with hzero | hpos
    · simp [weight, hzero]
    · have hquotient : num / den < 2 ^ (53 + k) :=
        calc
          num / den ≤ (2 ^ 53 - 1) * 2 ^ k := Nat.div_le_of_le_mul (by rwa [Nat.mul_comm] at h)
          _ < 2 ^ 53 * 2 ^ k := Nat.mul_lt_mul_of_pos_right (by decide) (Nat.two_pow_pos k)
          _ = 2 ^ (53 + k) := (Nat.pow_add 2 53 k).symm
      have hlog := (Nat.log2_lt hpos.ne').mpr hquotient
      rw [weight]
      omega
  show weight num den * 2 ^ 52 + roundQuotient num (den * 2 ^ weight num den) < infiniteMagnitude
  rw [infiniteMagnitude]
  rcases hweight.lt_or_eq with hlow | htop
  · have hsignificand := significand_le num hden
    omega
  · -- at the highest weight the significand does not carry
    have hsignificand : roundQuotient num (den * 2 ^ weight num den) ≤ 2 ^ 53 - 1 := by
      refine roundQuotient_le (by positivity) (h.trans_eq ?_)
      rw [htop]
      ring
    omega

theorem roundSteps_eq_of_lt (hden : 0 < den) (hm : m < 2 ^ 53) :
    roundSteps (m * 2 ^ n * den) den = m * 2 ^ n := by
  rcases Nat.eq_zero_or_pos m with rfl | hpos
  · simp [roundSteps, roundQuotient]
  have hweight : weight (m * 2 ^ n * den) den ≤ n := by
    have hlog : (m * 2 ^ n).log2 < 53 + n := by
      refine (Nat.log2_lt (by positivity)).mpr ?_
      rw [Nat.pow_add]
      exact Nat.mul_lt_mul_of_pos_right hm (by positivity)
    rw [weight, Nat.mul_div_cancel _ hden]
    omega
  obtain ⟨i, hi⟩ := Nat.exists_eq_add_of_le hweight
  rw [roundSteps]
  generalize weight (m * 2 ^ n * den) den = w at hi
  subst hi
  have hnum : m * 2 ^ (w + i) * den = m * 2 ^ i * (den * 2 ^ w) := by ring
  rw [hnum, roundQuotient_mul_left _ (by positivity)]
  ring

/-- A whole number of steps with at most 53 significant digits is not rounded. -/
theorem roundSteps_mul_left (hden : 0 < den) (hm : m ≤ 2 ^ 53) :
    roundSteps (m * 2 ^ n * den) den = m * 2 ^ n := by
  rcases hm.lt_or_eq with hlt | rfl
  · exact roundSteps_eq_of_lt hden hlt
  · rw [show 2 ^ 53 * 2 ^ n = 2 ^ 52 * 2 ^ (n + 1) by ring]
    exact roundSteps_eq_of_lt hden (by decide)

theorem roundSteps_twoPow (n : ℕ) : roundSteps (2 ^ n) 1 = 2 ^ n := by
  simpa using roundSteps_mul_left (m := 1) (n := n) one_pos (by decide)

theorem weight_mono (h : num / den ≤ num' / den') : weight num den ≤ weight num' den' := by
  rcases Nat.eq_zero_or_pos (num / den) with hzero | hpos
  · simp [weight, hzero]
  · have hlog := (Nat.le_log2 (hpos.trans_le h).ne').mpr ((Nat.log2_self_le hpos.ne').trans h)
    exact Nat.sub_le_sub_right hlog 52

/-- Rounding to 53 digits keeps the order. -/
theorem roundSteps_mono (hden : 0 < den) (hden' : 0 < den') (h : num * den' ≤ num' * den) :
    roundSteps num den ≤ roundSteps num' den' := by
  have hquotient : num / den ≤ num' / den' := by
    rw [Nat.le_div_iff_mul_le hden']
    refine Nat.le_of_mul_le_mul_right ?_ hden
    calc
      num / den * den' * den = num / den * den * den' := by ring
      _ ≤ num * den' := Nat.mul_le_mul_right den' (Nat.div_mul_le_self num den)
      _ ≤ num' * den := h
  have hsignificand := significand_le num hden
  have hsignificand' := fun hne => le_significand num' hden' hne
  have hweight := weight_mono hquotient
  rw [roundSteps, roundSteps]
  generalize weight num den = w at *
  generalize weight num' den' = w' at *
  rcases hweight.eq_or_lt with rfl | hlt
  · refine Nat.mul_le_mul_right _ (roundQuotient_mono (by positivity) (by positivity) ?_)
    calc
      num * (den' * 2 ^ w) = num * den' * 2 ^ w := by ring
      _ ≤ num' * den * 2 ^ w := Nat.mul_le_mul_right _ h
      _ = num' * (den * 2 ^ w) := by ring
  · -- a power of two lies between the two numbers
    calc
      roundQuotient num (den * 2 ^ w) * 2 ^ w ≤ 2 ^ 53 * 2 ^ w := Nat.mul_le_mul_right _ hsignificand
      _ = 2 ^ 52 * 2 ^ (w + 1) := by ring
      _ ≤ 2 ^ 52 * 2 ^ w' := Nat.mul_le_mul_left _ (Nat.pow_le_pow_right two_pos hlt)
      _ ≤ roundQuotient num' (den' * 2 ^ w') * 2 ^ w' :=
        Nat.mul_le_mul_right _ (hsignificand' (by omega))

/-! ### Natural numbers -/

theorem roundSteps_one_mono (h : m ≤ n) : roundSteps m 1 ≤ roundSteps n 1 :=
  roundSteps_mono one_pos one_pos (by simpa using h)

theorem roundSteps_le_twoPow (h : n ≤ 2 ^ k) : roundSteps n 1 ≤ 2 ^ k :=
  (roundSteps_one_mono h).trans_eq (roundSteps_twoPow k)

theorem twoPow_le_roundSteps (h : 2 ^ k ≤ n) : 2 ^ k ≤ roundSteps n 1 :=
  (roundSteps_twoPow k).symm.trans_le (roundSteps_one_mono h)

/-- `r` is `n` rounded to its first 53 binary digits, a tie going to the even significand. -/
def IsRounded (n r : ℕ) : Prop :=
  ∃ m, IsNearestEven (n / 2 ^ (n.log2 - 52)) m ∧ r = m * 2 ^ (n.log2 - 52)

theorem isRounded_roundSteps (n : ℕ) : IsRounded n (roundSteps n 1) := by
  have hnearest := isNearestEven_roundQuotient n (Nat.two_pow_pos (n.log2 - 52))
  push_cast at hnearest
  refine ⟨_, hnearest, ?_⟩
  rw [roundSteps, weight, Nat.div_one, one_mul]

theorem roundSteps_eq_self (h : n ≤ 2 ^ 53) : roundSteps n 1 = n := by
  simpa using roundSteps_mul_left (m := n) (n := 0) one_pos h

theorem log2_mul_twoPow (hn : n ≠ 0) (k : ℕ) : (n * 2 ^ k).log2 = n.log2 + k := by
  obtain ⟨hlow, hhigh⟩ := (Nat.log2_eq_iff hn).mp rfl
  refine (Nat.log2_eq_iff (by positivity)).mpr ⟨?_, ?_⟩
  · rw [Nat.pow_add]
    exact Nat.mul_le_mul_right _ hlow
  · rw [Nat.add_right_comm, Nat.pow_add]
    exact Nat.mul_lt_mul_of_pos_right hhigh (by positivity)

/-- Counting in smaller steps does not change the rounding. -/
theorem roundSteps_mul_twoPow (n k : ℕ) : roundSteps (n * 2 ^ k) 1 = roundSteps n 1 * 2 ^ k := by
  rcases le_or_gt n (2 ^ 53) with hshort | hlong
  · rw [roundSteps_eq_self hshort]
    simpa using roundSteps_mul_left (m := n) (n := k) one_pos hshort
  have hne : n ≠ 0 := by
    rintro rfl
    exact absurd hlong (by decide)
  have hlog : 53 ≤ n.log2 := (Nat.le_log2 hne).mpr hlong.le
  have hlog' : (n * 2 ^ k).log2 = n.log2 + k := log2_mul_twoPow hne k
  have hweight : weight (n * 2 ^ k) 1 = weight n 1 + k := by
    rw [weight, weight, Nat.div_one, Nat.div_one, hlog']
    omega
  have hquotient : roundQuotient (n * 2 ^ k) (1 * 2 ^ (weight n 1 + k)) =
      roundQuotient n (1 * 2 ^ weight n 1) :=
    roundQuotient_congr (by positivity) (by positivity) (by ring)
  rw [roundSteps, roundSteps, hweight, hquotient]
  ring

theorem stepsPerUnit_pos : 0 < stepsPerUnit := by
  rw [stepsPerUnit]
  positivity

/-- The exponent stands as a variable, so that the power is not evaluated. -/
theorem stepsPerUnit_eq (hk : k = 1074) : stepsPerUnit = 2 ^ k := by
  rw [hk, stepsPerUnit]

theorem stepsPerUnit_eq_mul (hk : k ≤ 1074) : stepsPerUnit = 2 ^ (1074 - k) * 2 ^ k := by
  rw [← Nat.pow_add]
  exact stepsPerUnit_eq (Nat.sub_add_cancel hk)

theorem mul_twoPow_le (hn : n ≤ 2 ^ 64) (hk : k ≤ 1074) : n * 2 ^ k ≤ greatestSteps := by
  obtain ⟨top, htop⟩ : ∃ top, top = 2045 := ⟨2045, rfl⟩
  calc
    n * 2 ^ k ≤ 2 ^ 64 * 2 ^ k := Nat.mul_le_mul_right _ hn
    _ = 2 ^ (64 + k) := (Nat.pow_add 2 64 k).symm
    _ ≤ 2 ^ top := Nat.pow_le_pow_right two_pos (by omega)
    _ ≤ (2 ^ 53 - 1) * 2 ^ top := by omega
    _ = greatestSteps := (greatestSteps_eq htop).symm

theorem mul_stepsPerUnit_le (hn : n ≤ 2 ^ 64) : n * stepsPerUnit ≤ greatestSteps * 1 := by
  obtain ⟨k, hk⟩ : ∃ k, k = 1074 := ⟨1074, rfl⟩
  rw [Nat.mul_one, stepsPerUnit_eq hk]
  exact mul_twoPow_le hn hk.le

theorem meaning_ofNat (h : n < 2 ^ 64) :
    (ofNat n).meaning = .finite false (roundSteps n 1 * stepsPerUnit) := by
  obtain ⟨k, hk⟩ : ∃ k, k = 1074 := ⟨1074, rfl⟩
  have hlt : magnitudeOfQuotient (n * stepsPerUnit) 1 < infiniteMagnitude :=
    magnitudeOfQuotient_lt Nat.one_pos (mul_stepsPerUnit_le h.le)
  rw [ofNat, meaning_ofQuotient Nat.one_pos hlt, stepsPerUnit_eq hk, roundSteps_mul_twoPow]

theorem div_eq_ofQuotient {x y : Binary64} {a b : Bool} (hx : x.meaning = .finite a m)
    (hy : y.meaning = .finite b n) (hn : n ≠ 0) :
    x / y = ofQuotient (a != b) (m * stepsPerUnit) n := by
  show div x y = _
  rw [div, hx, hy]
  exact if_neg hn

theorem roundSteps_roundSteps_mul (n k : ℕ) (hden : 0 < den) :
    roundSteps (roundSteps n 1 * 2 ^ k * den) den = roundSteps n 1 * 2 ^ k := by
  have hscale : roundSteps n 1 * 2 ^ k =
      roundQuotient n (1 * 2 ^ weight n 1) * 2 ^ (weight n 1 + k) := by
    rw [roundSteps, Nat.mul_assoc, ← Nat.pow_add]
  rw [hscale]
  exact roundSteps_mul_left hden (significand_le n one_pos)

/-- Dividing by a power of two does not round. -/
theorem meaning_ofNat_div_twoPow (hn : n < 2 ^ 64) (hk : k < 64) :
    (ofNat n / ofNat (2 ^ k)).meaning = .finite false (roundSteps n 1 * 2 ^ (1074 - k)) := by
  have hpower : (2 : ℕ) ^ k < 2 ^ 64 := Nat.pow_lt_pow_right one_lt_two hk
  have hden : 0 < 2 ^ k * stepsPerUnit := Nat.mul_pos (Nat.two_pow_pos k) stepsPerUnit_pos
  have hsteps : stepsPerUnit = 2 ^ (1074 - k) * 2 ^ k := stepsPerUnit_eq_mul (by omega)
  have hnum : roundSteps n 1 * stepsPerUnit * stepsPerUnit =
      roundSteps n 1 * 2 ^ (1074 - k) * (2 ^ k * stepsPerUnit) :=
    calc
      roundSteps n 1 * stepsPerUnit * stepsPerUnit =
          roundSteps n 1 * (2 ^ (1074 - k) * 2 ^ k) * stepsPerUnit := by rw [← hsteps]
      _ = roundSteps n 1 * 2 ^ (1074 - k) * (2 ^ k * stepsPerUnit) := by ring
  have hfinite : roundSteps n 1 * 2 ^ (1074 - k) * (2 ^ k * stepsPerUnit) ≤
      greatestSteps * (2 ^ k * stepsPerUnit) :=
    Nat.mul_le_mul_right _ (mul_twoPow_le (roundSteps_le_twoPow hn.le) (Nat.sub_le 1074 k))
  have hpower_ne : roundSteps (2 ^ k) 1 * stepsPerUnit ≠ 0 := by
    rw [roundSteps_twoPow]
    exact hden.ne'
  rw [div_eq_ofQuotient (meaning_ofNat hn) (meaning_ofNat hpower) hpower_ne, roundSteps_twoPow, hnum,
    meaning_ofQuotient hden (magnitudeOfQuotient_lt hden hfinite), roundSteps_roundSteps_mul n _ hden]
  rfl

end Telemetry.Binary64
