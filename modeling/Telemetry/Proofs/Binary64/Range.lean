import Telemetry.Proofs.Binary64.Finite

/-!
Which operations stay among the finite doubles.

Rounding never leads beyond the greatest finite double unless the exact quotient lies beyond
it, and then it leads to an infinity and never to a NaN. So a finite double stays finite when
it is divided by a number of at least one, and a product of finite doubles that is not
infinite is finite.
-/

namespace Telemetry.Binary64

variable {x y : Binary64} {a b negative : Bool} {m n k num den : ℕ}

theorem meaning_of_isFinite (h : x.isFinite) : x.meaning = .finite x.signBit x.steps :=
  if_pos h

theorem isFinite_of_meaning (h : x.meaning = .finite a n) : x.isFinite := by
  by_contra hfinite
  rw [meaning, if_neg hfinite] at h
  split at h <;> cases h

theorem isFinite_zero : zero.isFinite := by decide

/-! ### The other sign -/

theorem exponentField_neg (x : Binary64) : (-x).exponentField = x.exponentField := by
  show (x.bits ^^^ 0x8000000000000000).toNat / 2 ^ 52 % 2 ^ 11 = x.exponentField
  rw [UInt64.toNat_xor, Nat.xor_div_two_pow, Nat.xor_mod_two_pow]
  exact Nat.xor_zero _

theorem isFinite_neg (x : Binary64) : (-x).isFinite = x.isFinite := by
  rw [isFinite, isFinite, exponentField_neg]

/-! ### The greatest number of steps -/

theorem steps_le (h : x.isFinite) : x.steps ≤ greatestSteps := by
  obtain ⟨k, hk⟩ : ∃ k, k = 2045 := ⟨2045, rfl⟩
  have hexponent : x.exponentField < 2047 := of_decide_eq_true h
  have hfraction : x.fractionField < 2 ^ 52 := Nat.mod_lt _ (by decide)
  have hsignificand : x.significand ≤ 2 ^ 53 - 1 := by
    rw [significand]
    split <;> omega
  rw [steps, greatestSteps_eq hk]
  exact Nat.mul_le_mul hsignificand (Nat.pow_le_pow_right two_pos (by omega))

theorem isFinite_ofQuotient (hden : 0 < den) (h : num ≤ greatestSteps * den) :
    (ofQuotient negative num den).isFinite :=
  isFinite_of_meaning (meaning_ofQuotient hden (magnitudeOfQuotient_lt hden h))

/-- The double nearest to a number of 64 bits, of either sign, is finite. -/
theorem isFinite_ofQuotient_units (h : n ≤ 2 ^ 64) :
    (ofQuotient negative (n * stepsPerUnit) 1).isFinite :=
  isFinite_ofQuotient Nat.one_pos (mul_stepsPerUnit_le h)

theorem isFinite_ofNat (h : n ≤ 2 ^ 64) : (ofNat n).isFinite := isFinite_ofQuotient_units h

theorem isFinite_ofInt {i : ℤ} (h : i.natAbs ≤ 2 ^ 64) : (ofInt i).isFinite :=
  isFinite_ofQuotient_units h

/-! ### Powers of ten -/

theorem tenPow_mul_stepsPerUnit_le (h : k ≤ 308) : 10 ^ k * stepsPerUnit ≤ greatestSteps := by
  obtain ⟨unit, hunit⟩ : ∃ unit, unit = 1074 := ⟨1074, rfl⟩
  obtain ⟨rest, hrest⟩ : ∃ rest, rest = 971 := ⟨971, rfl⟩
  have hpower : 10 ^ 308 ≤ (2 ^ 53 - 1) * 2 ^ rest := by
    rw [hrest]
    decide +kernel
  rw [stepsPerUnit_eq hunit, greatestSteps_eq (k := rest + unit) (by omega), Nat.pow_add,
    ← Nat.mul_assoc]
  exact Nat.mul_le_mul_right _ ((Nat.pow_le_pow_right (by decide) h).trans hpower)

/-- A power of ten within the range is a finite double of at least one. -/
theorem meaning_pow10 (h : k ≤ 308) :
    ∃ n, stepsPerUnit ≤ n ∧ (pow10 k).meaning = .finite false n := by
  obtain ⟨unit, hunit⟩ : ∃ unit, unit = 1074 := ⟨1074, rfl⟩
  have hfinite : 10 ^ k * stepsPerUnit ≤ greatestSteps * 1 := by
    rw [Nat.mul_one]
    exact tenPow_mul_stepsPerUnit_le h
  refine ⟨_, ?_, meaning_ofQuotient Nat.one_pos (magnitudeOfQuotient_lt Nat.one_pos hfinite)⟩
  rw [stepsPerUnit_eq hunit]
  exact twoPow_le_roundSteps (Nat.le_mul_of_pos_left _ (by positivity))

theorem isFinite_pow10 (h : k ≤ 308) : (pow10 k).isFinite := by
  obtain ⟨n, -, hmeaning⟩ := meaning_pow10 h
  exact isFinite_of_meaning hmeaning

/-! ### Quotients and products -/

/-- What is divided by a number of at least one does not grow. -/
theorem isFinite_div (hx : x.isFinite) (hy : y.meaning = .finite b n) (hn : stepsPerUnit ≤ n) :
    (x / y).isFinite := by
  have hpos : 0 < n := stepsPerUnit_pos.trans_le hn
  rw [div_eq_ofQuotient (meaning_of_isFinite hx) hy hpos.ne']
  exact isFinite_ofQuotient hpos (Nat.mul_le_mul (steps_le hx) hn)

theorem isFinite_or_isInfinite_ofQuotient (negative : Bool) (num den : ℕ) :
    (ofQuotient negative num den).isFinite ∨ (ofQuotient negative num den).isInfinite := by
  have hle : min infiniteMagnitude (magnitudeOfQuotient num den) ≤ infiniteMagnitude :=
    Nat.min_le_left _ _
  rw [ofQuotient]
  generalize min infiniteMagnitude (magnitudeOfQuotient num den) = magnitude at hle
  have hlt : magnitude < 2 ^ 63 := hle.trans_lt infiniteMagnitude_lt
  rw [isFinite, isInfinite, exponentField_ofMagnitude negative hlt,
    fractionField_ofMagnitude negative hlt]
  rw [infiniteMagnitude] at hle
  rcases hle.lt_or_eq with hlow | htop
  · exact .inl (decide_eq_true (by omega))
  · subst htop
    exact .inr (by decide)

theorem isFinite_mul (hx : x.isFinite) (hy : y.isFinite) (h : (x * y).isInfinite = false) :
    (x * y).isFinite := by
  have hmul : x * y =
      ofQuotient (x.signBit != y.signBit) (x.steps * y.steps) stepsPerUnit := by
    show mul x y = _
    rw [mul, meaning_of_isFinite hx, meaning_of_isFinite hy]
  rw [hmul] at h ⊢
  refine (isFinite_or_isInfinite_ofQuotient _ _ _).resolve_right ?_
  rw [h]
  exact Bool.false_ne_true

end Telemetry.Binary64
