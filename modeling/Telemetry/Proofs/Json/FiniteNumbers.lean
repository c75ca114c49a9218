import Telemetry.Json.Number
import Telemetry.Proofs.Binary64.Range

/-!
The numbers of a text are finite.

A significand is a natural number of 64 bits, however many digits there are, and its double
is finite. Scaling by a power of ten divides by doubles of at least one, or multiplies once
and refuses an infinite product. So every branch ends in a finite double or in a refusal,
however long the digits and the exponent of a numeral are.
-/

namespace Telemetry.Json

variable {significand : Nat} {power : Int} {x : Binary64} {n : Numeral} {v : Number}

theorem absorb_le (h : significand ≤ maxSignificand) (digits : List Char) :
    (absorb significand digits).1 ≤ maxSignificand := by
  induction digits generalizing significand with
  | nil => exact h
  | cons c cs ih =>
      rw [absorb]
      split
      · next hnext => exact ih hnext
      · exact h

theorem Numeral.significand_le (n : Numeral) : n.significand.1 ≤ maxSignificand :=
  absorb_le (absorb_le (Nat.zero_le _) n.whole) n.decimals

/-! ### Powers of ten -/

theorem isFinite_divideByPower (hx : x.isFinite) (power : Nat) :
    (divideByPower x power).isFinite := by
  have hdivide {x : Binary64} (hx : x.isFinite) {k : Nat} (hk : k ≤ maxPower) :
      (x / Binary64.pow10 k).isFinite := by
    obtain ⟨n, hn, hmeaning⟩ := Binary64.meaning_pow10 hk
    exact Binary64.isFinite_div hx hmeaning hn
  induction power using Nat.strongRecOn generalizing x with
  | _ power ih =>
  rw [divideByPower]
  split
  · next hle => exact hdivide hx hle
  split
  · exact hx
  · next hlt _ =>
      have hsmaller : power - maxPower < power := by
        rw [maxPower] at hlt ⊢
        omega
      exact ih _ hsmaller (hdivide hx le_rfl)

theorem isFinite_scale? (hsignificand : significand ≤ maxSignificand)
    (h : scale? significand power = some x) : x.isFinite := by
  have hstart : (Binary64.ofNat significand).isFinite :=
    Binary64.isFinite_ofNat (hsignificand.trans (Nat.sub_le _ _))
  simp only [scale?] at h
  split at h
  · obtain rfl := Option.some.inj h
    exact isFinite_divideByPower hstart _
  split at h
  · next hnonneg hle =>
      have hpower : power.toNat ≤ 308 := by
        rw [maxPower] at hle
        omega
      split at h
      · exact nomatch h
      · next hproduct =>
          obtain rfl := Option.some.inj h
          exact Binary64.isFinite_mul hstart (Binary64.isFinite_pow10 hpower)
            (Bool.eq_false_iff.mpr hproduct)
  split at h
  · obtain rfl := Option.some.inj h
    exact hstart
  · exact nomatch h

/-! ### Numerals -/

/-- What is not zero by its exponent alone was scaled by some power of ten. -/
theorem Numeral.scaled_or_zero_of_magnitude (h : n.magnitude = .ok x) :
    (∃ power, scale? n.significand.1 power = some x) ∨ x = .zero := by
  simp only [magnitude] at h
  split at h
  · split at h
    · next hsome => exact .inl ⟨_, Except.ok.inj h ▸ hsome⟩
    · cases h
  split at h
  · split at h
    · next hsome => exact .inl ⟨_, Except.ok.inj h ▸ hsome⟩
    · cases h
  split at h
  · cases h
  · exact .inr (Except.ok.inj h).symm

theorem Numeral.isFinite_magnitude (h : n.magnitude = .ok x) : x.isFinite := by
  rcases scaled_or_zero_of_magnitude h with ⟨power, hscale⟩ | rfl
  · exact isFinite_scale? n.significand_le hscale
  · exact Binary64.isFinite_zero

/-- The double that a number is read as. -/
def Number.toReal : Number → Binary64
  | .integer i => .ofInt i
  | .real x => x

/-- **Every number is finite.** -/
theorem Numeral.isFinite_value (h : n.value = .ok v) : v.toReal.isFinite := by
  simp only [value] at h
  split at h
  · next hinteger =>
      obtain rfl := Except.ok.inj h
      refine Binary64.isFinite_ofInt ?_
      simp only [Bool.and_eq_true, decide_eq_true_eq] at hinteger
      rw [maxSignificand] at hinteger
      omega
  split at h
  · next hinteger =>
      obtain rfl := Except.ok.inj h
      refine Binary64.isFinite_ofInt ?_
      simp only [Bool.and_eq_true, decide_eq_true_eq] at hinteger
      omega
  · cases hmagnitude : n.magnitude with
    | error left =>
        rw [hmagnitude] at h
        exact nomatch h
    | ok x =>
        rw [hmagnitude] at h
        obtain rfl := Except.ok.inj h
        have hx : x.isFinite := isFinite_magnitude hmagnitude
        show Binary64.isFinite (if n.negative then -x else x) = true
        split
        · rw [Binary64.isFinite_neg]
          exact hx
        · exact hx

end Telemetry.Json
