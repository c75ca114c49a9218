import Mathlib.Data.List.TakeWhile
import Mathlib.Data.Rat.Defs
import Mathlib.Tactic.Ring
import Telemetry.Decimal.Fixed

/-!
Decimal text and what it denotes.

`valueOf` reads a decimal as a rational number. The decimals that are written with a
fixed number of places are read back as the number of units they were written from, and
with two places their digits can be said outright.
-/

namespace Telemetry.Decimal

variable {whole decimals : List Char} {places width : ℕ} (n : ℕ)

/-- The number that a decimal denotes: that of all its digits, divided by ten for every digit
behind the point. -/
def valueOf (text : List Char) : ℚ :=
  let whole := text.takeWhile (· ≠ '.')
  let decimals := (text.dropWhile (· ≠ '.')).drop 1
  Nat.ofDigitChars 10 (whole ++ decimals) 0 / 10 ^ decimals.length

theorem forall_ne_of_notMem {mark : Char} {text : List Char} (h : mark ∉ text) :
    ∀ c ∈ text, (c ≠ mark : Bool) := by
  intro c hc
  have hne : c ≠ mark := ne_of_mem_of_not_mem hc h
  simpa using hne

theorem valueOf_whole (hwhole : '.' ∉ whole) :
    valueOf whole = Nat.ofDigitChars 10 whole 0 := by
  have hne := forall_ne_of_notMem hwhole
  rw [valueOf, List.takeWhile_eq_self_iff.mpr hne, List.dropWhile_eq_nil_iff.mpr hne]
  simp

theorem valueOf_append (hwhole : '.' ∉ whole) :
    valueOf (whole ++ '.' :: decimals) =
      Nat.ofDigitChars 10 (whole ++ decimals) 0 / 10 ^ decimals.length := by
  have hne := forall_ne_of_notMem hwhole
  rw [valueOf, List.takeWhile_append_of_pos hne, List.dropWhile_append_of_pos hne]
  simp

theorem point_notMem (hwhole : ∀ c ∈ whole, c.isDigit) : '.' ∉ whole := fun hpoint =>
  absurd (hwhole '.' hpoint) (by decide)

/-! ### Digits -/

theorem digitChar_ne_zero : ∀ n < 10, 0 < n → n.digitChar ≠ '0' := by
  decide

theorem toDigits_first {n : ℕ} (hn : 0 < n) : ∃ c cs, Nat.toDigits 10 n = c :: cs ∧ c ≠ '0' := by
  induction n using Nat.strongRecOn with
  | _ n ih =>
  rw [Nat.toDigits_eq_if (by decide)]
  split
  · next hlt => exact ⟨_, [], rfl, digitChar_ne_zero n hlt hn⟩
  · next hge =>
      -- the first digit is that of `n / 10`, which is positive as well
      obtain ⟨c, cs, hcs, hc⟩ := ih (n / 10) (by omega) (by omega)
      exact ⟨c, _, by rw [hcs]; rfl, hc⟩

/-- No zero stands before other digits. -/
theorem toDigits_eq_zero_or : Nat.toDigits 10 n = ['0'] ∨ (Nat.toDigits 10 n).head? ≠ some '0' := by
  rcases Nat.eq_zero_or_pos n with rfl | hn
  · exact .inl (Nat.toDigits_zero 10)
  · obtain ⟨c, cs, hcs, hc⟩ := toDigits_first hn
    rw [hcs]
    exact .inr fun hhead => hc (Option.some.inj hhead)

/-! ### Padded digits -/

theorem isDigit_of_mem_padded {c : Char} (hc : c ∈ padded width n) : c.isDigit := by
  rcases List.mem_append.mp hc with hzero | hdigit
  · rw [List.eq_of_mem_replicate hzero]
    rfl
  · exact Nat.isDigit_of_mem_toDigits (by decide) (by decide) hdigit

theorem le_length_padded : width ≤ (padded width n).length := by
  simp only [padded, List.length_append, List.length_replicate]
  omega

theorem ofDigitChars_padded : Nat.ofDigitChars 10 (padded width n) 0 = n := by
  rw [padded, Nat.ofDigitChars_append, Nat.ofDigitChars_replicate_zero, Nat.mul_zero,
    Nat.ofDigitChars_toDigits (by decide) (by decide)]

theorem padded_one : padded 1 n = Nat.toDigits 10 n := by
  have hpos : 0 < (Nat.toDigits 10 n).length := Nat.length_toDigits_pos
  rw [padded, Nat.sub_eq_zero_of_le hpos, List.replicate_zero, List.nil_append]

/-- The last digit of several stands for the rest of a division by ten. -/
theorem padded_succ (hwidth : 0 < width) :
    padded (width + 1) n = padded width (n / 10) ++ [(n % 10).digitChar] := by
  rcases Nat.lt_or_ge n 10 with hlt | hge
  · rw [padded, padded, Nat.toDigits_of_lt_base hlt, Nat.div_eq_of_lt hlt, Nat.mod_eq_of_lt hlt,
      Nat.toDigits_zero]
    obtain ⟨w, rfl⟩ := Nat.exists_eq_succ_of_ne_zero hwidth.ne'
    simp [List.replicate_succ']
  · rw [padded, padded, Nat.toDigits_of_base_le (by decide) hge, ← List.append_assoc]
    simp

/-! ### Decimals with a fixed number of places -/

theorem placed_eq (hplaces : 0 < places) :
    placed places n =
      (padded (places + 1) n).take ((padded (places + 1) n).length - places) ++
        '.' :: (padded (places + 1) n).drop ((padded (places + 1) n).length - places) := by
  rw [placed, if_neg hplaces.ne']

/-- The number written with so many places is read back. -/
theorem valueOf_placed (hplaces : 0 < places) :
    valueOf (placed places n) = n / 10 ^ places := by
  have hdigits : ∀ c ∈ padded (places + 1) n, c.isDigit := fun c hc => isDigit_of_mem_padded n hc
  have hlength : places ≤ (padded (places + 1) n).length :=
    (Nat.le_succ places).trans (le_length_padded n)
  rw [placed_eq n hplaces,
    valueOf_append (point_notMem fun c hc => hdigits c (List.mem_of_mem_take hc)),
    List.take_append_drop, ofDigitChars_padded, List.length_drop, Nat.sub_sub_self hlength]

/-- Two places: the whole part without a superfluous zero, and two digits. -/
theorem placed_two : placed 2 n =
    Nat.toDigits 10 (n / 100) ++ ['.', (n / 10 % 10).digitChar, (n % 10).digitChar] := by
  have hpadded : padded 3 n =
      Nat.toDigits 10 (n / 100) ++ [(n / 10 % 10).digitChar, (n % 10).digitChar] := by
    have htens : padded 2 (n / 10) = padded 1 (n / 10 / 10) ++ [(n / 10 % 10).digitChar] :=
      padded_succ (n / 10) one_pos
    rw [padded_succ n two_pos, htens, padded_one, Nat.div_div_eq_div_mul]
    simp
  rw [placed_eq n two_pos, hpadded]
  simp

/-- Nothing but digits and the point is written. -/
theorem mem_placed {c : Char} (hplaces : 0 < places) (hc : c ∈ placed places n) :
    c.isDigit ∨ c = '.' := by
  rw [placed_eq n hplaces] at hc
  rcases List.mem_append.mp hc with hwhole | hrest
  · exact .inl (isDigit_of_mem_padded n (List.mem_of_mem_take hwhole))
  rcases List.mem_cons.mp hrest with hpoint | hdecimals
  · exact .inr hpoint
  · exact .inl (isDigit_of_mem_padded n (List.mem_of_mem_drop hdecimals))

end Telemetry.Decimal
