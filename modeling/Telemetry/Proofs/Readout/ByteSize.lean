import Mathlib.Order.Bounds.Defs
import Telemetry.Proofs.Binary64.Finite
import Telemetry.Proofs.Decimal.Placed
import Telemetry.Readout.ByteSize

/-!
What a byte count with its unit tells.

A text is read back as a number of units. The number was rounded twice, to the 53
significant digits of a double and then to hundredths of the unit, and both times to the
nearest; so the text is off by half a hundredth of the unit and what the double lost. Both
roundings keep the order, and a power of 1024 is never rounded: a count below the next
unit shows at most that unit, which is why the order holds across units too.
-/

namespace Telemetry.Readout

open Binary64

variable {count : UInt64} {n m r c k top : ℕ} {number : List Char} {unit : String}

/-! ### Reading a text back -/

/-- The number in front of the blank. -/
def shownNumber (text : String) : ℚ := Decimal.valueOf (text.toList.takeWhile (· ≠ ' '))

/-- The unit behind the blank. -/
def shownUnit (text : String) : String := String.ofList ((text.toList.dropWhile (· ≠ ' ')).drop 1)

/-- The count that a text stands for. -/
def shownCount (text : String) : ℚ := shownNumber text * 1024 ^ byteUnits.idxOf (shownUnit text)

theorem toList_sized :
    (String.ofList number ++ " " ++ unit).toList = number ++ ' ' :: unit.toList := by
  simp

theorem shownNumber_sized (hnumber : ' ' ∉ number) :
    shownNumber (String.ofList number ++ " " ++ unit) = Decimal.valueOf number := by
  rw [shownNumber, toList_sized,
    List.takeWhile_append_of_pos (Decimal.forall_ne_of_notMem hnumber)]
  simp

theorem shownUnit_sized (hnumber : ' ' ∉ number) :
    shownUnit (String.ofList number ++ " " ++ unit) = unit := by
  rw [shownUnit, toList_sized,
    List.dropWhile_append_of_pos (Decimal.forall_ne_of_notMem hnumber)]
  simp

/-! ### The unit -/

theorem unitIndex_le (top n : ℕ) : unitIndex top n ≤ top := by
  induction top generalizing n with
  | zero => exact le_rfl
  | succ top ih =>
      rw [unitIndex]
      split
      · exact Nat.zero_le _
      · exact Nat.succ_le_succ (ih _)

theorem pow_unitIndex_le (top : ℕ) (hn : 0 < n) : 1024 ^ unitIndex top n ≤ n := by
  induction top generalizing n with
  | zero => exact hn
  | succ top ih =>
      rw [unitIndex]
      split
      · exact hn
      · next hge =>
          have hpow := ih (n := n / 1024) (by omega)
          rw [Nat.pow_succ]
          omega

theorem lt_pow_unitIndex (h : unitIndex top n < top) : n < 1024 ^ (unitIndex top n + 1) := by
  induction top generalizing n with
  | zero => exact absurd h (Nat.lt_irrefl 0)
  | succ top ih =>
      rw [unitIndex] at h ⊢
      split
      · next hlt => exact hlt
      · next hge =>
          rw [if_neg hge] at h
          have hpow := ih (Nat.lt_of_succ_lt_succ h)
          rw [Nat.pow_succ]
          omega

theorem isGreatest_unitIndex (top : ℕ) (hn : 0 < n) :
    IsGreatest {k | k ≤ top ∧ 1024 ^ k ≤ n} (unitIndex top n) := by
  refine ⟨⟨unitIndex_le top n, pow_unitIndex_le top hn⟩, fun k hk => ?_⟩
  by_contra hlt
  have hlt : unitIndex top n < k := Nat.not_le.mp hlt
  have hbelow := lt_pow_unitIndex (hlt.trans_le hk.1)
  exact absurd (hk.2.trans_lt hbelow) (Nat.pow_le_pow_right (by decide) hlt).not_gt

/-! ### The number -/

/-- How many hundredths of its unit a count is shown as. -/
def hundredths (n : ℕ) : ℕ := roundQuotient (roundSteps n 1 * 100) (1024 ^ unitIndex 4 n)

theorem pow_eq_twoPow (k : ℕ) : 1024 ^ k = 2 ^ (10 * k) := by
  rw [Nat.pow_mul]

theorem fixed_ofNat_div (hn : n < 2 ^ 64) (hk : k ≤ 4) :
    Decimal.fixed 2 (ofNat n / ofNat (1024 ^ k)) =
      String.ofList (Decimal.placed 2 (roundQuotient (roundSteps n 1 * 100) (1024 ^ k))) := by
  rw [pow_eq_twoPow, Decimal.fixed, meaning_ofNat_div_twoPow hn (by omega)]
  have hsteps : stepsPerUnit = 2 ^ (1074 - 10 * k) * 2 ^ (10 * k) :=
    stepsPerUnit_eq_mul (by omega)
  have hquotient : roundQuotient (roundSteps n 1 * 2 ^ (1074 - 10 * k) * 10 ^ 2) stepsPerUnit =
      roundQuotient (roundSteps n 1 * 100) (2 ^ (10 * k)) := by
    refine roundQuotient_congr stepsPerUnit_pos (by positivity) ?_
    rw [hsteps]
    ring
  simp only [hquotient]
  simp

theorem toNat_pos (hcount : count ≠ 0) : 0 < count.toNat :=
  Nat.pos_of_ne_zero fun hzero => hcount (UInt64.toNat_inj.mp hzero)

theorem byteSize_eq (hcount : count ≠ 0) :
    byteSize count = String.ofList (Decimal.placed 2 (hundredths count.toNat)) ++ " " ++
      byteUnits.getD (unitIndex 4 count.toNat) "" := by
  show (if count.toNat = 0 then "0 B" else _) = _
  rw [if_neg (toNat_pos hcount).ne']
  exact congrArg (· ++ " " ++ _) (fixed_ofNat_div count.toNat_lt (unitIndex_le 4 _))

theorem space_notMem_placed (n : ℕ) : ' ' ∉ Decimal.placed 2 n := by
  intro hspace
  rcases Decimal.mem_placed n two_pos hspace with hdigit | hpoint
  · exact absurd hdigit (by decide)
  · exact absurd hpoint (by decide)

theorem shownNumber_byteSize (hcount : count ≠ 0) :
    shownNumber (byteSize count) = hundredths count.toNat / 100 := by
  rw [byteSize_eq hcount, shownNumber_sized (space_notMem_placed _),
    Decimal.valueOf_placed _ two_pos]
  norm_num

theorem shownUnit_byteSize (hcount : count ≠ 0) :
    shownUnit (byteSize count) = byteUnits.getD (unitIndex 4 count.toNat) "" := by
  rw [byteSize_eq hcount, shownUnit_sized (space_notMem_placed _)]

theorem idxOf_byteUnits : ∀ k ≤ 4, byteUnits.idxOf (byteUnits.getD k "") = k := by
  decide

theorem shownCount_byteSize (hcount : count ≠ 0) :
    shownCount (byteSize count) =
      hundredths count.toNat / 100 * 1024 ^ unitIndex 4 count.toNat := by
  rw [shownCount, shownNumber_byteSize hcount, shownUnit_byteSize hcount,
    idxOf_byteUnits _ (unitIndex_le 4 _)]

/-! ### Accuracy -/

theorem isNearestEven_hundredths (n : ℕ) :
    IsNearestEven (100 * (roundSteps n 1 / 1024 ^ unitIndex 4 n)) (hundredths n) := by
  have hnearest := isNearestEven_roundQuotient (roundSteps n 1 * 100)
    (Nat.pow_pos (n := unitIndex 4 n) (by decide : 0 < 1024))
  push_cast at hnearest
  rw [mul_div_assoc', mul_comm]
  exact hnearest

/-- A number of hundredths of a unit is off by at most half of one. -/
theorem abs_hundredths_sub_le {x unit : ℚ} (hunit : 0 < unit)
    (h : IsNearestEven (100 * (x / unit)) c) : |c / 100 * unit - x| ≤ unit / 200 := by
  have hnearest : IsNearestInteger (x * (100 / unit)) c := by
    rw [mul_div_left_comm]
    exact h.isNearestInteger
  calc
    |c / 100 * unit - x| = |((c : ℤ) : ℚ) / (100 / unit) - x| := by
      rw [Int.cast_natCast, div_div_eq_mul_div, div_mul_eq_mul_div]
    _ ≤ 1 / (2 * (100 / unit)) := hnearest.abs_div_sub_le (by positivity)
    _ = unit / 200 := by
      field_simp
      norm_num

theorem abs_shownCount_sub_le (hcount : count ≠ 0) :
    |shownCount (byteSize count) - count.toNat| ≤
      1024 ^ unitIndex 4 count.toNat / 200 +
        |(roundSteps count.toNat 1 : ℚ) - count.toNat| := by
  rw [shownCount_byteSize hcount]
  refine (abs_sub_le _ (roundSteps count.toNat 1 : ℚ) _).trans ?_
  gcongr
  exact abs_hundredths_sub_le (by positivity) (isNearestEven_hundredths count.toNat)

/-! ### Order -/

theorem le_hundredths (hn : 0 < n) : 100 ≤ hundredths n := by
  refine le_roundQuotient (by positivity) ?_
  have hrounded : 1024 ^ unitIndex 4 n ≤ roundSteps n 1 := by
    have hpow := pow_unitIndex_le 4 hn
    rw [pow_eq_twoPow] at hpow ⊢
    exact twoPow_le_roundSteps hpow
  omega

theorem hundredths_le (h : unitIndex 4 n < 4) : hundredths n ≤ 102400 := by
  refine roundQuotient_le (by positivity) ?_
  have hrounded : roundSteps n 1 ≤ 1024 ^ (unitIndex 4 n + 1) := by
    have hpow := (lt_pow_unitIndex h).le
    rw [pow_eq_twoPow] at hpow ⊢
    exact roundSteps_le_twoPow hpow
  rw [Nat.pow_succ] at hrounded
  omega

theorem unitIndex_mono (hm : 0 < m) (h : m ≤ n) : unitIndex 4 m ≤ unitIndex 4 n :=
  (isGreatest_unitIndex 4 (hm.trans_le h)).2
    ⟨unitIndex_le 4 m, (pow_unitIndex_le 4 hm).trans h⟩

theorem hundredths_mono (h : m ≤ n) (hunit : unitIndex 4 m = unitIndex 4 n) :
    hundredths m ≤ hundredths n := by
  rw [hundredths, hundredths, hunit]
  refine roundQuotient_mono (by positivity) (by positivity) ?_
  exact Nat.mul_le_mul_right _ (Nat.mul_le_mul_right 100 (roundSteps_one_mono h))

theorem shownCount_zero : shownCount (byteSize 0) = 0 := by
  have hnumber : (byteSize 0).toList.takeWhile (· ≠ ' ') = ['0'] := rfl
  rw [shownCount, shownNumber, hnumber, Decimal.valueOf_whole (by decide)]
  simp [Nat.ofDigitChars]

theorem shownCount_nonneg (count : UInt64) : 0 ≤ shownCount (byteSize count) := by
  by_cases hcount : count = 0
  · rw [hcount, shownCount_zero]
  · rw [shownCount_byteSize hcount]
    positivity

/-- A greater count never shows less. -/
theorem shownCount_mono {a b : UInt64} (h : a ≤ b) :
    shownCount (byteSize a) ≤ shownCount (byteSize b) := by
  by_cases ha : a = 0
  · rw [ha, shownCount_zero]
    exact shownCount_nonneg b
  have hle : a.toNat ≤ b.toNat := UInt64.le_iff_toNat_le.mp h
  have hpos : 0 < a.toNat := toNat_pos ha
  have hb : b ≠ 0 := by
    rintro rfl
    exact absurd (hpos.trans_le hle) (by decide)
  rw [shownCount_byteSize ha, shownCount_byteSize hb]
  rcases (unitIndex_mono hpos hle).eq_or_lt with hunit | hunit
  · have hhundredths : (hundredths a.toNat : ℚ) ≤ hundredths b.toNat := by
      exact_mod_cast hundredths_mono hle hunit
    rw [hunit]
    gcongr
  · -- the first is at most the next unit, the second at least its own
    have hupper : (hundredths a.toNat : ℚ) ≤ 102400 := by
      exact_mod_cast hundredths_le (hunit.trans_le (unitIndex_le 4 _))
    have hlower : (100 : ℚ) ≤ hundredths b.toNat := by
      exact_mod_cast le_hundredths (hpos.trans_le hle)
    calc
      (hundredths a.toNat : ℚ) / 100 * 1024 ^ unitIndex 4 a.toNat
          ≤ 102400 / 100 * 1024 ^ unitIndex 4 a.toNat := by gcongr
      _ = 1024 ^ (unitIndex 4 a.toNat + 1) := by ring
      _ ≤ 1024 ^ unitIndex 4 b.toNat := pow_le_pow_right₀ (by norm_num) hunit
      _ = 100 / 100 * 1024 ^ unitIndex 4 b.toNat := by ring
      _ ≤ hundredths b.toNat / 100 * 1024 ^ unitIndex 4 b.toNat := by gcongr

/-- **Accuracy and order.** A count is shown in the greatest unit it holds once, as the
hundredths nearest to what the double of the count is in that unit. Read back, the text is off by
half a hundredth of the unit and what the double lost, and greater counts never read smaller. -/
theorem byteSize_accurate :
    (∀ count : UInt64, count ≠ 0 → ∃ u r c : ℕ,
      IsGreatest {k | k ≤ 4 ∧ 1024 ^ k ≤ count.toNat} u ∧
      IsRounded count.toNat r ∧ IsNearestEven (100 * (r / 1024 ^ u)) c ∧
      byteSize count = String.ofList (Nat.toDigits 10 (c / 100) ++
        ['.', (c / 10 % 10).digitChar, (c % 10).digitChar]) ++ " " ++ byteUnits.getD u "" ∧
      shownCount (byteSize count) = c / 100 * 1024 ^ u ∧
      |shownCount (byteSize count) - count.toNat| ≤
        1024 ^ u / 200 + |(r : ℚ) - count.toNat|) ∧
    shownCount (byteSize 0) = 0 ∧
    ∀ a b : UInt64, a ≤ b → shownCount (byteSize a) ≤ shownCount (byteSize b) := by
  refine ⟨fun count hcount => ?_, shownCount_zero, fun a b h => shownCount_mono h⟩
  refine ⟨unitIndex 4 count.toNat, roundSteps count.toNat 1, hundredths count.toNat,
    isGreatest_unitIndex 4 (toNat_pos hcount), isRounded_roundSteps _, isNearestEven_hundredths _, ?_,
    shownCount_byteSize hcount, abs_shownCount_sub_le hcount⟩
  rw [byteSize_eq hcount, Decimal.placed_two]

/-- The greatest count is rounded up to a power of two, and the last count in kilobytes shows as
much as the first in megabytes. -/
theorem byteSize_accurate_greatest :
    byteSize 18446744073709551615 = "16777216.00 TB" ∧
    (∃ u r : ℕ, IsGreatest {k | k ≤ 4 ∧ 1024 ^ k ≤ 18446744073709551615} u ∧
      IsRounded 18446744073709551615 r ∧
      |shownCount (byteSize 18446744073709551615) - 18446744073709551615| ≤
        1024 ^ u / 200 + |(r : ℚ) - 18446744073709551615|) ∧
    shownCount (byteSize 1048575) ≤ shownCount (byteSize 1048576) := by
  refine ⟨by decide +kernel, ?_, byteSize_accurate.2.2 1048575 1048576 (by decide)⟩
  obtain ⟨u, r, c, hunit, hrounded, -, -, -, hnear⟩ :=
    byteSize_accurate.1 18446744073709551615 (by decide)
  exact ⟨u, r, hunit, hrounded, hnear⟩

/-! ### Near the next unit -/

theorem roundSteps_eq_self_of_unitIndex (h : unitIndex 4 n < 4) : roundSteps n 1 = n := by
  refine roundSteps_eq_self ((lt_pow_unitIndex h).le.trans ?_)
  calc
    1024 ^ (unitIndex 4 n + 1) ≤ 1024 ^ 4 := Nat.pow_le_pow_right (by decide) h
    _ ≤ 2 ^ 53 := by decide

/-- A count shows as the next unit if it is half a hundredth of its own unit away from it. The
tie goes to the even number, which is the next unit. -/
theorem hundredths_eq_iff (h : unitIndex 4 n < 4) :
    hundredths n = 102400 ↔
      (1024 : ℚ) ^ (unitIndex 4 n + 1) - n ≤ 1024 ^ unitIndex 4 n / 200 := by
  have hnearest := isNearestEven_hundredths n
  rw [roundSteps_eq_self_of_unitIndex h] at hnearest
  have hunit : (0 : ℚ) < 1024 ^ unitIndex 4 n := by positivity
  have hhalf : (1024 : ℚ) ^ (unitIndex 4 n + 1) - n ≤ 1024 ^ unitIndex 4 n / 200 ↔
      102399 + 1 / 2 ≤ 100 * ((n : ℚ) / 1024 ^ unitIndex 4 n) := by
    rw [mul_div_assoc', le_div_iff₀ hunit, pow_succ]
    constructor <;> intro hle <;> linarith
  rw [hhalf]
  constructor
  · intro heq
    have hlow := hnearest.bounds.1
    rw [heq] at hlow
    push_cast at hlow
    linarith
  · intro hle
    refine Nat.le_antisymm (hundredths_le h) ?_
    by_contra hlt
    have hlt : hundredths n ≤ 102399 := by omega
    have hcast : (hundredths n : ℚ) ≤ 102399 := by exact_mod_cast hlt
    have hhigh := hnearest.bounds.2
    have heq : hundredths n = 102399 := by
      have hge : (102399 : ℚ) ≤ hundredths n := by linarith
      exact Nat.le_antisymm hlt (by exact_mod_cast hge)
    have heven := hnearest.even_of_eq_add (by linarith)
    rw [heq] at heven
    exact absurd heven (by decide)

theorem unitIndex_eq_of_shownUnit (hcount : count ≠ 0) (hk : k ≤ 4)
    (hunit : shownUnit (byteSize count) = byteUnits.getD k "") : unitIndex 4 count.toNat = k := by
  rw [shownUnit_byteSize hcount] at hunit
  rw [← idxOf_byteUnits k hk, ← hunit, idxOf_byteUnits _ (unitIndex_le 4 _)]

/-- Below the greatest unit the number is at least one. It is 1024 within half a hundredth of the
next unit, and at most 1023.99 elsewhere. -/
theorem shownNumber_below_next (hcount : count ≠ 0) (hk : k < 4)
    (hunit : shownUnit (byteSize count) = byteUnits.getD k "") :
    1 ≤ shownNumber (byteSize count) ∧
    ((1024 : ℚ) ^ (k + 1) - count.toNat ≤ 1024 ^ k / 200 →
      shownNumber (byteSize count) = 1024) ∧
    (1024 ^ k / 200 < (1024 : ℚ) ^ (k + 1) - count.toNat →
      shownNumber (byteSize count) ≤ 1023.99) := by
  have hindex := unitIndex_eq_of_shownUnit hcount hk.le hunit
  have hbelow : unitIndex 4 count.toNat < 4 := hindex.trans_lt hk
  have hlower : (100 : ℚ) ≤ hundredths count.toNat := by
    exact_mod_cast le_hundredths (toNat_pos hcount)
  have hnext := hundredths_eq_iff hbelow
  rw [hindex] at hnext
  rw [shownNumber_byteSize hcount]
  refine ⟨by linarith, fun hclose => ?_, fun hfar => ?_⟩
  · rw [hnext.mpr hclose]
    norm_num
  · have hne : hundredths count.toNat ≠ 102400 := fun heq => (hnext.mp heq).not_gt hfar
    have hle := hundredths_le hbelow
    have hupper : (hundredths count.toNat : ℚ) ≤ 102399 := by
      exact_mod_cast (by omega : hundredths count.toNat ≤ 102399)
    rw [div_le_iff₀ (by norm_num)]
    linarith

theorem valueOf_next : Decimal.valueOf ['1', '0', '2', '4', '.', '0', '0'] = 1024 := by
  have hsplit : ['1', '0', '2', '4', '.', '0', '0'] = ['1', '0', '2', '4'] ++ '.' :: ['0', '0'] := rfl
  have hdigits : Nat.ofDigitChars 10 (['1', '0', '2', '4'] ++ ['0', '0']) 0 = 102400 := by decide
  rw [hsplit, Decimal.valueOf_append (by decide), hdigits]
  norm_num

/-- One byte less than a megabyte. -/
theorem shownNumber_below_next_megabyte :
    (1048575 : UInt64) ≠ 0 ∧ shownUnit (byteSize 1048575) = "KB" ∧
    shownNumber (byteSize 1048575) = 1024 := by
  have hunit : shownUnit (byteSize 1048575) = "KB" := by decide +kernel
  have hcount : (1048575 : UInt64).toNat = 1048575 := rfl
  refine ⟨by decide, hunit, ?_⟩
  refine (shownNumber_below_next (k := 1) (by decide) (by decide) hunit).2.1 ?_
  rw [hcount]
  norm_num

/-- The number in front of a unit can be as great as the next unit. -/
theorem shownNumber_reaches_next :
    ¬ ∀ count : UInt64, count ≠ 0 → shownUnit (byteSize count) ∈ ["B", "KB", "MB", "GB"] →
      1 ≤ shownNumber (byteSize count) ∧ shownNumber (byteSize count) ≤ 1023.99 := by
  intro hall
  have htext : byteSize 1048575 = "1024.00 KB" := by decide +kernel
  have hnumber : shownNumber (byteSize 1048575) = 1024 := by
    rw [htext]
    exact valueOf_next
  have hle := (hall 1048575 (by decide) (by rw [htext]; decide)).2
  rw [hnumber] at hle
  norm_num at hle

end Telemetry.Readout
