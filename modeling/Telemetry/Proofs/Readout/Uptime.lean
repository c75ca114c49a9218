import Telemetry.Proofs.Binary64.Value
import Telemetry.Readout.Uptime

/-!
What the text of a duration tells.

The parts of a duration are the digits of its whole seconds in a mixed radix, written from
the greatest part that is not zero on. A reader that adds up the parts finds the seconds
again, so durations of different length have different texts.
-/

namespace Telemetry.Readout

variable {d h m s : ℕ} {text : String}

/-- The whole seconds of a duration: none if it is no finite number or not positive, and no more
than 64 bits hold. -/
def duration (x : Binary64) : ℕ :=
  if x.isFinite ∧ 0 < x.toRat then min ⌊x.toRat⌋₊ (2 ^ 64 - 1) else 0

theorem wholeSeconds_eq (x : Binary64) : wholeSeconds x = duration x := by
  rw [wholeSeconds, duration]
  cases hfinite : x.isFinite with
  | false => simp
  | true => simp [Binary64.truncate_of_isFinite hfinite, maxSeconds, Nat.min_comm]

/-- A number, without superfluous zeros, and what it counts. -/
def part (n : ℕ) (mark : String) : String := toString n ++ mark

/-- How days, hours, minutes and seconds are written: from the first that are not zero on, and the
seconds always. -/
inductive IsDuration : (d h m s : ℕ) → String → Prop where
  | seconds (s : ℕ) : IsDuration 0 0 0 s (part s "s")
  | minutes {m : ℕ} (leading : 0 < m) (s : ℕ) : IsDuration 0 0 m s (part m "m " ++ part s "s")
  | hours {h : ℕ} (leading : 0 < h) (m s : ℕ) :
      IsDuration 0 h m s (part h "h " ++ part m "m " ++ part s "s")
  | days {d : ℕ} (leading : 0 < d) (h m s : ℕ) :
      IsDuration d h m s (part d "d " ++ part h "h " ++ part m "m " ++ part s "s")

theorem splitSeconds_eq (total : ℕ) :
    splitSeconds total =
      (if 0 < total / 86400 then part (total / 86400) "d " else "") ++
        (if 0 < total / 86400 ∨ 0 < total % 86400 / 3600 then part (total % 86400 / 3600) "h "
          else "") ++
        (if 0 < total / 86400 ∨ 0 < total % 86400 / 3600 ∨ 0 < total % 3600 / 60 then
          part (total % 3600 / 60) "m " else "") ++
        part (total % 60) "s" :=
  rfl

theorem isDuration_splitSeconds (total : ℕ) :
    IsDuration (total / 86400) (total % 86400 / 3600) (total % 3600 / 60) (total % 60)
      (splitSeconds total) := by
  rw [splitSeconds_eq]
  rcases Nat.eq_zero_or_pos (total / 86400) with hd | hd
  · rcases Nat.eq_zero_or_pos (total % 86400 / 3600) with hh | hh
    · rcases Nat.eq_zero_or_pos (total % 3600 / 60) with hm | hm
      · simpa [hd, hh, hm] using IsDuration.seconds _
      · simpa [hd, hh, hm] using IsDuration.minutes hm _
    · simpa [hd, hh] using IsDuration.hours hh _ _
  · simpa [hd] using IsDuration.days hd _ _ _

/-! ### Reading a text back -/

/-- How many seconds there are in what a letter stands for. -/
def secondsPer : Char → ℕ
  | 'd' => 86400
  | 'h' => 3600
  | 'm' => 60
  | 's' => 1
  | _ => 0

/-- Reads a character, given the seconds of the parts before and the number that is being read. -/
def readChar (state : ℕ × ℕ) (c : Char) : ℕ × ℕ :=
  if c.isDigit then (state.1, 10 * state.2 + (c.toNat - '0'.toNat))
  else (state.1 + state.2 * secondsPer c, 0)

/-- The seconds that a text stands for. -/
def readDuration (text : String) : ℕ := (text.toList.foldl readChar (0, 0)).1

theorem foldl_readChar_digits {ds : List Char} (hds : ∀ c ∈ ds, c.isDigit) (total n : ℕ) :
    ds.foldl readChar (total, n) = (total, Nat.ofDigitChars 10 ds n) := by
  induction ds generalizing n with
  | nil => rfl
  | cons c ds ih =>
      obtain ⟨hc, hds⟩ := List.forall_mem_cons.mp hds
      rw [List.foldl_cons, readChar, if_pos hc, ih hds, Nat.ofDigitChars_cons]

/-- Reading a part adds its seconds, if reading what stands behind its number does. -/
theorem foldl_readChar_part (mark : String) (k : ℕ)
    (hmark : ∀ total n, mark.toList.foldl readChar (total, n) = (total + n * k, 0))
    (total n : ℕ) : (part n mark).toList.foldl readChar (total, 0) = (total + n * k, 0) := by
  have hdigits : ∀ c ∈ Nat.toDigits 10 n, c.isDigit := fun c hc =>
    Nat.isDigit_of_mem_toDigits (by decide) (by decide) hc
  rw [part, String.toList_append, List.foldl_append, Nat.toString_eq_repr, Nat.toList_repr,
    foldl_readChar_digits hdigits, Nat.ofDigitChars_toDigits (by decide) (by decide), hmark]

theorem readDuration_of_isDuration (htext : IsDuration d h m s text) :
    readDuration text = d * 86400 + h * 3600 + m * 60 + s := by
  have hdays := foldl_readChar_part "d " 86400 (by simp [readChar, secondsPer])
  have hhours := foldl_readChar_part "h " 3600 (by simp [readChar, secondsPer])
  have hminutes := foldl_readChar_part "m " 60 (by simp [readChar, secondsPer])
  have hseconds := foldl_readChar_part "s" 1 (by simp [readChar, secondsPer])
  cases htext <;> simp [readDuration, hdays, hhours, hminutes, hseconds]

/-- Nothing is lost when seconds are split. -/
theorem readDuration_splitSeconds (total : ℕ) : readDuration (splitSeconds total) = total := by
  rw [readDuration_of_isDuration (isDuration_splitSeconds total)]
  omega

theorem readDuration_uptime (x : Binary64) : readDuration (uptime x) = duration x := by
  rw [uptime, readDuration_splitSeconds, wholeSeconds_eq]

/-- **The text of a duration is read back.** It consists of the parts of the whole seconds from
the first that is not zero on, and two durations have one text only if their whole seconds are
the same. -/
theorem uptime_eq_iff_duration :
    (∀ x : Binary64, ∃ d h m s : ℕ, IsDuration d h m s (uptime x) ∧
      d * 86400 + h * 3600 + m * 60 + s = duration x ∧ s < 60 ∧ m < 60 ∧ h < 24 ∧
      readDuration (uptime x) = duration x) ∧
    ∀ x y : Binary64, uptime x = uptime y ↔ duration x = duration y := by
  refine ⟨fun x => ?_, fun x y => ⟨fun htext => ?_, fun hduration => ?_⟩⟩
  · refine ⟨_, _, _, _, isDuration_splitSeconds (wholeSeconds x), ?_, ?_, ?_, ?_,
      readDuration_uptime x⟩
    · rw [wholeSeconds_eq]
      omega
    all_goals omega
  · rw [← readDuration_uptime x, htext, readDuration_uptime]
  · rw [uptime, uptime, wholeSeconds_eq, wholeSeconds_eq, hduration]

end Telemetry.Readout
