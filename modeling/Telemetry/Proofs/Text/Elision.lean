import Mathlib.Data.List.DropRight
import Telemetry.Text.Measure

/-!
Elided texts.

A text beyond the limit keeps a part of its beginning and a part of its end, which do not overlap,
and three dots take the place of what was between them. The result has as many characters as the
limit allows. A limit below three leaves the dots alone; these are beyond the limit again, but
eliding them gives them back.
-/

namespace Telemetry.Text

variable {limit : ℕ} {s : String}

theorem elideMiddle_of_le (h : s.length ≤ limit) : elideMiddle limit s = s := by
  rw [← String.length_toList] at h
  exact if_pos h

/-- The half of the kept characters that is rounded up stands at the end. -/
theorem toList_elideMiddle (h : limit < s.length) :
    (elideMiddle limit s).toList =
      s.toList.take ((limit - 3) / 2) ++ ['.', '.', '.'] ++
        s.toList.rtake ((limit - 3 + 1) / 2) := by
  rw [← String.length_toList] at h
  have htail : limit - 3 - (limit - 3) / 2 = (limit - 3 + 1) / 2 := by omega
  have helided : elideMiddle limit s = String.ofList
      (s.toList.take ((limit - 3) / 2) ++ ['.', '.', '.'] ++
        s.toList.drop (s.toList.length - (limit - 3 - (limit - 3) / 2))) :=
    if_neg (Nat.not_le.mpr h)
  rw [helided, String.toList_ofList, htail, List.rtake]

theorem length_elideMiddle (h : limit < s.length) :
    (elideMiddle limit s).length = max limit 3 := by
  have hlength : limit < s.toList.length := by rwa [String.length_toList]
  rw [← String.length_toList, toList_elideMiddle h]
  simp only [List.length_append, List.length_take, List.rtake, List.length_drop, List.length_cons,
    List.length_nil]
  omega

/-- A beginning and an end that are shorter than the whole do not overlap. -/
theorem exists_middle {α : Type} {cs : List α} {head tail : ℕ} (h : head + tail < cs.length) :
    ∃ middle, middle ≠ [] ∧ cs = cs.take head ++ middle ++ cs.rtake tail := by
  refine ⟨(cs.rdrop tail).drop head, ?_, ?_⟩
  · rw [← List.length_pos_iff, List.length_drop, List.rdrop, List.length_take]
    omega
  · have hhead : cs.take head = (cs.rdrop tail).take head := by
      rw [List.rdrop, List.take_take, Nat.min_eq_left (by omega)]
    rw [hhead, List.take_append_drop]
    exact (List.take_append_drop (cs.length - tail) cs).symm

theorem toList_elideMiddle_of_lt_three (h : limit < s.length) (hlimit : limit < 3) :
    (elideMiddle limit s).toList = ['.', '.', '.'] := by
  have hkept : limit - 3 = 0 := by omega
  rw [toList_elideMiddle h, hkept]
  simp [List.rtake]

theorem elideMiddle_elideMiddle (limit : ℕ) (s : String) :
    elideMiddle limit (elideMiddle limit s) = elideMiddle limit s := by
  rcases Nat.lt_or_ge limit s.length with hlong | hshort
  · have hlength := length_elideMiddle hlong
    rcases Nat.lt_or_ge limit 3 with hlimit | hlimit
    · have hagain : limit < (elideMiddle limit s).length := by omega
      rw [← String.toList_inj, toList_elideMiddle_of_lt_three hagain hlimit,
        toList_elideMiddle_of_lt_three hlong hlimit]
    · exact elideMiddle_of_le (by omega)
  · rw [elideMiddle_of_le hshort, elideMiddle_of_le hshort]

/-- **Eliding keeps both ends and the limit.** A text within the limit stays as it is. Any other
has exactly as many characters as the limit, or three, and consists of two ends of the text, apart
from each other, around three dots. To elide it again changes nothing. -/
theorem elideMiddle_keeps_ends (limit : ℕ) (s : String) :
    (s.length ≤ limit → elideMiddle limit s = s) ∧
    (limit < s.length →
      let kept := limit - 3
      let head := s.toList.take (kept / 2)
      let tail := s.toList.rtake ((kept + 1) / 2)
      (elideMiddle limit s).length = max limit 3 ∧
      (elideMiddle limit s).toList = head ++ "...".toList ++ tail ∧
      head.length + tail.length = kept ∧
      ∃ middle, middle ≠ [] ∧ s.toList = head ++ middle ++ tail) ∧
    elideMiddle limit (elideMiddle limit s) = elideMiddle limit s := by
  refine ⟨elideMiddle_of_le, fun hlong => ?_, elideMiddle_elideMiddle limit s⟩
  have hlength : limit < s.toList.length := by rwa [String.length_toList]
  refine ⟨length_elideMiddle hlong, toList_elideMiddle hlong, ?_, exists_middle (by omega)⟩
  rw [List.length_take, List.rtake, List.length_drop]
  omega

/-- An address and its port, and a limit that has no room for the dots. -/
theorem elideMiddle_keeps_ends_address :
    (elideMiddle 10 "192.168.100.200:51515").toList = "192".toList ++ "...".toList ++ "1515".toList ∧
    elideMiddle 21 "192.168.100.200:51515" = "192.168.100.200:51515" ∧
    (elideMiddle 2 "abcdef").length = 3 := by
  obtain ⟨-, hlong, -⟩ := elideMiddle_keeps_ends 10 "192.168.100.200:51515"
  obtain ⟨hshort, -, -⟩ := elideMiddle_keeps_ends 21 "192.168.100.200:51515"
  obtain ⟨-, hdots, -⟩ := elideMiddle_keeps_ends 2 "abcdef"
  exact ⟨(hlong (by decide)).2.1, hshort (by decide), (hdots (by decide)).1⟩

end Telemetry.Text
