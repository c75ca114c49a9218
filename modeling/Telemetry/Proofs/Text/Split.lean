import Telemetry.Text.Split

/-!
The parts of a text between separators.

No part holds a separator, and parts without one that are written with separators
between them are found again.
-/

namespace Telemetry.Text

variable {separator : Char → Bool} {part : List Char} {c : Char}

theorem separator_of_mem_splitOn {cs : List Char} (hpart : part ∈ splitOn separator cs)
    (hc : c ∈ part) : separator c = false := by
  induction cs generalizing part with
  | nil =>
      obtain rfl : part = [] := by simpa [splitOn] using hpart
      cases hc
  | cons d cs ih =>
      rw [splitOn] at hpart
      split at hpart
      · rcases List.mem_cons.mp hpart with rfl | hpart
        · cases hc
        · exact ih hpart hc
      · next hd =>
          split at hpart
          · next first others hsplit =>
              rcases List.mem_cons.mp hpart with rfl | hpart
              · rcases List.mem_cons.mp hc with rfl | hc
                · exact Bool.eq_false_iff.mpr hd
                · exact ih (by simp [hsplit]) hc
              · exact ih (by simp [hsplit, hpart]) hc
          · next hsplit => exact absurd hsplit (splitOn_ne_nil separator cs)

theorem splitOn_of_forall (h : ∀ c ∈ part, separator c = false) :
    splitOn separator part = [part] := by
  induction part with
  | nil => rfl
  | cons c part ih =>
      have hc : separator c = false := h c List.mem_cons_self
      rw [splitOn, hc, ih fun d hd => h d (List.mem_cons_of_mem c hd)]
      rfl

theorem splitOn_append_cons (h : ∀ c ∈ part, separator c = false) (hc : separator c = true)
    (rest : List Char) :
    splitOn separator (part ++ c :: rest) = part :: splitOn separator rest := by
  induction part with
  | nil => rw [List.nil_append, splitOn, if_pos hc]
  | cons d part ih =>
      have hd : separator d = false := h d List.mem_cons_self
      rw [List.cons_append, splitOn, hd, ih fun e he => h e (List.mem_cons_of_mem d he)]
      rfl

/-- Parts with a separator in front of each but the first are found again. -/
theorem splitOn_append_flatMap (hc : separator c = true) (parts : List (List Char))
    (hpart : ∀ d ∈ part, separator d = false)
    (hparts : ∀ part ∈ parts, ∀ d ∈ part, separator d = false) :
    splitOn separator (part ++ parts.flatMap (c :: ·)) = part :: parts := by
  induction parts generalizing part with
  | nil => rw [List.flatMap_nil, List.append_nil, splitOn_of_forall hpart]
  | cons next parts ih =>
      rw [List.flatMap_cons, List.cons_append, splitOn_append_cons hpart hc,
        ih (hparts next List.mem_cons_self) fun p hp => hparts p (List.mem_cons_of_mem next hp)]

end Telemetry.Text
