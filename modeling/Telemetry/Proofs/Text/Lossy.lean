import Telemetry.Text.Utf8

/-!
Damaged bytes in two pieces.

Bytes are read one character at a time, so reading two pieces one behind the other
gives what reading both gives, unless the cut goes through a character. Then the
first piece ends with bytes that could have been the beginning of a character, and
its text with the replacement character.

A byte below `0x80` is a character wherever it stands. No damage before it takes
it in.
-/

namespace Telemetry.Text

variable {b : UInt8} {value : Nat} {ranges : List ByteRange} {bytes rest more : List UInt8}

/-- What has been read of a character, or the character that stands for it. -/
def ofRead (code? : Option Nat) : Char := code?.elim replacement Char.ofNat

theorem decodeLossy_stray (h : leadByte? b = none) :
    decodeLossy (b :: rest) = replacement :: decodeLossy rest := by
  rw [decodeLossy]
  simp only [h]

theorem decodeLossy_lead (h : leadByte? b = some (value, ranges)) :
    decodeLossy (b :: rest) =
      ofRead (readTail value ranges rest).1 :: decodeLossy (readTail value ranges rest).2 := by
  rw [decodeLossy]
  simp only [h]
  split
  · next code rest' hread =>
      rw [hread]
      rfl
  · next rest' hread =>
      rw [hread]
      rfl

/-! ### Two pieces -/

/-- A character that is complete, or damaged before the end, is the same if more bytes follow. -/
theorem readTail_append_right (more : List UInt8)
    (h : (readTail value ranges rest).1.isSome ∨ (readTail value ranges rest).2 ≠ []) :
    readTail value ranges (rest ++ more) =
      ((readTail value ranges rest).1, (readTail value ranges rest).2 ++ more) := by
  induction ranges generalizing value rest with
  | nil => rfl
  | cons range ranges ih =>
      cases rest with
      | nil => simp [readTail] at h
      | cons b rest =>
          rw [readTail] at h
          rw [List.cons_append, readTail, readTail]
          by_cases hb : range.contains b
          · rw [if_pos hb] at h
            rw [if_pos hb, if_pos hb, ih h]
          · rw [if_neg hb, if_neg hb, List.cons_append]

/-- Two pieces are read one behind the other, unless the first ends inside a character. -/
theorem decodeLossy_append (bytes more : List UInt8) :
    decodeLossy (bytes ++ more) = decodeLossy bytes ++ decodeLossy more ∨
      ∃ front, decodeLossy bytes = front ++ [replacement] := by
  induction hlength : bytes.length using Nat.strongRecOn generalizing bytes with
  | _ n ih =>
  subst hlength
  cases bytes with
  | nil =>
      left
      rw [decodeLossy]
      rfl
  | cons b rest =>
  rw [List.cons_append]
  -- the character in front is the same in both readings, and what is left of it is shorter
  have hstep {c : Char} {left : List UInt8} (hleft : left.length ≤ rest.length)
      (hbytes : decodeLossy (b :: rest) = c :: decodeLossy left)
      (hall : decodeLossy (b :: (rest ++ more)) = c :: decodeLossy (left ++ more)) :
      decodeLossy (b :: (rest ++ more)) = decodeLossy (b :: rest) ++ decodeLossy more ∨
        ∃ front, decodeLossy (b :: rest) = front ++ [replacement] := by
    rw [hbytes, hall, List.cons_append]
    obtain hih | ⟨front, hfront⟩ := ih left.length (Nat.lt_succ_of_le hleft) left rfl
    · exact .inl (congrArg _ hih)
    · exact .inr ⟨c :: front, congrArg _ hfront⟩
  cases hlead : leadByte? b with
  | none => exact hstep (Nat.le_refl _) (decodeLossy_stray hlead) (decodeLossy_stray hlead)
  | some lead =>
      obtain ⟨value, ranges⟩ := lead
      by_cases hwhole : (readTail value ranges rest).1.isSome ∨ (readTail value ranges rest).2 ≠ []
      · refine hstep (length_readTail_le value ranges rest) (decodeLossy_lead hlead) ?_
        rw [decodeLossy_lead hlead, readTail_append_right more hwhole]
      · rw [not_or, Option.not_isSome_iff_eq_none, Classical.not_not] at hwhole
        refine .inr ⟨[], ?_⟩
        rw [decodeLossy_lead hlead, hwhole.1, hwhole.2, decodeLossy]
        rfl

/-! ### Bytes that are characters -/

theorem decodeLossy_ascii (hb : b < 0x80) (rest : List UInt8) :
    decodeLossy (b :: rest) = Char.ofNat b.toNat :: decodeLossy rest := by
  have hlead : leadByte? b = some (b.toNat, []) := by rw [leadByte?, if_pos hb]
  exact decodeLossy_lead hlead

theorem least_of_leadByte? (h : leadByte? b = some (value, ranges)) :
    ∀ range ∈ ranges, 0x80 ≤ range.least := by
  unfold leadByte? at h
  repeat' split at h
  all_goals simp only [reduceCtorEq, Option.some.injEq, Prod.mk.injEq] at h
  all_goals
    obtain ⟨-, rfl⟩ := h
    decide

theorem mem_readTail (value : Nat) (hranges : ∀ range ∈ ranges, 0x80 ≤ range.least)
    (hb : b < 0x80) (h : b ∈ rest) : b ∈ (readTail value ranges rest).2 := by
  induction ranges generalizing value rest with
  | nil => exact h
  | cons range ranges ih =>
      obtain ⟨hrange, hranges⟩ := List.forall_mem_cons.1 hranges
      cases rest with
      | nil => exact nomatch h
      | cons b' rest =>
          rw [readTail]
          split
          · next hcontains =>
              have hne : b ≠ b' := by
                rintro rfl
                have hleast : range.least ≤ b := by
                  simp only [ByteRange.contains, Bool.and_eq_true, decide_eq_true_eq] at hcontains
                  exact hcontains.1
                exact absurd (UInt8.le_trans hrange hleast) (UInt8.not_le.2 hb)
              exact ih _ hranges ((List.mem_cons.1 h).resolve_left hne)
          · exact h

theorem mem_decodeLossy (hb : b < 0x80) (h : b ∈ bytes) :
    Char.ofNat b.toNat ∈ decodeLossy bytes := by
  induction hlength : bytes.length using Nat.strongRecOn generalizing bytes with
  | _ n ih =>
  subst hlength
  cases bytes with
  | nil => exact nomatch h
  | cons b' rest =>
      rcases List.mem_cons.1 h with rfl | hrest
      · rw [decodeLossy_ascii hb]
        exact List.mem_cons_self
      · cases hlead : leadByte? b' with
        | none =>
            rw [decodeLossy_stray hlead]
            exact List.mem_cons_of_mem _ (ih rest.length (Nat.lt_succ_self _) hrest rfl)
        | some lead =>
            rw [decodeLossy_lead hlead]
            have hleft := mem_readTail lead.1 (least_of_leadByte? hlead) hb hrest
            have hlength := length_readTail_le lead.1 lead.2 rest
            exact List.mem_cons_of_mem _ (ih _ (Nat.lt_succ_of_le hlength) hleft rfl)

end Telemetry.Text
