import Telemetry.Proofs.Json.Continuation
import Telemetry.Proofs.Json.Records

/-!
Values of a text that goes on.

Every value is at least delimited: what is read of it does not change when a text
goes on that something follows it in. A record is more than that. Its closing
bracket is read, so nothing need follow it; and inside the brackets something
always follows, which is why it is enough for the fields to be delimited.
-/

namespace Telemetry.Json

variable {α β : Type} {s r rest more : List Char} {c : Char}

/-- What is left of a text and its first character is left of the text, if it is short enough. -/
theorem suffix_of_length (h : r <:+ c :: s) (hlength : r.length < s.length + 1) : r <:+ s := by
  rcases List.suffix_cons_iff.1 h with rfl | h
  · exact absurd hlength (by simp)
  · exact h

/-! ### Passing over -/

theorem delimited_skipScalar (c : Char) :
    Delimited fun s r => remainder (skipScalar c s) = some r := by
  by_cases hnull : c = 'n'
  · simp only [skipScalar, if_pos hnull]
    exact (closed_readWord _).delimited
  by_cases htrue : c = 't'
  · simp only [skipScalar, if_neg hnull, if_pos htrue]
    exact (closed_readWord _).delimited
  by_cases hfalse : c = 'f'
  · simp only [skipScalar, if_neg hnull, if_neg htrue, if_pos hfalse]
    exact (closed_readWord _).delimited
  by_cases hquote : c = '"'
  · have heq : (fun s r => remainder (skipScalar c s) = some r) =
        fun s r => remainder (skipString s) = some r := by
      funext s r
      rw [skipScalar, if_neg hnull, if_neg htrue, if_neg hfalse, if_pos hquote,
        remainder_map Rest.val_succ]
    exact heq ▸ closed_skipString.delimited
  by_cases hnumber : c = '-' ∨ c.isDigit
  · intro s r h
    obtain ⟨lt, -⟩ := eq_ok_of_remainder h
    simp only [remainder_skipScalar_numeral hnumber] at h ⊢
    obtain ⟨p, hp, rfl⟩ := Option.map_eq_some_iff.1 h
    obtain ⟨hr, hmore⟩ := delimited_readNumeral .invalidNumber p.1 hp
    refine ⟨suffix_of_length hr lt, fun hne more => ?_⟩
    exact congrArg _ (hmore hne more)
  · intro s r h
    simp only [skipScalar, if_neg hnull, if_neg htrue, if_neg hfalse, if_neg hquote,
      if_neg hnumber] at h
    cases h

theorem closed_skipKey : Closed fun s r => remainder (skipKey s) = some r := by
  intro s r h
  unfold skipKey at h
  split at h
  · cases h
  next c t hs =>
  split at h
  · next hquote =>
      subst hquote
      cases hskip : skipString t with
      | error fault => simp [hskip, bind, Except.bind] at h
      | ok u =>
          simp only [hskip, bind, Except.bind] at h
          split at h
          · cases h
          next c' t' hu =>
          split at h
          · next hcolon =>
              subst hcolon
              obtain rfl : t' = r := Option.some.inj h
              obtain ⟨hsuffix, hmore⟩ := closed_skipString (congrArg remainder hskip)
              refine ⟨(suffix_of_skipBlanks hu).trans (hsuffix.trans (suffix_of_skipBlanks hs)),
                fun more => ?_⟩
              exact remainder_skipKey_string (skipBlanks_append_right hs more) (hmore more)
                (skipBlanks_append_right hu more)
          · cases h
  · cases h

section

variable {next next' : Awaiting} {stack stack' : List Bracket} {s' : List Char} {bound : Nat}

/-- Passing over values leaves a certain part of the text, however its length is bounded. -/
def Passes (next : Awaiting) (stack : List Bracket) (s r : List Char) : Prop :=
  ∀ bound le, remainder (skipFrom bound next stack s le) = some r

theorem Passes.of_leads (h : ∀ bound, Leads bound next stack s next' stack' s')
    (hpasses : Passes next' stack' s' r) : Passes next stack s r := by
  intro bound le
  obtain ⟨le', heq⟩ := h bound le
  rw [heq, hpasses]

/-- One step back from a place behind which the text may go on. -/
theorem delimited_of_leads (hs : s' <:+ s)
    (hleads : s' ≠ [] → ∀ more bound, Leads bound next stack (s ++ more) next' stack' (s' ++ more))
    (h : r <:+ s' ∧ (r ≠ [] → ∀ more, Passes next' stack' (s' ++ more) (r ++ more))) :
    r <:+ s ∧ (r ≠ [] → ∀ more, Passes next stack (s ++ more) (r ++ more)) := by
  refine ⟨h.1.trans hs, fun hne more => ?_⟩
  exact .of_leads (hleads (h.1.ne_nil hne) more) (h.2 hne more)

/-- Wherever passing over values has got to, the steps to come are those of a text that goes on. -/
theorem delimited_skipFrom {le : s.length ≤ bound}
    (h : remainder (skipFrom bound next stack s le) = some r) :
    r <:+ s ∧ (r ≠ [] → ∀ more, Passes next stack (s ++ more) (r ++ more)) := by
  -- along the steps: each looks at characters that are there, or at a scalar, and only a scalar
  -- depends on what follows it
  fun_induction skipFrom bound next stack s le with
  | case1 stack s le hs => cases h
  | case2 stack s le rest hs lt ih =>
      refine delimited_of_leads (suffix_of_skipBlanks hs) (fun _ more bound => ?_) (ih h)
      exact leads_list (skipBlanks_append_right hs more)
  | case3 stack s le rest hs lt hne ih =>
      refine delimited_of_leads (suffix_of_skipBlanks hs) (fun _ more bound => ?_) (ih h)
      exact leads_object (skipBlanks_append_right hs more)
  | case4 stack s le c rest hs lt hlist hobject fault hskip => cases h
  | case5 stack s le c rest hs lt hlist hobject t hskip _ ih =>
      obtain ⟨ht, hmore⟩ := delimited_skipScalar c (congrArg remainder hskip)
      refine delimited_of_leads (ht.trans (suffix_of_skipBlanks hs)) (fun hne more bound => ?_) (ih h)
      exact leads_scalar (skipBlanks_append_right hs more) hlist hobject (hmore hne more)
  | case6 s le stack fault hskip => cases h
  | case7 s le stack t hskip ih =>
      obtain ⟨ht, hmore⟩ := closed_skipKey (congrArg remainder hskip)
      refine delimited_of_leads ht (fun _ more bound => ?_) (ih h)
      exact leads_key (hmore more)
  | case8 stack s le hstack ih =>
      refine delimited_of_leads List.suffix_rfl (fun _ more bound => leads_item fun hhead => ?_) (ih h)
      obtain ⟨tail, htail⟩ := List.head?_eq_some_iff.1 hhead
      exact hstack tail htail
  | case9 s le afterItem =>
      obtain rfl : s = r := Option.some.inj h
      refine ⟨List.suffix_rfl, fun _ more bound le => ?_⟩
      rw [skipFrom, remainder_ok]
  | case10 s le afterItem bracket outer hs => cases h
  | case11 s le afterItem bracket outer c rest hs lt hc ih =>
      obtain ⟨rfl, rfl⟩ := hc
      refine delimited_of_leads (suffix_of_skipBlanks hs) (fun _ more bound => ?_) (ih h)
      exact leads_comma (skipBlanks_append_right hs more)
  | case12 s le afterItem bracket outer rest hs lt hc ih =>
      refine delimited_of_leads (suffix_of_skipBlanks hs) (fun _ more bound => ?_) (ih h)
      exact leads_close (skipBlanks_append_right hs more)
  | case13 s le bracket outer c rest hs lt hcloser hcomma => cases h
  | case14 s le afterItem bracket outer c rest hs lt hcomma hcloser hfirst ih =>
      obtain rfl : afterItem = false := Bool.eq_false_iff.2 hfirst
      refine delimited_of_leads List.suffix_rfl (fun _ more bound => ?_) (ih h)
      exact leads_first (skipBlanks_append_right hs more) hcloser

theorem delimited_skipValue : Delimited fun s r => remainder (skipValue s) = some r :=
  fun _ _ h => (delimited_skipFrom h).imp_right fun hmore hne more => hmore hne more _ _

end

/-! ### Scalars -/

/-- Every value that a reader reads is delimited. -/
def Reader.Delimited (read : Reader α) : Prop :=
  ∀ a, Json.Delimited fun s r => outcome (read s) = some (a, r)

theorem Delimited.map {read : List Char → Option (α × List Char)}
    (h : ∀ a, Delimited fun s r => read s = some (a, r)) (f : α → β) (b : β) :
    Delimited fun s r => (read s).map (fun p => (f p.1, p.2)) = some (b, r) := by
  intro s r hb
  obtain ⟨p, hp, hpair⟩ := Option.map_eq_some_iff.1 hb
  obtain ⟨rfl, rfl⟩ := Prod.mk.inj hpair
  obtain ⟨hr, hmore⟩ := h p.1 hp
  exact ⟨hr, fun hne more => congrArg (Option.map _) (hmore hne more)⟩

/-- What is read from every text alike is delimited alike. -/
theorem Delimited.of_eq {read read' : List Char → Option (α × List Char)} {a : α}
    (heq : ∀ s, read s = read' s) (h : Delimited fun s r => read' s = some (a, r)) :
    Delimited fun s r => read s = some (a, r) := by
  simpa only [heq] using h

theorem Reader.Delimited.map {read : Reader α} (h : read.Delimited) (f : α → β) :
    (read.map f).Delimited := by
  intro b
  simp only [outcome_readerMap]
  exact Json.Delimited.map h f b

theorem exists_of_outcome_withFirst {p : α × List Char}
    {read : (c : Char) → (rest : List Char) → Except Fault (α × Rest (rest.length + 1))}
    (h : outcome (withFirst s read) = some p) :
    ∃ c rest, skipBlanks s = c :: rest ∧ outcome (read c rest) = some p := by
  cases hs : skipBlanks s with
  | nil => exact nomatch (outcome_withFirst_blank hs).symm.trans h
  | cons c rest => exact ⟨c, rest, rfl, (outcome_withFirst hs).symm.trans h⟩

/-- Blanks and a first character go before what is delimited. -/
theorem Delimited.withFirst {a : α}
    {read : (c : Char) → (rest : List Char) → Except Fault (α × Rest (rest.length + 1))}
    (h : ∀ c, Delimited fun s r => outcome (read c s) = some (a, r)) :
    Delimited fun s r => outcome (withFirst s read) = some (a, r) := by
  intro s r hread
  obtain ⟨c, t, hs, hread⟩ := exists_of_outcome_withFirst hread
  obtain ⟨hr, hmore⟩ := h c hread
  refine ⟨hr.trans (suffix_of_skipBlanks hs), fun hne more => ?_⟩
  exact (outcome_withFirst (skipBlanks_append_right hs more)).trans (hmore hne more)

theorem delimited_text (wanted : String) : (Reader.text wanted).Delimited := by
  refine fun a => Json.Delimited.withFirst fun c => ?_
  by_cases hquote : c = '"'
  · have hread := Json.Delimited.map (fun cs => (closed_readString cs).delimited) String.ofList a
    refine hread.of_eq fun s => ?_
    rw [if_pos hquote]
    exact outcome_map fun _ _ => ⟨rfl, rfl⟩
  · simp only [if_neg hquote]
    intro s r h
    cases h

section

variable {wanted : String} {ofInteger : Int → Except Cause α} {ofReal : Binary64 → Except Cause α}

theorem first_of_outcome_number {p : α × List Char}
    (h : outcome (Reader.number wanted ofInteger ofReal s) = some p) :
    ∃ c rest, skipBlanks s = c :: rest ∧ (c = '-' ∨ c.isDigit) := by
  obtain ⟨c, t, hs, hread⟩ := exists_of_outcome_withFirst h
  refine ⟨c, t, hs, Decidable.byContradiction fun hc => ?_⟩
  rw [if_neg hc] at hread
  exact nomatch hread

theorem delimited_number : (Reader.number wanted ofInteger ofReal).Delimited := by
  intro a s r h
  obtain ⟨c, t, hs, hc⟩ := first_of_outcome_number h
  rw [outcome_number hs hc] at h
  obtain ⟨p, hp, hvalue⟩ := Option.bind_eq_some_iff.1 h
  obtain ⟨b, hb, hpair⟩ := Option.map_eq_some_iff.1 hvalue
  obtain ⟨rfl, rfl⟩ := Prod.mk.inj hpair
  obtain ⟨hr, hmore⟩ := delimited_readNumber p.1 hp
  refine ⟨hr.trans (hs ▸ List.dropWhile_suffix isBlank), fun hne more => ?_⟩
  show outcome (Reader.number wanted ofInteger ofReal (s ++ more)) = _
  have hread : outcome (readNumber (c :: (t ++ more))) = some (p.1, p.2 ++ more) := hmore hne more
  rw [outcome_number (skipBlanks_append_right hs more) hc, hread, Option.bind_some, hb,
    Option.map_some]

end

theorem delimited_real : Reader.real.Delimited := delimited_number

theorem delimited_integer (range : IntegerRange) : (Reader.integer range).Delimited :=
  delimited_number

theorem delimited_unsigned64 (name : String) : (Reader.unsigned64 name).Delimited :=
  (delimited_integer _).map _

theorem delimited_unsigned32 : Reader.unsigned32.Delimited := (delimited_integer _).map _

theorem delimited_signed64 : Reader.signed64.Delimited := (delimited_integer _).map _

section

variable {read : Reader α}

/-- The reader must not make a value of blanks, which might turn out to stand before a `null`. -/
theorem Reader.Delimited.optional (h : read.Delimited)
    (hblank : ∀ s, skipBlanks s = [] → outcome (read s) = none) :
    (Reader.optional read).Delimited := by
  intro a? s r hread
  cases hs : skipBlanks s with
  | nil => simp [outcome_optional_blank hs, hblank s hs] at hread
  | cons c t =>
      by_cases hc : c = 'n'
      · subst hc
        rw [outcome_optional_null hs] at hread
        obtain ⟨u, hu, hpair⟩ := Option.map_eq_some_iff.1 hread
        obtain ⟨rfl, rfl⟩ := Prod.mk.inj hpair
        obtain ⟨hr, hmore⟩ := closed_readWord _ hu
        refine ⟨hr.trans (suffix_of_skipBlanks hs), fun _ more => ?_⟩
        show outcome (Reader.optional read (s ++ more)) = _
        rw [outcome_optional_null (skipBlanks_append_right hs more), hmore more, Option.map_some]
      · rw [outcome_optional_value hs hc] at hread
        obtain ⟨hr, hmore⟩ := Json.Delimited.map h some a? hread
        refine ⟨hr, fun hne more => ?_⟩
        exact (outcome_optional_value (skipBlanks_append_right hs more) hc).trans (hmore hne more)

end

/-! ### Arrays -/

section

variable {first : Bool} {start : List Char}

/-- What may come next in an array: its bracket, or an item behind a comma unless it is the
first. -/
theorem nextItem_cases {next : NextItem s.length} (h : nextItem first s = .ok next) :
    (∃ t lt, skipBlanks s = ']' :: t ∧ next = .closing t lt) ∨
    ∃ c t le, c ≠ ']' ∧ next = .item (c :: t) le ∧
      (first = true ∧ skipBlanks s = c :: t ∨
        first = false ∧ ∃ u, skipBlanks s = ',' :: u ∧ skipBlanks u = c :: t) := by
  unfold nextItem at h
  split at h
  · cases h
  next c t hs =>
  split at h
  · next hc => exact .inl ⟨t, length_lt_of_skipBlanks hs, hc ▸ hs, (Except.ok.inj h).symm⟩
  next hc =>
  cases first with
  | true => exact .inr ⟨c, t, length_lt_of_skipBlanks hs, hc, (Except.ok.inj h).symm, .inl ⟨rfl, hs⟩⟩
  | false =>
      rw [if_neg Bool.false_ne_true] at h
      split at h
      · next hcomma =>
          split at h
          · cases h
          next c' t' ht =>
          split at h
          · cases h
          next hc' =>
          exact .inr ⟨c', t', _, hc', (Except.ok.inj h).symm, .inr ⟨rfl, t, hcomma ▸ hs, ht⟩⟩
      · cases h

theorem nextItem_closing_append_right {lt : rest.length < s.length}
    (h : nextItem first s = .ok (.closing rest lt)) :
    ']' :: rest <:+ s ∧
      ∀ more, ∃ lt, nextItem first (s ++ more) = .ok (.closing (rest ++ more) lt) := by
  obtain ⟨t, lt, hs, hnext⟩ | ⟨c, t, le, -, hnext, -⟩ := nextItem_cases h
  · obtain ⟨rfl⟩ := NextItem.closing.inj hnext
    refine ⟨hs ▸ List.dropWhile_suffix isBlank, fun more => ?_⟩
    exact ⟨_, nextItem_bracket (skipBlanks_append_right hs more)⟩
  · exact nomatch hnext

/-- An item is still the next one when the text goes on, and starts at the same character. -/
theorem nextItem_item_append_right {le : start.length ≤ s.length}
    (h : nextItem first s = .ok (.item start le)) :
    start <:+ s ∧ ∀ more, ∃ le, nextItem first (s ++ more) = .ok (.item (start ++ more) le) := by
  obtain ⟨t, lt, -, hnext⟩ | ⟨c, t, le, hc, hnext, ⟨rfl, hs⟩ | ⟨rfl, u, hs, hu⟩⟩ := nextItem_cases h
  · exact nomatch hnext
  · obtain rfl : start = c :: t := NextItem.item.inj hnext
    refine ⟨hs ▸ List.dropWhile_suffix isBlank, fun more => ?_⟩
    exact ⟨_, nextItem_first (skipBlanks_append_right hs more) hc⟩
  · obtain rfl : start = c :: t := NextItem.item.inj hnext
    have hsuffix : c :: t <:+ u := hu ▸ List.dropWhile_suffix isBlank
    refine ⟨hsuffix.trans (suffix_of_skipBlanks hs), fun more => ?_⟩
    exact ⟨_, nextItem_comma (skipBlanks_append_right hs more) (skipBlanks_append_right hu more) hc⟩

variable {read : Reader α}

theorem exists_of_outcome_readItems {p : List α × List Char}
    (h : outcome (readItems read first s) = some p) : ∃ item, nextItem first s = .ok item := by
  cases hnext : nextItem first s with
  | error fault =>
      rw [readItems, hnext] at h
      cases h
  | ok item => exact ⟨item, rfl⟩

/-- The items of an array end at its bracket, whatever follows. -/
theorem closed_readItems (hread : read.Delimited) (as : List α) :
    Closed fun s r => outcome (readItems read first s) = some (as, r) := by
  intro s r h
  induction hlength : s.length using Nat.strongRecOn generalizing first s as with
  | _ n ih =>
  subst hlength
  obtain ⟨item, hnext⟩ := exists_of_outcome_readItems h
  cases item with
  | closing rest lt =>
      rw [outcome_readItems_closing hnext] at h
      obtain ⟨rfl, rfl⟩ := Prod.mk.inj (Option.some.inj h)
      obtain ⟨hrest, hmore⟩ := nextItem_closing_append_right hnext
      refine ⟨(List.suffix_cons _ rest).trans hrest, fun more => ?_⟩
      obtain ⟨lt', hnext'⟩ := hmore more
      exact outcome_readItems_closing hnext'
  | item start le =>
      rw [outcome_readItems_item hnext] at h
      obtain ⟨p, hp, h⟩ := Option.bind_eq_some_iff.1 h
      obtain ⟨q, hq, hpair⟩ := Option.map_eq_some_iff.1 h
      obtain ⟨rfl, rfl⟩ := Prod.mk.inj hpair
      obtain ⟨lt, -⟩ := eq_ok_of_outcome hp
      obtain ⟨hstart, hmore⟩ := nextItem_item_append_right hnext
      obtain ⟨ht, hmore'⟩ := hread p.1 hp
      obtain ⟨hr, hmore''⟩ := ih p.2.length (Nat.lt_of_lt_of_le lt le) q.1 hq rfl
      -- the items go on behind this one, so something follows it
      have hne : p.2 ≠ [] := by
        intro hnil
        rw [hnil] at hq
        obtain ⟨item, hitem⟩ := exists_of_outcome_readItems hq
        exact nomatch hitem
      refine ⟨hr.trans (ht.trans hstart), fun more => ?_⟩
      obtain ⟨le', hnext'⟩ := hmore more
      show outcome (readItems read first (s ++ more)) = _
      rw [outcome_readItems_item hnext', hmore' hne more, Option.bind_some, hmore'' more]
      rfl

theorem Reader.Delimited.list (hread : read.Delimited) : (Reader.list read).Delimited := by
  refine fun as => Json.Delimited.withFirst fun c => ?_
  by_cases hbracket : c = '['
  · have hitems : Json.Delimited fun s r => outcome (readItems read true s) = some (as, r) :=
      (closed_readItems hread as).delimited
    refine hitems.of_eq fun s => ?_
    rw [if_pos hbracket]
    exact outcome_map_rest fun _ _ => ⟨rfl, rfl⟩
  · simp only [if_neg hbracket]
    intro s r h
    cases h

end

end Telemetry.Json
