import Telemetry.Proofs.Json.Delimited

/-!
Records of a text that goes on.

A record starts and ends with a bracket. Its closing bracket is the last character
that is read of it, so the record is the same whatever follows. Between the
brackets each field stands before another character, a comma or the closing
bracket, and is therefore the same too, even if it is a number.
-/

namespace Telemetry.Json

variable {α β : Type} {s r : List Char} {first : Bool} {key : String} {f : Field}
  {fields : List Field}

/-- What is left is left behind a closing bracket, and more of it if the text goes on. -/
def Bracketed (Leaves : List Char → List Char → Prop) : Prop :=
  ∀ ⦃s r⦄, Leaves s r →
    (∃ b, (b = ']' ∨ b = '}') ∧ b :: r <:+ s) ∧ ∀ more, Leaves (s ++ more) (r ++ more)

/-- Every value that a reader reads is bracketed. -/
def Reader.Bracketed (read : Reader α) : Prop :=
  ∀ a, Json.Bracketed fun s r => outcome (read s) = some (a, r)

theorem Reader.Bracketed.delimited {read : Reader α} (h : read.Bracketed) : read.Delimited := by
  intro a s r hread
  obtain ⟨⟨b, -, hr⟩, hmore⟩ := h a hread
  exact ⟨(List.suffix_cons b r).trans hr, fun _ => hmore⟩

theorem Reader.Bracketed.map {read : Reader α} (h : read.Bracketed) (g : α → β) :
    (read.map g).Bracketed := by
  intro b s r hread
  simp only [outcome_readerMap] at hread ⊢
  obtain ⟨p, hp, hpair⟩ := Option.map_eq_some_iff.1 hread
  obtain ⟨rfl, rfl⟩ := Prod.mk.inj hpair
  obtain ⟨hr, hmore⟩ := h p.1 hp
  exact ⟨hr, fun more => congrArg (Option.map _) (hmore more)⟩

/-! ### Members -/

theorem closed_readColon : Closed fun s r => remainder (readColon s) = some r := by
  intro s r h
  unfold readColon at h
  split at h
  · cases h
  next c t hs =>
  split at h
  · next hc =>
      subst hc
      obtain rfl : t = r := Option.some.inj h
      refine ⟨suffix_of_skipBlanks hs, fun more => ?_⟩
      exact remainder_readColon_colon (skipBlanks_append_right hs more)
  · cases h

/-- What may come next in an object: its brace, or a key behind a comma unless it is the first. -/
theorem nextMember_cases {next : NextMember s.length} (h : nextMember first s = .ok next) :
    (∃ t lt, skipBlanks s = '}' :: t ∧ next = .closing ⟨t, lt⟩) ∨
    ∃ t cs m lt, outcome (readString t) = some (cs, m) ∧
      next = .member (String.ofList cs) ⟨m, lt⟩ ∧
      (first = true ∧ skipBlanks s = '"' :: t ∨
        first = false ∧ ∃ u, skipBlanks s = ',' :: u ∧ skipBlanks u = '"' :: t) := by
  have hkey {t : List Char} {le : t.length ≤ s.length} (h : nextMember.key s t le = .ok next) :
      ∃ cs m lt, outcome (readString t) = some (cs, m) ∧
        next = .member (String.ofList cs) ⟨m, lt⟩ := by
    rw [nextMember.key] at h
    cases hread : readString t with
    | error fault =>
        rw [hread] at h
        cases h
    | ok p =>
        rw [hread] at h
        exact ⟨p.1, p.2.1, _, rfl, (Except.ok.inj h).symm⟩
  unfold nextMember at h
  split at h
  · cases h
  next c t hs =>
  split at h
  · next hc => exact .inl ⟨t, length_lt_of_skipBlanks hs, hc ▸ hs, (Except.ok.inj h).symm⟩
  cases first with
  | true =>
      rw [if_pos rfl] at h
      split at h
      · next hquote =>
          obtain ⟨cs, m, lt, hread, hnext⟩ := hkey h
          exact .inr ⟨t, cs, m, lt, hread, hnext, .inl ⟨rfl, hquote ▸ hs⟩⟩
      · cases h
  | false =>
      rw [if_neg Bool.false_ne_true] at h
      split at h
      · next hcomma =>
          split at h
          · cases h
          next c' t' ht =>
          split at h
          · next hquote =>
              obtain ⟨cs, m, lt, hread, hnext⟩ := hkey h
              exact .inr ⟨t', cs, m, lt, hread, hnext, .inr ⟨rfl, t, hcomma ▸ hs, hquote ▸ ht⟩⟩
          · split at h <;> cases h
      · cases h

theorem nextMember_closing_append_right {t : Rest s.length}
    (h : nextMember first s = .ok (.closing t)) :
    '}' :: t.1 <:+ s ∧
      ∀ more, ∃ lt, nextMember first (s ++ more) = .ok (.closing ⟨t.1 ++ more, lt⟩) := by
  obtain ⟨t, lt, hs, hnext⟩ | ⟨-, cs, m, lt, -, hnext, -⟩ := nextMember_cases h
  · obtain rfl := NextMember.closing.inj hnext
    refine ⟨hs ▸ List.dropWhile_suffix isBlank, fun more => ?_⟩
    exact ⟨_, nextMember_brace (skipBlanks_append_right hs more)⟩
  · exact nomatch hnext

theorem nextMember_member_append_right {t : Rest s.length}
    (h : nextMember first s = .ok (.member key t)) :
    t.1 <:+ s ∧
      ∀ more, ∃ lt, nextMember first (s ++ more) = .ok (.member key ⟨t.1 ++ more, lt⟩) := by
  obtain ⟨u, lt, -, hnext⟩ | ⟨u, cs, m, lt, hread, hnext, hs⟩ := nextMember_cases h
  · exact nomatch hnext
  obtain ⟨rfl, rfl⟩ := NextMember.member.inj hnext
  obtain ⟨hm, hmore⟩ := closed_readString cs hread
  rcases hs with ⟨rfl, hs⟩ | ⟨rfl, v, hs, hv⟩
  · refine ⟨hm.trans (suffix_of_skipBlanks hs), fun more => ?_⟩
    exact nextMember_first (skipBlanks_append_right hs more) (hmore more)
  · have hsuffix := (suffix_of_skipBlanks hv).trans (suffix_of_skipBlanks hs)
    refine ⟨hm.trans hsuffix, fun more => ?_⟩
    exact nextMember_comma (skipBlanks_append_right hs more) (skipBlanks_append_right hv more)
      (hmore more)

/-- The value of a member is delimited, whether it belongs to a field or is passed over. -/
theorem delimited_readMember (hfields : ∀ f ∈ fields, f.read.Delimited)
    (draft draft' : Draft fields) :
    Delimited fun s r => outcome (draft.readMember key s) = some (draft', r) := by
  induction fields with
  | nil =>
      obtain ⟨⟩ := draft
      intro s r h
      cases hcolon : readColon s with
      | error fault =>
          rw [Draft.readMember, hcolon] at h
          cases h
      | ok t =>
          rw [outcome_readMember_nil hcolon] at h
          obtain ⟨m, hm, hpair⟩ := Option.map_eq_some_iff.1 h
          obtain rfl : m = r := (Prod.mk.inj hpair).2
          obtain ⟨ht, hmore⟩ := closed_readColon (congrArg remainder hcolon)
          obtain ⟨hr, hmore'⟩ := delimited_skipValue hm
          refine ⟨hr.trans ht, fun hne more => ?_⟩
          obtain ⟨lt, hcolon'⟩ := eq_ok_of_remainder (hmore more)
          exact (outcome_readMember_nil hcolon').trans (congrArg (Option.map _) (hmore' hne more))
  | cons f fs ih =>
      obtain ⟨hf, hfs⟩ := List.forall_mem_cons.1 hfields
      obtain ⟨value?, draft⟩ := draft
      by_cases hkey : f.name = key
      · intro s r h
        cases value? with
        | some a => cases (outcome_readMember_again draft hkey a).symm.trans h
        | none =>
            cases hcolon : readColon s with
            | error fault =>
                rw [Draft.readMember, if_pos hkey, hcolon] at h
                cases h
            | ok t =>
                have hread := (outcome_readMember_here draft hkey hcolon).symm.trans h
                obtain ⟨ht, hmore⟩ := closed_readColon (congrArg remainder hcolon)
                obtain ⟨hr, hmore'⟩ :=
                  Delimited.map hf (fun a => Draft.cons (some a) draft) draft' hread
                refine ⟨hr.trans ht, fun hne more => ?_⟩
                obtain ⟨lt, hcolon'⟩ := eq_ok_of_remainder (hmore more)
                exact (outcome_readMember_here draft hkey hcolon').trans (hmore' hne more)
      · have heq (s : List Char) := outcome_readMember_next (s := s) draft hkey value?
        simp only [Draft.cons] at heq
        simp only [heq]
        exact .map (fun d => ih hfs draft d) (Draft.cons value?) draft'

theorem exists_of_outcome_readMembers {draft : Draft fields} {p : Row fields × List Char}
    (h : outcome (readMembers fields draft first s) = some p) :
    ∃ next, nextMember first s = .ok next := by
  cases hnext : nextMember first s with
  | error fault =>
      rw [readMembers, hnext] at h
      cases h
  | ok next => exact ⟨next, rfl⟩

/-- The members of an object end at its brace, whatever follows. -/
theorem bracketed_readMembers (hfields : ∀ f ∈ fields, f.read.Delimited) (draft : Draft fields)
    (row : Row fields) :
    Bracketed fun s r => outcome (readMembers fields draft first s) = some (row, r) := by
  intro s r h
  induction hlength : s.length using Nat.strongRecOn generalizing first draft s with
  | _ n ih =>
  subst hlength
  obtain ⟨next, hnext⟩ := exists_of_outcome_readMembers h
  cases next with
  | closing t =>
      rw [outcome_readMembers_closing hnext] at h
      obtain ⟨row, hrow, hpair⟩ := Option.map_eq_some_iff.1 h
      obtain ⟨rfl, rfl⟩ := Prod.mk.inj hpair
      obtain ⟨ht, hmore⟩ := nextMember_closing_append_right hnext
      refine ⟨⟨'}', .inr rfl, ht⟩, fun more => ?_⟩
      obtain ⟨lt, hnext'⟩ := hmore more
      show outcome (readMembers fields draft first (s ++ more)) = _
      rw [outcome_readMembers_closing hnext', hrow]
      rfl
  | member key t =>
      rw [outcome_readMembers_member hnext] at h
      obtain ⟨p, hp, hrest⟩ := Option.bind_eq_some_iff.1 h
      obtain ⟨lt, -⟩ := eq_ok_of_outcome hp
      obtain ⟨ht, hmore⟩ := nextMember_member_append_right hnext
      obtain ⟨hp', hmore'⟩ := delimited_readMember hfields draft p.1 hp
      obtain ⟨⟨b, hb, hr⟩, hmore''⟩ := ih p.2.length (Nat.lt_trans lt t.2) p.1 hrest rfl
      -- the members go on behind this one, so something follows its value
      have hne : p.2 ≠ [] := by
        intro hnil
        rw [hnil] at hrest
        obtain ⟨next, hnext⟩ := exists_of_outcome_readMembers hrest
        exact nomatch hnext
      refine ⟨⟨b, hb, hr.trans (hp'.trans ht)⟩, fun more => ?_⟩
      obtain ⟨lt', hnext'⟩ := hmore more
      show outcome (readMembers fields draft first (s ++ more)) = _
      rw [outcome_readMembers_member hnext', hmore' hne more, Option.bind_some, hmore'' more]

/-! ### Columns -/

theorem bracketed_closeColumns : Bracketed fun s r => remainder (closeColumns s) = some r := by
  intro s r h
  unfold closeColumns at h
  split at h
  · cases h
  next c t hs =>
  split at h
  · next hc =>
      subst hc
      obtain rfl : t = r := Option.some.inj h
      refine ⟨⟨']', .inl rfl, hs ▸ List.dropWhile_suffix isBlank⟩, fun more => ?_⟩
      exact remainder_closeColumns_bracket (skipBlanks_append_right hs more)
  · split at h
    · split at h <;> cases h
    · cases h

theorem delimited_readColumns (hfields : ∀ f ∈ fields, f.read.Delimited) (record : String)
    (total index : Nat) (row : Row fields) :
    Delimited fun s r => outcome (readColumns record total index s fields) = some (row, r) := by
  induction fields generalizing index with
  | nil =>
      intro s r h
      obtain rfl : s = r := (Prod.mk.inj (Option.some.inj h)).2
      exact ⟨List.suffix_rfl, fun _ more => rfl⟩
  | cons f fs ih =>
      obtain ⟨hf, hfs⟩ := List.forall_mem_cons.1 hfields
      intro s r h
      cases hnext : nextItem (index = 0) s with
      | error fault =>
          rw [readColumns, hnext] at h
          cases h
      | ok item =>
      cases item with
      | closing rest lt =>
          rw [outcome_readColumns_closing record total f fs hnext] at h
          obtain ⟨a, ha, h⟩ := Option.bind_eq_some_iff.1 h
          obtain ⟨-, hmore⟩ := nextItem_closing_append_right hnext
          obtain ⟨hr, hmore'⟩ := Delimited.map (ih hfs index) (Row.cons a) row h
          refine ⟨hr, fun hne more => ?_⟩
          obtain ⟨lt', hnext'⟩ := hmore more
          show outcome (readColumns record total index (s ++ more) (f :: fs)) = _
          rw [outcome_readColumns_closing record total f fs hnext', ha, Option.bind_some]
          exact hmore' hne more
      | item start le =>
          rw [outcome_readColumns_item record total f fs hnext] at h
          obtain ⟨p, hp, h⟩ := Option.bind_eq_some_iff.1 h
          obtain ⟨hstart, hmore⟩ := nextItem_item_append_right hnext
          obtain ⟨ht, hmore'⟩ := hf p.1 hp
          obtain ⟨hr, hmore''⟩ := Delimited.map (ih hfs (index + 1)) (Row.cons p.1) row h
          refine ⟨hr.trans (ht.trans hstart), fun hne more => ?_⟩
          obtain ⟨le', hnext'⟩ := hmore more
          show outcome (readColumns record total index (s ++ more) (f :: fs)) = _
          rw [outcome_readColumns_item record total f fs hnext', hmore' (hr.ne_nil hne) more,
            Option.bind_some]
          exact hmore'' hne more

/-! ### Records -/

/-- **A record of delimited fields ends at its closing bracket.** -/
theorem bracketed_record (hfields : ∀ f ∈ fields, f.read.Delimited) (name : String) :
    (Reader.record name fields).Bracketed := by
  intro row s r h
  obtain ⟨c, t, hs, -⟩ := exists_of_outcome_withFirst h
  by_cases hlist : c = '['
  · subst hlist
    rw [outcome_record_list hs] at h
    obtain ⟨p, hp, h⟩ := Option.bind_eq_some_iff.1 h
    obtain ⟨m, hm, hpair⟩ := Option.map_eq_some_iff.1 h
    obtain ⟨rfl, rfl⟩ := Prod.mk.inj hpair
    obtain ⟨hp', hmore⟩ := delimited_readColumns hfields name fields.length 0 p.1 hp
    obtain ⟨⟨b, hb, hr⟩, hmore'⟩ := bracketed_closeColumns hm
    have hne : p.2 ≠ [] := by
      intro hnil
      rw [hnil] at hm
      exact nomatch hm
    refine ⟨⟨b, hb, hr.trans (hp'.trans (suffix_of_skipBlanks hs))⟩, fun more => ?_⟩
    show outcome (Reader.record name fields (s ++ more)) = _
    rw [outcome_record_list (skipBlanks_append_right hs more), hmore hne more, Option.bind_some,
      hmore' more, Option.map_some]
  by_cases hobject : c = '{'
  · subst hobject
    rw [outcome_record_object hs] at h
    obtain ⟨⟨b, hb, hr⟩, hmore⟩ := bracketed_readMembers hfields _ row h
    refine ⟨⟨b, hb, hr.trans (suffix_of_skipBlanks hs)⟩, fun more => ?_⟩
    exact (outcome_record_object (skipBlanks_append_right hs more)).trans (hmore more)
  · exact nomatch (outcome_record_other hs hlist hobject).symm.trans h

end Telemetry.Json
