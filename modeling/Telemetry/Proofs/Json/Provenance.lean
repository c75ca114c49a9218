import Telemetry.Proofs.Json.Truncation

/-!
Where the values of a record come from.

A reader gives a value if it reads it off the front of some text. Whatever a reader
gives is given by the readers that it is made of: the items of an array by the
reader of the items, and the value of a field by the reader of the field, unless it
is the default. So a property of every value that a field reader gives is a property
of every record, whatever else stands in the text, readable or not.
-/

namespace Telemetry.Json

variable {α β : Type} {s r : List Char} {first : Bool} {key : String} {fields : List Field}

theorem eq_ok_of_toOption {ε : Type} {x : Except ε α} {a : α} (h : x.toOption = some a) :
    x = .ok a := by
  cases x with
  | error e => exact nomatch h
  | ok b => exact congrArg Except.ok (Option.some.inj h)

/-- A reader reads a value off the front of some text. -/
def Reader.Gives (read : Reader α) (a : α) : Prop := ∃ s r, outcome (read s) = some (a, r)

theorem gives_of_decode {read : Reader α} {text : String} {a : α} (h : decode read text = .ok a) :
    read.Gives a := by
  obtain ⟨r, hread, -⟩ := decode_eq_ok_iff_outcome.1 h
  exact ⟨_, r, hread⟩

theorem gives_map {read : Reader α} {f : α → β} {b : β} (h : (read.map f).Gives b) :
    ∃ a, read.Gives a ∧ f a = b := by
  obtain ⟨s, r, hread⟩ := h
  rw [outcome_readerMap] at hread
  obtain ⟨p, hp, hpair⟩ := Option.map_eq_some_iff.1 hread
  exact ⟨p.1, ⟨s, p.2, hp⟩, (Prod.mk.inj hpair).1⟩

/-! ### Numbers -/

/-- What a number is read as was made of the value of some numeral. -/
theorem gives_number {wanted : String} {ofInteger : Int → Except Cause α}
    {ofReal : Binary64 → Except Cause α} {a : α}
    (h : (Reader.number wanted ofInteger ofReal).Gives a) :
    ∃ (n : Numeral) (v : Number), n.value = .ok v ∧
      (match v with
        | .integer i => ofInteger i
        | .real x => ofReal x) = .ok a := by
  obtain ⟨s, r, hread⟩ := h
  obtain ⟨c, t, hs, hc⟩ := first_of_outcome_number hread
  rw [outcome_number hs hc] at hread
  obtain ⟨p, hp, hvalue⟩ := Option.bind_eq_some_iff.1 hread
  obtain ⟨b, hb, hpair⟩ := Option.map_eq_some_iff.1 hvalue
  obtain ⟨rfl, rfl⟩ := Prod.mk.inj hpair
  rw [outcome_readNumber_eq] at hp
  obtain ⟨q, -, hnumeral⟩ := Option.bind_eq_some_iff.1 hp
  obtain ⟨v, hv, hpair⟩ := Option.map_eq_some_iff.1 hnumeral
  obtain rfl : v = p.1 := congrArg Prod.fst hpair
  exact ⟨q.1, p.1, eq_ok_of_toOption hv, eq_ok_of_toOption hb⟩

/-! ### Arrays -/

theorem gives_of_mem_readItems {read : Reader α} {as : List α}
    (h : outcome (readItems read first s) = some (as, r)) : ∀ a ∈ as, read.Gives a := by
  induction hlength : s.length using Nat.strongRecOn generalizing first as s with
  | _ n ih =>
  subst hlength
  obtain ⟨item, hnext⟩ := exists_of_outcome_readItems h
  cases item with
  | closing rest lt =>
      rw [outcome_readItems_closing hnext] at h
      obtain ⟨rfl, -⟩ := Prod.mk.inj (Option.some.inj h)
      simp
  | item start le =>
      rw [outcome_readItems_item hnext] at h
      obtain ⟨p, hp, h⟩ := Option.bind_eq_some_iff.1 h
      obtain ⟨q, hq, hpair⟩ := Option.map_eq_some_iff.1 h
      obtain ⟨rfl, rfl⟩ := Prod.mk.inj hpair
      obtain ⟨lt, -⟩ := eq_ok_of_outcome hp
      have hrest := ih p.2.length (Nat.lt_of_lt_of_le lt le) hq rfl
      exact List.forall_mem_cons.2 ⟨⟨start, p.2, hp⟩, hrest⟩

theorem gives_of_mem_list {read : Reader α} {as : List α} (h : (Reader.list read).Gives as) :
    ∀ a ∈ as, read.Gives a := by
  obtain ⟨s, r, hread⟩ := h
  obtain ⟨c, t, -, hitems⟩ := exists_of_outcome_withFirst hread
  split at hitems
  · rw [outcome_map_rest fun _ _ => ⟨rfl, rfl⟩] at hitems
    exact gives_of_mem_readItems hitems
  · exact nomatch hitems

/-! ### Fields -/

/-- A value that a field may have: one that its reader gives, or its default. -/
def Field.Gives (f : Field) (a : f.Value) : Prop := f.read.Gives a ∨ f.default? = some a

/-- Every value of a row is one that its field may have. -/
def Row.IsGiven : {fields : List Field} → Row fields → Prop
  | [], _ => True
  | f :: _, (a, row) => f.Gives a ∧ row.IsGiven

/-- Every value of a draft was given by the reader of its field. -/
def Draft.IsGiven : {fields : List Field} → Draft fields → Prop
  | [], _ => True
  | f :: _, (value?, draft) => (∀ a, value? = some a → f.read.Gives a) ∧ draft.IsGiven

theorem Draft.isGiven_empty (fields : List Field) : (Draft.empty fields).IsGiven := by
  induction fields with
  | nil => trivial
  | cons f fs ih => exact ⟨fun a h => (nomatch h), ih⟩

theorem Draft.isGiven_finish {draft : Draft fields} (hdraft : draft.IsGiven) {row : Row fields}
    (h : draft.finish fields = .ok row) : row.IsGiven := by
  induction fields with
  | nil => trivial
  | cons f fs ih =>
      obtain ⟨value?, draft⟩ := draft
      obtain ⟨hvalue, hrest⟩ := hdraft
      rw [finish] at h
      cases hvalue? : value? <|> f.default? with
      | none =>
          rw [hvalue?] at h
          cases h
      | some a =>
          rw [hvalue?] at h
          cases hfinish : draft.finish fs with
          | error cause =>
              rw [hfinish] at h
              cases h
          | ok row' =>
              rw [hfinish] at h
              obtain rfl := Except.ok.inj h
              refine ⟨?_, ih hrest hfinish⟩
              cases value? with
              | none => exact .inr hvalue?
              | some b => exact .inl (hvalue a hvalue?)

/-- One member more adds a value that was read, or none. -/
theorem Draft.isGiven_readMember {draft draft' : Draft fields} (hdraft : draft.IsGiven)
    (h : outcome (draft.readMember key s) = some (draft', r)) : draft'.IsGiven := by
  induction fields with
  | nil => trivial
  | cons f fs ih =>
      obtain ⟨value?, draft⟩ := draft
      obtain ⟨hvalue, hrest⟩ := hdraft
      by_cases hkey : f.name = key
      · cases value? with
        | some a => cases (outcome_readMember_again draft hkey a).symm.trans h
        | none =>
            cases hcolon : readColon s with
            | error fault =>
                rw [Draft.readMember, if_pos hkey, hcolon] at h
                cases h
            | ok t =>
                have hread := (outcome_readMember_here draft hkey hcolon).symm.trans h
                obtain ⟨p, hp, hpair⟩ := Option.map_eq_some_iff.1 hread
                obtain ⟨rfl, rfl⟩ := Prod.mk.inj hpair
                refine ⟨fun a ha => ?_, hrest⟩
                obtain rfl := Option.some.inj ha
                exact ⟨t.1, p.2, hp⟩
      · have hnext := (outcome_readMember_next draft hkey value?).symm.trans h
        obtain ⟨p, hp, hpair⟩ := Option.map_eq_some_iff.1 hnext
        obtain ⟨rfl, rfl⟩ := Prod.mk.inj hpair
        exact ⟨hvalue, ih hrest hp⟩

theorem isGiven_readMembers {draft : Draft fields} (hdraft : draft.IsGiven) {row : Row fields}
    (h : outcome (readMembers fields draft first s) = some (row, r)) : row.IsGiven := by
  induction hlength : s.length using Nat.strongRecOn generalizing first draft s with
  | _ n ih =>
  subst hlength
  obtain ⟨next, hnext⟩ := exists_of_outcome_readMembers h
  cases next with
  | closing t =>
      rw [outcome_readMembers_closing hnext] at h
      obtain ⟨row, hrow, hpair⟩ := Option.map_eq_some_iff.1 h
      obtain ⟨rfl, rfl⟩ := Prod.mk.inj hpair
      exact Draft.isGiven_finish hdraft (eq_ok_of_toOption hrow)
  | member key t =>
      rw [outcome_readMembers_member hnext] at h
      obtain ⟨p, hp, hrest⟩ := Option.bind_eq_some_iff.1 h
      obtain ⟨lt, -⟩ := eq_ok_of_outcome hp
      exact ih p.2.length (Nat.lt_trans lt t.2) (Draft.isGiven_readMember hdraft hp) hrest rfl

theorem isGiven_readColumns {record : String} {total index : Nat} {row : Row fields}
    (h : outcome (readColumns record total index s fields) = some (row, r)) : row.IsGiven := by
  induction fields generalizing index s r with
  | nil => trivial
  | cons f fs ih =>
      cases hnext : nextItem (index = 0) s with
      | error fault =>
          rw [readColumns, hnext] at h
          cases h
      | ok item =>
      cases item with
      | closing rest lt =>
          rw [outcome_readColumns_closing record total f fs hnext] at h
          obtain ⟨a, ha, h⟩ := Option.bind_eq_some_iff.1 h
          obtain ⟨q, hq, hpair⟩ := Option.map_eq_some_iff.1 h
          obtain ⟨rfl, rfl⟩ := Prod.mk.inj hpair
          exact ⟨.inr ha, ih hq⟩
      | item start le =>
          rw [outcome_readColumns_item record total f fs hnext] at h
          obtain ⟨p, hp, h⟩ := Option.bind_eq_some_iff.1 h
          obtain ⟨q, hq, hpair⟩ := Option.map_eq_some_iff.1 h
          obtain ⟨rfl, rfl⟩ := Prod.mk.inj hpair
          exact ⟨.inl ⟨start, p.2, hp⟩, ih hq⟩

/-- **A record holds what its fields give.** Every value of a record was read by the reader of
its field or is the default of the field, whether the record was written as an object or as an
array. -/
theorem isGiven_of_record {name : String} {row : Row fields}
    (h : (Reader.record name fields).Gives row) : row.IsGiven := by
  obtain ⟨s, r, hread⟩ := h
  obtain ⟨c, t, hs, -⟩ := exists_of_outcome_withFirst hread
  by_cases hlist : c = '['
  · subst hlist
    rw [outcome_record_list hs] at hread
    obtain ⟨p, hp, hclose⟩ := Option.bind_eq_some_iff.1 hread
    obtain ⟨m, -, hpair⟩ := Option.map_eq_some_iff.1 hclose
    obtain ⟨rfl, rfl⟩ := Prod.mk.inj hpair
    exact isGiven_readColumns hp
  by_cases hobject : c = '{'
  · subst hobject
    rw [outcome_record_object hs] at hread
    exact isGiven_readMembers (Draft.isGiven_empty fields) hread
  · exact nomatch (outcome_record_other hs hlist hobject).symm.trans hread

/-- The items of an enveloped array are given by their reader. -/
theorem gives_of_mem_envelope {record field : String} {read : Reader α} {items : List α}
    (h : (Reader.envelope record field read).Gives items) : ∀ a ∈ items, read.Gives a := by
  obtain ⟨⟨items, ⟨⟩⟩, hrow, rfl⟩ := gives_map h
  obtain ⟨hlist | hdefault, -⟩ := isGiven_of_record hrow
  · exact gives_of_mem_list hlist
  · obtain rfl := Option.some.inj hdefault
    simp

end Telemetry.Json
