import Telemetry.Json.Record
import Telemetry.Proofs.Json.Values

/-!
Reading records.

A column is a field whose reader follows a function on trees. What a record holds
is then a function of the tree: of an object, each column takes the one member of
its name, or its default where there is none; of an array, the columns take the
items in order, and the columns left over take their defaults.

The reader of objects keeps a draft while the members go by. The invariant is that
the draft together with the members still to come makes the same row as before,
and one member preserves it.
-/

namespace Telemetry.Json

/-- A field and what its reader gives for a tree. -/
structure Column where
  field : Field
  value? : Tree → Option field.Value
  follows : field.read.Follows value?

namespace Column

/-- A column that must occur. -/
def required {α : Type} (name : String) (value? : Tree → Option α) {read : Reader α}
    (follows : read.Follows value?) : Column :=
  ⟨.required name read, value?, follows⟩

/-- A column that may be left out. -/
def withDefault {α : Type} (name : String) (value? : Tree → Option α) {read : Reader α}
    (follows : read.Follows value?) (default : α) : Column :=
  ⟨.withDefault name read default, value?, follows⟩

def name (x : Column) : String := x.field.name

/-- The value of a column, given the trees that stand under its name. -/
def ofOccurrences (x : Column) : List Tree → Option x.field.Value
  | [] => x.field.default?
  | [v] => x.value? v
  | _ => none

end Column

abbrev fieldsOf (xs : List Column) : List Field := xs.map Column.field

/-- The row of one field more. -/
def Row.cons {f : Field} {fs : List Field} (a : f.Value) (row : Row fs) : Row (f :: fs) := (a, row)

/-- The draft of one field more. -/
def Draft.cons {f : Field} {fs : List Field} (value? : Option f.Value) (draft : Draft fs) :
    Draft (f :: fs) :=
  (value?, draft)

/-- The trees that stand under a name, in order. -/
def occurrences (name : String) (ms : List (String × Tree)) : List Tree :=
  (ms.filter (·.1 = name)).map (·.2)

/-- The row that an object holds. -/
def rowOfMembers : (xs : List Column) → List (String × Tree) → Option (Row (fieldsOf xs))
  | [], _ => some ()
  | x :: xs, ms =>
    (x.ofOccurrences (occurrences x.name ms)).bind fun a => (rowOfMembers xs ms).map (Row.cons a)

/-- The row that an array holds. -/
def rowOfItems : (xs : List Column) → List Tree → Option (Row (fieldsOf xs))
  | [], [] => some ()
  | [], _ :: _ => none
  | x :: xs, [] => x.field.default?.bind fun a => (rowOfItems xs []).map (Row.cons a)
  | x :: xs, v :: vs => (x.value? v).bind fun a => (rowOfItems xs vs).map (Row.cons a)

/-- The row that a tree holds. -/
def Tree.row? (xs : List Column) : Tree → Option (Row (fieldsOf xs))
  | .object ms => rowOfMembers xs ms
  | .list vs => rowOfItems xs vs
  | _ => none

variable {s m : List Char} {xs : List Column} {ms : List (String × Tree)} {vs : List Tree}

/-! ### Arrays -/

theorem remainder_closeColumns_bracket {t : List Char} (h : skipBlanks s = ']' :: t) :
    remainder (closeColumns s) = some t := by
  unfold closeColumns
  refine (congrArg remainder (atFirst_eq h _ _)).trans ?_
  rw [if_pos rfl, remainder_ok]

theorem closeColumns_nil {first : Bool} (h : Begins (itemTokens first []) s m) :
    remainder (closeColumns s) = some m := by
  obtain ⟨t, hs, ht⟩ := h.of_mark (by decide)
  obtain rfl := ht.eq_of_nil
  exact remainder_closeColumns_bracket hs

theorem closeColumns_cons {first : Bool} {v : Tree}
    (h : Begins (itemTokens first (v :: vs)) s m) : remainder (closeColumns s) = none := by
  have hfirst : ∃ c t, skipBlanks s = c :: t ∧ c ≠ ']' := by
    cases first with
    | true =>
        obtain ⟨c, t, hs, hc, -⟩ := Begins.of_tree (v := v) h
        exact ⟨c, t, hs, hc.ne_bracket⟩
    | false =>
        obtain ⟨t, hs, -⟩ := Begins.of_mark (by decide) h
        exact ⟨_, t, hs, by decide⟩
  obtain ⟨c, t, hs, hc⟩ := hfirst
  unfold closeColumns
  split
  · rfl
  · next c' r hcons =>
      obtain ⟨rfl, rfl⟩ := List.cons.inj (hcons.symm.trans hs)
      rw [if_neg hc]
      split
      · split <;> rfl
      · rfl

section

variable (record : String) (total : Nat) {index : Nat} (f : Field) (fs : List Field)

theorem outcome_readColumns_closing {rest : List Char} {lt : rest.length < s.length}
    (h : nextItem (index = 0) s = .ok (.closing rest lt)) :
    outcome (readColumns record total index s (f :: fs)) =
      f.default?.bind fun a => (outcome (readColumns record total index s fs)).map
        fun p => (Row.cons a p.1, p.2) := by
  rw [readColumns, h]
  cases f.default? with
  | none => rfl
  | some a =>
      show outcome (readColumns record total index s fs >>= _) = _
      cases readColumns record total index s fs <;> rfl

theorem outcome_readColumns_item {start : List Char} {le : start.length ≤ s.length}
    (h : nextItem (index = 0) s = .ok (.item start le)) :
    outcome (readColumns record total index s (f :: fs)) =
      (outcome (f.read start)).bind fun p =>
        (outcome (readColumns record total (index + 1) p.2 fs)).map
          fun q => (Row.cons p.1 q.1, q.2) := by
  rw [readColumns, h]
  cases hread : f.read start with
  | error fault => simp [hread, bind, Except.bind]
  | ok p =>
      obtain ⟨a, r⟩ := p
      cases hrest : readColumns record total (index + 1) r.1 fs with
      | error fault => simp [hread, hrest, bind, Except.bind]
      | ok q => simp [hread, hrest, bind, Except.bind, pure, Except.pure]; rfl

end

/-- Reading the columns and then the closing bracket, the answer depends on the items alone. -/
theorem outcome_readColumns (xs : List Column) (record : String) (total index : Nat)
    (h : Begins (itemTokens (index = 0) vs) s m) :
    ((outcome (readColumns record total index s (fieldsOf xs))).bind fun p =>
      (remainder (closeColumns p.2)).map fun rest => (p.1, rest)) =
      (rowOfItems xs vs).map fun row => (row, m) := by
  induction xs generalizing index s vs with
  | nil =>
      show (remainder (closeColumns s)).map _ = _
      cases vs with
      | nil =>
          rw [closeColumns_nil h]
          rfl
      | cons v vs =>
          rw [closeColumns_cons h]
          rfl
  | cons x xs ih =>
      cases vs with
      | nil =>
          obtain ⟨lt, hnext⟩ := nextItem_closing h
          show ((outcome (readColumns record total index s (x.field :: fieldsOf xs))).bind fun p =>
            (remainder (closeColumns p.2)).map fun rest => (p.1, rest)) =
              (x.field.default?.bind fun a => (rowOfItems xs []).map (Row.cons a)).map
                fun row => (row, m)
          rw [outcome_readColumns_closing record total x.field (fieldsOf xs) hnext]
          cases x.field.default? with
          | none => rfl
          | some a =>
              have hrest := congrArg (Option.map fun p => (Row.cons a p.1, p.2)) (ih index h)
              simpa [Option.map_bind, Option.bind_map, Function.comp_def] using hrest
      | cons v vs =>
          obtain ⟨start, le, hnext, hstart⟩ := nextItem_item h
          obtain ⟨t, hv, hvs⟩ := hstart.of_append
          show ((outcome (readColumns record total index s (x.field :: fieldsOf xs))).bind fun p =>
            (remainder (closeColumns p.2)).map fun rest => (p.1, rest)) =
              ((x.value? v).bind fun a => (rowOfItems xs vs).map (Row.cons a)).map
                fun row => (row, m)
          rw [outcome_readColumns_item record total x.field (fieldsOf xs) hnext,
            x.follows hv hvs.endsNumber_items]
          cases x.value? v with
          | none => rfl
          | some a =>
              -- only the first item stands without a comma
              have hnot : decide (index + 1 = 0) = false := by simp
              have hrest := congrArg (Option.map fun p => (Row.cons a p.1, p.2))
                (ih (index + 1) (hnot ▸ hvs : Begins (itemTokens (index + 1 = 0) vs) t m))
              simpa [Option.map_bind, Option.bind_map, Function.comp_def] using hrest

/-! ### Drafts -/

/-- The value of a column, given the one already seen and the trees still to come. -/
def Column.settle (x : Column) : Option x.field.Value → List Tree → Option x.field.Value
  | none, vs => x.ofOccurrences vs
  | some a, [] => some a
  | some _, _ :: _ => none

/-- The row that a draft and the members still to come make. -/
def rowOfDraft : (xs : List Column) → Draft (fieldsOf xs) → List (String × Tree) →
    Option (Row (fieldsOf xs))
  | [], (), _ => some ()
  | x :: xs, (value?, draft), ms =>
    (x.settle value? (occurrences x.name ms)).bind fun a =>
      (rowOfDraft xs draft ms).map (Row.cons a)

/-- The draft with the value of one member more. -/
def putMember (key : String) (v : Tree) : (xs : List Column) → Draft (fieldsOf xs) →
    Option (Draft (fieldsOf xs))
  | [], () => some ()
  | x :: xs, (value?, draft) =>
    if x.name = key then
      match value? with
      | some _ => none
      | none => (x.value? v).map fun a => Draft.cons (some a) draft
    else (putMember key v xs draft).map (Draft.cons value?)

theorem rowOfDraft_empty (xs : List Column) (ms : List (String × Tree)) :
    rowOfDraft xs (.empty (fieldsOf xs)) ms = rowOfMembers xs ms := by
  induction xs with
  | nil => rfl
  | cons x xs ih =>
      show (x.settle none _).bind _ = _
      rw [rowOfMembers, ← ih]
      rfl

theorem finish_eq_rowOfDraft (draft : Draft (fieldsOf xs)) :
    draft.finish.toOption = rowOfDraft xs draft [] := by
  induction xs with
  | nil => rfl
  | cons x xs ih =>
      obtain ⟨value?, draft⟩ := draft
      show Except.toOption (Draft.finish (x.field :: fieldsOf xs) (value?, draft)) =
        (x.settle value? []).bind fun a => (rowOfDraft xs draft []).map (Row.cons a)
      have hsettle : x.settle value? [] = (value? <|> x.field.default?) := by
        cases value? <;> rfl
      rw [← ih, hsettle, Draft.finish]
      cases value? <|> x.field.default? with
      | none => rfl
      | some a =>
          show Except.toOption ((Draft.finish (fieldsOf xs) draft).map _) = _
          cases Draft.finish (fieldsOf xs) draft <;> rfl

theorem occurrences_cons_of_ne {name key : String} (h : name ≠ key) (v : Tree)
    (ms : List (String × Tree)) : occurrences name ((key, v) :: ms) = occurrences name ms := by
  simp [occurrences, Ne.symm h]

theorem occurrences_cons_self (key : String) (v : Tree) (ms : List (String × Tree)) :
    occurrences key ((key, v) :: ms) = v :: occurrences key ms := by
  simp [occurrences]

section

variable {key : String} (v : Tree)

theorem rowOfDraft_of_ne (draft : Draft (fieldsOf xs)) (h : ∀ x ∈ xs, x.name ≠ key) :
    rowOfDraft xs draft ((key, v) :: ms) = rowOfDraft xs draft ms := by
  induction xs with
  | nil => rfl
  | cons x xs ih =>
      obtain ⟨value?, draft⟩ := draft
      obtain ⟨hx, hxs⟩ := List.forall_mem_cons.mp h
      show (x.settle value? _).bind _ = (x.settle value? _).bind _
      rw [occurrences_cons_of_ne hx, ih draft hxs]

/-- A column takes the member of its name. -/
theorem settle_cons (x : Column) (value? : Option x.field.Value) (v : Tree) (vs : List Tree) :
    x.settle value? (v :: vs) =
      match value? with
      | some _ => none
      | none => (x.value? v).bind fun a => x.settle (some a) vs := by
  cases value? with
  | some a => rfl
  | none =>
      cases vs with
      | nil =>
          show x.value? v = _
          cases x.value? v <;> rfl
      | cons w vs =>
          show none = _
          cases x.value? v <;> rfl

/-- One member changes the draft but not the row. -/
theorem rowOfDraft_putMember (draft : Draft (fieldsOf xs)) (hnames : (xs.map Column.name).Nodup) :
    ((putMember key v xs draft).bind fun draft => rowOfDraft xs draft ms) =
      rowOfDraft xs draft ((key, v) :: ms) := by
  induction xs with
  | nil => rfl
  | cons x xs ih =>
      obtain ⟨value?, draft⟩ := draft
      rw [List.map_cons, List.nodup_cons] at hnames
      obtain ⟨hx, hxs⟩ := hnames
      show _ = (x.settle value? (occurrences x.name ((key, v) :: ms))).bind fun a =>
        (rowOfDraft xs draft ((key, v) :: ms)).map (Row.cons a)
      by_cases hkey : x.name = key
      · subst hkey
        -- names are distinct, so the columns behind this one do not see the member
        have hrest : ∀ y ∈ xs, y.name ≠ x.name := fun y hy hne =>
          hx (hne ▸ List.mem_map_of_mem hy)
        rw [occurrences_cons_self, settle_cons, rowOfDraft_of_ne v draft hrest]
        show Option.bind (if x.name = x.name then _ else _) _ = _
        rw [if_pos rfl]
        cases value? with
        | some a => rfl
        | none =>
            cases x.value? v with
            | none => rfl
            | some a => rfl
      · rw [occurrences_cons_of_ne hkey, ← ih draft hxs]
        show Option.bind (if x.name = key then _ else _) _ = _
        rw [if_neg hkey]
        cases putMember key v xs draft with
        | none =>
            -- a column further on refuses the member, whatever this one makes of the others
            show none = _
            cases x.settle value? (occurrences x.name ms) <;> rfl
        | some draft => rfl

end

/-! ### Members -/

section

variable {first : Bool} {key : List Char} {t r : List Char}

theorem nextMember_brace (h : skipBlanks s = '}' :: t) :
    nextMember first s = .ok (.closing ⟨t, length_lt_of_skipBlanks h⟩) := by
  unfold nextMember
  refine (atFirst_eq h _ _).trans ?_
  rw [if_pos rfl]

theorem nextMember_key (h : outcome (readString t) = some (key, m)) (le : t.length ≤ s.length) :
    ∃ lt, nextMember.key s t le = .ok (.member (String.ofList key) ⟨m, lt⟩) := by
  obtain ⟨lt, hok⟩ := eq_ok_of_outcome h
  refine ⟨by omega, ?_⟩
  rw [nextMember.key, hok]
  simp [Except.map, Rest.weaken]

theorem nextMember_first (h : skipBlanks s = '"' :: t)
    (hkey : outcome (readString t) = some (key, m)) :
    ∃ lt, nextMember true s = .ok (.member (String.ofList key) ⟨m, lt⟩) := by
  obtain ⟨lt, hok⟩ := nextMember_key hkey (Nat.le_of_lt (length_lt_of_skipBlanks h))
  refine ⟨lt, ?_⟩
  unfold nextMember
  refine (atFirst_eq h _ _).trans ?_
  rw [if_neg (by decide), if_pos rfl, if_pos rfl, hok]

theorem nextMember_comma (h : skipBlanks s = ',' :: r) (hr : skipBlanks r = '"' :: t)
    (hkey : outcome (readString t) = some (key, m)) :
    ∃ lt, nextMember false s = .ok (.member (String.ofList key) ⟨m, lt⟩) := by
  obtain ⟨lt, hok⟩ := nextMember_key hkey (Nat.le_of_lt
    (Nat.lt_trans (length_lt_of_skipBlanks hr) (length_lt_of_skipBlanks h)))
  refine ⟨lt, ?_⟩
  unfold nextMember
  refine (atFirst_eq h _ _).trans ?_
  rw [if_neg (by decide), if_neg (by decide), if_pos rfl]
  refine (atFirst_eq hr _ _).trans ?_
  rw [if_pos rfl, hok]

theorem remainder_readColon_colon (h : skipBlanks s = ':' :: t) :
    remainder (readColon s) = some t := by
  unfold readColon
  refine (congrArg remainder (atFirst_eq h _ _)).trans ?_
  rw [if_pos rfl, remainder_ok]

end

theorem nextMember_closing {first : Bool} (h : Begins (memberTokens first []) s m) :
    ∃ lt, nextMember first s = .ok (.closing ⟨m, lt⟩) := by
  obtain ⟨t, hs, ht⟩ := h.of_mark (by decide)
  obtain rfl := ht.eq_of_nil
  exact ⟨_, nextMember_brace hs⟩

theorem outcome_readString_utf16 {key : String} {spelled : List Char}
    (h : Spelling (utf16 key) spelled) (t : List Char) :
    outcome (readString (spelled ++ '"' :: t)) = some (key.toList, t) := by
  rw [outcome_readString h, decodeUnits_utf16]
  rfl

theorem nextMember_member {first : Bool} {key : String} {more : List Token}
    (h : Begins (comma first ++ .text (utf16 key) :: more) s m) :
    ∃ t lt, nextMember first s = .ok (.member key ⟨t, lt⟩) ∧ Begins more t m := by
  cases first with
  | true =>
      obtain ⟨spelled, t, hspelled, hs, ht⟩ := Begins.of_text h
      obtain ⟨lt, hkey⟩ := nextMember_first hs (outcome_readString_utf16 hspelled t)
      exact ⟨t, lt, by rwa [String.ofList_toList] at hkey, ht⟩
  | false =>
      obtain ⟨r, hs, hr⟩ := Begins.of_mark (by decide) h
      obtain ⟨spelled, t, hspelled, hr', ht⟩ := Begins.of_text hr
      obtain ⟨lt, hkey⟩ := nextMember_comma hs hr' (outcome_readString_utf16 hspelled t)
      exact ⟨t, lt, by rwa [String.ofList_toList] at hkey, ht⟩

theorem readColon_colon {tokens : List Token} (h : Begins (.mark ':' :: tokens) s m) :
    ∃ t lt, readColon s = .ok ⟨t, lt⟩ ∧ Begins tokens t m := by
  obtain ⟨t, hs, ht⟩ := h.of_mark (by decide)
  obtain ⟨lt, hok⟩ := eq_ok_of_remainder (remainder_readColon_colon hs)
  exact ⟨t, lt, hok, ht⟩

section

variable {key : String} {r : Rest s.length} {f : Field} {fs : List Field} (draft : Draft fs)

theorem outcome_readMember_nil (h : readColon s = .ok r) :
    outcome (Draft.readMember key s [] ()) = (remainder (skipValue r.1)).map fun m => ((), m) := by
  rw [Draft.readMember, h]
  show outcome (skipValue r.1 >>= _) = _
  cases skipValue r.1 <;> rfl

theorem outcome_readMember_again (hkey : f.name = key) (a : f.Value) :
    outcome (Draft.readMember key s (f :: fs) (.cons (some a) draft)) = none := by
  rw [Draft.cons, Draft.readMember, if_pos hkey]
  rfl

theorem outcome_readMember_here (hkey : f.name = key) (h : readColon s = .ok r) :
    outcome (Draft.readMember key s (f :: fs) (.cons none draft)) =
      (outcome (f.read r.1)).map fun p => (Draft.cons (some p.1) draft, p.2) := by
  rw [Draft.cons, Draft.readMember, if_pos hkey, h]
  show outcome (f.read r.1 >>= _) = _
  cases f.read r.1 <;> rfl

theorem outcome_readMember_next (hkey : f.name ≠ key) (value? : Option f.Value) :
    outcome (Draft.readMember key s (f :: fs) (.cons value? draft)) =
      (outcome (Draft.readMember key s fs draft)).map fun p => (Draft.cons value? p.1, p.2) := by
  show outcome (if f.name = key then _ else _) = _
  rw [if_neg hkey]
  cases Draft.readMember key s fs draft <;> rfl

end

/-- The value of a member goes where its key says, or is passed over. -/
theorem outcome_readMember (key : String) {v : Tree} (draft : Draft (fieldsOf xs))
    (h : Begins (.mark ':' :: v.tokens) s m) (hm : EndsNumber m) :
    outcome (draft.readMember key s) = (putMember key v xs draft).map fun draft => (draft, m) := by
  obtain ⟨t, lt, hcolon, hv⟩ := readColon_colon h
  induction xs with
  | nil =>
      show outcome (Draft.readMember key s [] ()) = some ((), m)
      rw [outcome_readMember_nil hcolon, remainder_skipValue hv hm]
      rfl
  | cons x xs ih =>
      obtain ⟨value?, draft⟩ := draft
      show outcome (Draft.readMember key s (x.field :: fieldsOf xs) (.cons value? draft)) =
        Option.map _ (if x.name = key then _ else _)
      by_cases hkey : x.name = key
      · rw [if_pos hkey]
        cases value? with
        | some a => exact outcome_readMember_again draft hkey a
        | none =>
            rw [outcome_readMember_here draft hkey hcolon, x.follows hv hm]
            cases x.value? v <;> rfl
      · rw [if_neg hkey, outcome_readMember_next draft hkey, ih draft]
        cases putMember key v xs draft <;> rfl

section

variable {fields : List Field} {draft : Draft fields} {first : Bool}

theorem outcome_readMembers_closing {r : Rest s.length}
    (h : nextMember first s = .ok (.closing r)) :
    outcome (readMembers fields draft first s) =
      (draft.finish fields).toOption.map fun row => (row, r.1) := by
  rw [readMembers, h]
  cases draft.finish <;> rfl

theorem outcome_readMembers_member {key : String} {r : Rest s.length}
    (h : nextMember first s = .ok (.member key r)) :
    outcome (readMembers fields draft first s) =
      (outcome (draft.readMember key r.1)).bind fun p =>
        outcome (readMembers fields p.1 false p.2) := by
  rw [readMembers, h]
  rcases hread : draft.readMember key r.1 with fault | ⟨draft', t⟩
  · simp [hread, bind, Except.bind]
  · simp only [hread, bind, Except.bind, outcome_ok, Option.bind_some]
    cases readMembers fields draft' false t.1 <;> rfl

end

/-- Reading the members, the answer depends on the draft and on the members alone. -/
theorem outcome_readMembers (hnames : (xs.map Column.name).Nodup) (draft : Draft (fieldsOf xs))
    {first : Bool} (h : Begins (memberTokens first ms) s m) :
    outcome (readMembers (fieldsOf xs) draft first s) =
      (rowOfDraft xs draft ms).map fun row => (row, m) := by
  induction ms generalizing first draft s with
  | nil =>
      obtain ⟨lt, hnext⟩ := nextMember_closing h
      rw [outcome_readMembers_closing hnext, finish_eq_rowOfDraft]
  | cons member ms ih =>
      obtain ⟨key, v⟩ := member
      obtain ⟨t, lt, hnext, ht⟩ := nextMember_member h
      rw [← List.cons_append] at ht
      obtain ⟨r, hv, hms⟩ := ht.of_append
      rw [outcome_readMembers_member hnext, outcome_readMember key draft hv hms.endsNumber_members,
        ← rowOfDraft_putMember v draft hnames]
      cases putMember key v xs draft with
      | none => rfl
      | some draft => exact ih draft hms

/-! ### Records -/

section

variable {name : String} {fields : List Field} {t : List Char}

theorem outcome_record_list (h : skipBlanks s = '[' :: t) :
    outcome (Reader.record name fields s) =
      (outcome (readColumns name fields.length 0 t fields)).bind fun p =>
        (remainder (closeColumns p.2)).map fun rest => (p.1, rest) := by
  rw [Reader.record, outcome_withFirst h, if_pos rfl]
  rcases readColumns name fields.length 0 t fields with fault | p
  · rfl
  · show outcome (closeColumns p.2.1 >>= _) = (remainder (closeColumns p.2.1)).map _
    cases closeColumns p.2.1 <;> rfl

theorem outcome_record_object (h : skipBlanks s = '{' :: t) :
    outcome (Reader.record name fields s) =
      outcome (readMembers fields (.empty fields) true t) := by
  rw [Reader.record, outcome_withFirst h, if_neg (by decide), if_pos rfl]
  exact outcome_map_rest fun _ _ => ⟨rfl, rfl⟩

theorem outcome_record_other {c : Char} (h : skipBlanks s = c :: t) (hlist : c ≠ '[')
    (hobject : c ≠ '{') : outcome (Reader.record name fields s) = none := by
  rw [Reader.record, outcome_withFirst h, if_neg hlist, if_neg hobject, outcome_error]

end

/-- A record is read as the row that the tree holds. -/
theorem follows_record (xs : List Column) (name : String) (hnames : (xs.map Column.name).Nodup) :
    (Reader.record name (fieldsOf xs)).Follows (Tree.row? xs) := by
  intro v s m h hm
  obtain ⟨c, t, hs, hc⟩ := h.exists_first
  have hother (hlist : c ≠ '[') (hobject : c ≠ '{') :
      outcome (Reader.record name (fieldsOf xs) s) = none :=
    outcome_record_other hs hlist hobject
  cases v with
  | list items =>
      obtain ⟨t, hs, ht⟩ := h.of_mark (by decide)
      exact (outcome_record_list hs).trans (outcome_readColumns xs name _ 0 ht)
  | object members =>
      obtain ⟨t, hs, ht⟩ := h.of_mark (by decide)
      rw [outcome_record_object hs, outcome_readMembers hnames _ ht, rowOfDraft_empty]
      rfl
  | null =>
      obtain rfl : c = 'n' := hc
      exact hother (by decide) (by decide)
  | boolean b =>
      obtain rfl : c = if b then 't' else 'f' := hc
      exact hother (by cases b <;> decide) (by cases b <;> decide)
  | number n =>
      refine hother ?_ ?_
      · rintro rfl
        exact absurd (show '[' = '-' ∨ '['.isDigit from hc) (by decide)
      · rintro rfl
        exact absurd (show '{' = '-' ∨ '{'.isDigit from hc) (by decide)
  | text units =>
      obtain rfl : c = '"' := hc
      exact hother (by decide) (by decide)

/-! ### Which trees hold a row -/

theorem Column.isSome_ofOccurrences (x : Column) (vs : List Tree) :
    (x.ofOccurrences vs).isSome ↔
      vs.length ≤ 1 ∧ (x.field.default? = none → vs.length = 1) ∧
        ∀ v ∈ vs, (x.value? v).isSome := by
  match vs with
  | [] => cases hdefault : x.field.default? <;> simp [ofOccurrences, hdefault]
  | [v] => simp [ofOccurrences]
  | v :: w :: vs => simp [ofOccurrences]

/-- The trees that hold a row: an object in which every column finds its one value, whatever
other members there are, and an array whose items go with the first columns while the others have
defaults. -/
def Tree.FitsRecord (xs : List Column) : Tree → Prop
  | .object ms => ∀ x ∈ xs,
      (occurrences x.name ms).length ≤ 1 ∧
      (x.field.default? = none → (occurrences x.name ms).length = 1) ∧
      ∀ v ∈ occurrences x.name ms, (x.value? v).isSome
  | .list vs => vs.length ≤ xs.length ∧ (∀ p ∈ xs.zip vs, (p.1.value? p.2).isSome) ∧
      ∀ x ∈ xs.drop vs.length, x.field.default?.isSome
  | _ => False

theorem isSome_rowOfMembers :
    (rowOfMembers xs ms).isSome ↔ (Tree.object ms).FitsRecord xs := by
  simp only [Tree.FitsRecord]
  induction xs with
  | nil => exact iff_of_true rfl (by simp)
  | cons x xs ih =>
      rw [List.forall_mem_cons, ← ih, ← x.isSome_ofOccurrences, rowOfMembers]
      cases x.ofOccurrences (occurrences x.name ms) <;> simp

theorem isSome_rowOfItems : (rowOfItems xs vs).isSome ↔ (Tree.list vs).FitsRecord xs := by
  simp only [Tree.FitsRecord]
  induction xs generalizing vs with
  | nil =>
      cases vs with
      | nil => exact iff_of_true rfl (by simp)
      | cons v vs => simp [rowOfItems]
  | cons x xs ih =>
      cases vs with
      | nil =>
          have hrest := @ih []
          cases hdefault : x.field.default? <;> simp_all [rowOfItems]
      | cons v vs =>
          have hrest := @ih vs
          cases hvalue : x.value? v <;> simp_all [rowOfItems]

theorem Tree.isSome_row? (xs : List Column) (v : Tree) : (v.row? xs).isSome ↔ v.FitsRecord xs := by
  cases v with
  | object ms => exact isSome_rowOfMembers
  | list vs => exact isSome_rowOfItems
  | _ => simp [row?, FitsRecord]

/-! ### Fields that are left out -/

/-- A tree leaves out the field of a name, or of a position if it is an array. -/
def Tree.Omits (v : Tree) (index : Nat) (name : String) : Prop :=
  match v with
  | .object ms => occurrences name ms = []
  | .list vs => vs.length ≤ index
  | _ => True

/-- The fields that are left out have their defaults, from a position on. -/
def Row.KeepsDefaults (Omitted : Nat → String → Prop) :
    (xs : List Column) → Nat → Row (fieldsOf xs) → Prop
  | [], _, _ => True
  | x :: xs, index, (a, row) =>
    (Omitted index x.name → x.field.default? = some a) ∧ KeepsDefaults Omitted xs (index + 1) row

theorem keepsDefaults_rowOfMembers {row : Row (fieldsOf xs)} (index : Nat)
    (h : rowOfMembers xs ms = some row) :
    row.KeepsDefaults (Tree.object ms).Omits xs index := by
  induction xs generalizing index with
  | nil => trivial
  | cons x xs ih =>
      obtain ⟨a, ha, h⟩ := Option.bind_eq_some_iff.1 h
      obtain ⟨row', hrow', rfl⟩ := Option.map_eq_some_iff.1 h
      refine ⟨fun homits => ?_, ih (index + 1) hrow'⟩
      rw [show occurrences x.name ms = [] from homits] at ha
      exact ha

theorem keepsDefaults_rowOfItems {row : Row (fieldsOf xs)} (index total : Nat)
    (htotal : vs ≠ [] → index + vs.length ≤ total) (h : rowOfItems xs vs = some row) :
    row.KeepsDefaults (fun i _ => total ≤ i) xs index := by
  induction xs generalizing index vs with
  | nil => trivial
  | cons x xs ih =>
      cases vs with
      | nil =>
          obtain ⟨a, ha, h⟩ := Option.bind_eq_some_iff.1 h
          obtain ⟨row', hrow', rfl⟩ := Option.map_eq_some_iff.1 h
          exact ⟨fun _ => ha, ih (index + 1) (fun hne => absurd rfl hne) hrow'⟩
      | cons v vs =>
          obtain ⟨a, ha, h⟩ := Option.bind_eq_some_iff.1 h
          obtain ⟨row', hrow', rfl⟩ := Option.map_eq_some_iff.1 h
          have hlength : index + (vs.length + 1) ≤ total := htotal (List.cons_ne_nil v vs)
          refine ⟨fun homits => absurd homits (by omega), ih (index + 1) (fun _ => ?_) hrow'⟩
          omega

theorem keepsDefaults_row? {v : Tree} {row : Row (fieldsOf xs)} (h : v.row? xs = some row) :
    row.KeepsDefaults v.Omits xs 0 := by
  cases v with
  | object ms => exact keepsDefaults_rowOfMembers 0 h
  | list vs => exact keepsDefaults_rowOfItems 0 vs.length (fun _ => by omega) h
  | _ => exact nomatch h

end Telemetry.Json
