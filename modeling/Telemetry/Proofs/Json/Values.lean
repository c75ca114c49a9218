import Telemetry.Proofs.Json.Skipping

/-!
Reading typed values.

A reader follows a function on trees if it reads, off every text of a tree, what
the function gives for the tree, and refuses the text if the function gives
nothing. Each reader follows the function of its type; so what is read depends on
the tree alone.
-/

namespace Telemetry.Json

variable {α β : Type} {v : Tree} {s m : List Char}

/-! ### What a tree stands for -/

def Tree.string? : Tree → Option String
  | .text units => (decodeUnits units).map String.ofList
  | _ => none

def Tree.number? : Tree → Option Number
  | .number n => n.value.toOption
  | _ => none

/-- An integer of a range. -/
def Tree.integer? (least greatest : Int) (v : Tree) : Option Int :=
  v.number?.bind fun
    | .integer i => if least ≤ i ∧ i ≤ greatest then some i else none
    | .real _ => none

def Tree.unsigned64? (v : Tree) : Option UInt64 :=
  (v.integer? 0 (2 ^ 64 - 1)).map fun i => UInt64.ofNat i.toNat

def Tree.unsigned32? (v : Tree) : Option UInt32 :=
  (v.integer? 0 (2 ^ 32 - 1)).map fun i => UInt32.ofNat i.toNat

def Tree.signed64? (v : Tree) : Option Int64 :=
  (v.integer? (-2 ^ 63) (2 ^ 63 - 1)).map Int64.ofInt

def Tree.real? (v : Tree) : Option Binary64 :=
  v.number?.map fun
    | .integer i => .ofInt i
    | .real x => x

/-- A value that may be null. -/
def Tree.optional? (value? : Tree → Option α) : Tree → Option (Option α)
  | .null => some none
  | v => (value? v).map some

/-- An array of any length. -/
def Tree.list? (value? : Tree → Option α) : Tree → Option (List α)
  | .list items => items.mapM value?
  | _ => none

/-! ### Items -/

theorem mapM_eq_some {α β : Type} {f : α → Option β} {l : List α} {bs : List β}
    (h : l.mapM f = some bs) : l.map f = bs.map some := by
  induction l generalizing bs with
  | nil =>
      obtain rfl : [] = bs := Option.some.inj h
      rfl
  | cons a l ih =>
      rw [List.mapM_cons] at h
      cases ha : f a with
      | none => simp [ha] at h
      | some b =>
          cases hl : l.mapM f with
          | none => simp [ha, hl] at h
          | some bs' =>
              obtain rfl : b :: bs' = bs := by simpa [ha, hl] using h
              simp [ha, ih hl]

theorem isSome_mapM {α β : Type} {f : α → Option β} {l : List α} :
    (l.mapM f).isSome ↔ ∀ a ∈ l, (f a).isSome := by
  induction l with
  | nil => exact iff_of_true rfl (by simp)
  | cons a l ih =>
      rw [List.forall_mem_cons, ← ih, List.mapM_cons]
      cases f a <;> cases l.mapM f <;> simp

/-! ### Readers -/

/-- A reader reads off every text of a tree what the tree stands for. -/
def Reader.Follows (read : Reader α) (value? : Tree → Option α) : Prop :=
  ∀ ⦃v : Tree⦄ ⦃s m : List Char⦄, Begins v.tokens s m → EndsNumber m →
    outcome (read s) = (value? v).map fun a => (a, m)

theorem Reader.Follows.map {read : Reader α} {value? : Tree → Option α}
    (h : read.Follows value?) (f : α → β) :
    (read.map f).Follows fun v => (value? v).map f := by
  intro v s m hs hm
  rw [outcome_readerMap, h hs hm, Option.map_map, Option.map_map]
  rfl

/-- A tree whose texts start otherwise is refused. -/
theorem outcome_withFirst_other {P : Char → Prop} [DecidablePred P]
    {read : (c : Char) → (rest : List Char) → Except Fault (α × Rest (rest.length + 1))}
    {fault : Char → List Char → Fault} (h : Begins v.tokens s m)
    (hv : ∀ c, v.StartsWith c → ¬ P c) :
    outcome (withFirst s fun c rest =>
      if P c then read c rest else .error (fault c rest)) = none := by
  obtain ⟨c, t, hs, hc⟩ := h.exists_first
  rw [outcome_withFirst hs, if_neg (hv c hc), outcome_error]

theorem follows_text (wanted : String) : (Reader.text wanted).Follows Tree.string? := by
  intro v s m h hm
  cases v with
  | text units =>
      obtain ⟨spelled, t, hspelled, hs, ht⟩ := h.of_text
      obtain rfl := ht.eq_of_nil
      rw [Reader.text, outcome_withFirst hs, if_pos rfl, outcome_map (g := String.ofList)
        (fun _ _ => ⟨rfl, rfl⟩), outcome_readString hspelled, Tree.string?, Option.map_map,
        Option.map_map]
      rfl
  | boolean b =>
      refine outcome_withFirst_other (P := (· = '"')) h ?_
      cases b <;> simp [Tree.StartsWith]
  | number n =>
      refine outcome_withFirst_other (P := (· = '"')) h ?_
      rintro c hc rfl
      exact absurd (show '"' = '-' ∨ '"'.isDigit from hc) (by decide)
  | _ => exact outcome_withFirst_other (P := (· = '"')) h (by simp [Tree.StartsWith])

/-- What a tree gives through the conversions of its number. -/
def Tree.converted? (ofInteger : Int → Except Cause α) (ofReal : Binary64 → Except Cause α)
    (v : Tree) : Option α :=
  v.number?.bind fun
    | .integer i => (ofInteger i).toOption
    | .real x => (ofReal x).toOption

section

variable {wanted : String} {ofInteger : Int → Except Cause α} {ofReal : Binary64 → Except Cause α}
  {c : Char} {rest : List Char}

/-- A number that starts behind blanks is read, and then converted. -/
theorem outcome_number (hs : skipBlanks s = c :: rest) (hc : c = '-' ∨ c.isDigit) :
    outcome (Reader.number wanted ofInteger ofReal s) =
      (outcome (readNumber (c :: rest))).bind fun p =>
        (match p.1 with
          | .integer i => ofInteger i
          | .real x => ofReal x).toOption.map fun a => (a, p.2) := by
  rw [Reader.number, outcome_withFirst hs, if_pos hc]
  rcases readNumber (c :: rest) with fault | ⟨n, r⟩
  · rfl
  simp only [bind, Except.bind, outcome_ok, Option.bind_some]
  cases n with
  | integer i => cases hi : ofInteger i <;> simp only [hi] <;> rfl
  | real x => cases hx : ofReal x <;> simp only [hx] <;> rfl

end

theorem follows_number (wanted : String) (ofInteger : Int → Except Cause α)
    (ofReal : Binary64 → Except Cause α) :
    (Reader.number wanted ofInteger ofReal).Follows (Tree.converted? ofInteger ofReal) := by
  intro v s m h hm
  have hother (hv : ∀ c, v.StartsWith c → ¬ (c = '-' ∨ c.isDigit)) :
      outcome (Reader.number wanted ofInteger ofReal s) = none :=
    outcome_withFirst_other (P := fun c => c = '-' ∨ c.isDigit) h hv
  cases v with
  | number n =>
      obtain ⟨c, t, r, hc, hn, hs, hr⟩ := h.of_numeral
      obtain rfl := hr.eq_of_nil
      have hread : outcome (readNumber (c :: (t ++ r))) = _ := outcome_readNumber hn hm
      rw [outcome_number hs hc, hread, Tree.converted?, Tree.number?]
      cases n.value.toOption with
      | none => rfl
      | some x => cases x <;> rfl
  | boolean b =>
      refine hother ?_
      cases b <;> simp [Tree.StartsWith]
  | _ => exact hother (by simp [Tree.StartsWith])

theorem follows_integer (range : IntegerRange) :
    (Reader.integer range).Follows (Tree.integer? range.least range.greatest) := by
  intro v s m h hm
  rw [Reader.integer, follows_number _ _ _ h hm]
  congr 1
  unfold Tree.converted? Tree.integer?
  congr 1
  funext n
  cases n with
  | real x => rfl
  | integer i =>
      show Except.toOption (if _ then _ else _) = if _ then _ else _
      split <;> rfl

theorem follows_real : Reader.real.Follows Tree.real? := by
  intro v s m h hm
  rw [Reader.real, follows_number _ _ _ h hm]
  congr 1
  unfold Tree.converted? Tree.real?
  cases v.number? with
  | none => rfl
  | some n => cases n <;> rfl

theorem follows_unsigned64 (name : String) :
    (Reader.unsigned64 name).Follows Tree.unsigned64? :=
  (follows_integer ⟨name, 0, 2 ^ 64 - 1⟩).map _

theorem follows_unsigned32 : Reader.unsigned32.Follows Tree.unsigned32? :=
  (follows_integer ⟨"u32", 0, 2 ^ 32 - 1⟩).map _

theorem follows_signed64 : Reader.signed64.Follows Tree.signed64? :=
  (follows_integer ⟨"i64", -2 ^ 63, 2 ^ 63 - 1⟩).map _

section

variable {read : Reader α} {c : Char} {rest : List Char}

theorem outcome_optional_null (h : skipBlanks s = 'n' :: rest) :
    outcome (Reader.optional read s) =
      (remainder (readWord ['u', 'l', 'l'] rest)).map fun r => (none, r) := by
  unfold Reader.optional
  split
  · next rest' hn =>
      obtain rfl : rest' = rest := (List.cons.inj (hn.symm.trans h)).2
      cases readWord ['u', 'l', 'l'] rest' <;> rfl
  · next hnot => exact absurd h (hnot rest)

theorem outcome_optional_value (h : skipBlanks s = c :: rest) (hc : c ≠ 'n') :
    outcome (Reader.optional read s) = (outcome (read s)).map fun p => (some p.1, p.2) := by
  unfold Reader.optional
  split
  · next rest' hn => exact absurd (List.cons.inj (h.symm.trans hn)).1 hc
  · exact outcome_map (g := some) fun _ _ => ⟨rfl, rfl⟩

theorem outcome_optional_blank (h : skipBlanks s = []) :
    outcome (Reader.optional read s) = (outcome (read s)).map fun p => (some p.1, p.2) := by
  unfold Reader.optional
  split
  · next rest' hn => exact absurd (h.symm.trans hn) (List.cons_ne_nil _ _).symm
  · exact outcome_map (g := some) fun _ _ => ⟨rfl, rfl⟩

end

theorem Reader.Follows.optional {read : Reader α} {value? : Tree → Option α}
    (h : read.Follows value?) : (Reader.optional read).Follows (Tree.optional? value?) := by
  intro v s m hs hm
  obtain ⟨c, t, hskip, hc⟩ := hs.exists_first
  have hother (hv : v.StartsWith 'n' → False)
      (hv? : Tree.optional? value? v = (value? v).map some) :
      outcome (Reader.optional read s) = (Tree.optional? value? v).map fun a => (a, m) := by
    rw [outcome_optional_value hskip (by rintro rfl; exact hv hc), h hs hm, hv?, Option.map_map,
      Option.map_map]
    rfl
  cases v with
  | null =>
      obtain ⟨t, hn, ht⟩ := hs.of_word (by decide)
      obtain rfl := ht.eq_of_nil
      have hword := remainder_readWord ['u', 'l', 'l'] t
      exact (outcome_optional_null hn).trans (congrArg (Option.map _) hword)
  | boolean b => exact hother (by cases b <;> simp [Tree.StartsWith]) rfl
  | number n => exact hother (by simp [Tree.StartsWith]) rfl
  | text units => exact hother (by simp [Tree.StartsWith]) rfl
  | list items => exact hother (by simp [Tree.StartsWith]) rfl
  | object members => exact hother (by simp [Tree.StartsWith]) rfl

/-! ### Arrays -/

section

variable {first : Bool} {c : Char} {t r : List Char}

theorem nextItem_bracket (h : skipBlanks s = ']' :: t) :
    nextItem first s = .ok (.closing t (length_lt_of_skipBlanks h)) := by
  unfold nextItem
  refine (atFirst_eq h _ _).trans ?_
  rw [if_pos rfl]

theorem nextItem_first (h : skipBlanks s = c :: t) (hc : c ≠ ']') :
    nextItem true s = .ok (.item (c :: t) (length_lt_of_skipBlanks h)) := by
  unfold nextItem
  refine (atFirst_eq h _ _).trans ?_
  rw [if_neg hc, if_pos rfl]

theorem nextItem_comma (h : skipBlanks s = ',' :: r) (hr : skipBlanks r = c :: t) (hc : c ≠ ']') :
    nextItem false s = .ok (.item (c :: t)
      (Nat.lt_trans (length_lt_of_skipBlanks hr) (length_lt_of_skipBlanks h))) := by
  unfold nextItem
  refine (atFirst_eq h _ _).trans ?_
  rw [if_neg (by decide), if_neg (by decide), if_pos rfl]
  refine (atFirst_eq hr _ _).trans ?_
  rw [if_neg hc]

end

theorem nextItem_closing {first : Bool} (h : Begins (itemTokens first []) s m) :
    ∃ lt, nextItem first s = .ok (.closing m lt) := by
  obtain ⟨t, hs, ht⟩ := h.of_mark (by decide)
  obtain rfl := ht.eq_of_nil
  exact ⟨_, nextItem_bracket hs⟩

theorem nextItem_item {first : Bool} {more : List Token}
    (h : Begins (comma first ++ (v.tokens ++ more)) s m) :
    ∃ start le, nextItem first s = .ok (.item start le) ∧ Begins (v.tokens ++ more) start m := by
  cases first with
  | true =>
      obtain ⟨c, t, hs, hc, ht⟩ := Begins.of_tree (v := v) h
      exact ⟨c :: t, _, nextItem_first hs hc.ne_bracket, ht⟩
  | false =>
      obtain ⟨r, hs, hr⟩ := Begins.of_mark (by decide) h
      obtain ⟨c, t, hr', hc, ht⟩ := hr.of_tree
      exact ⟨c :: t, _, nextItem_comma hs hr' hc.ne_bracket, ht⟩

section

variable {read : Reader α} {first : Bool} {start rest : List Char}

theorem outcome_readItems_closing {lt : rest.length < s.length}
    (h : nextItem first s = .ok (.closing rest lt)) :
    outcome (readItems read first s) = some ([], rest) := by
  rw [readItems, h]
  rfl

theorem outcome_readItems_item {le : start.length ≤ s.length}
    (h : nextItem first s = .ok (.item start le)) :
    outcome (readItems read first s) = (outcome (read start)).bind fun p =>
      (outcome (readItems read false p.2)).map fun q => (p.1 :: q.1, q.2) := by
  rw [readItems, h]
  rcases hread : read start with fault | ⟨a, t⟩
  · simp [hread, bind, Except.bind]
  · rcases hrest : readItems read false t.1 with fault | ⟨as, t'⟩ <;>
      simp [hread, hrest, bind, Except.bind, pure, Except.pure]

end

theorem outcome_readItems {read : Reader α} {value? : Tree → Option α} (hread : read.Follows value?)
    {first : Bool} {items : List Tree} (h : Begins (itemTokens first items) s m) :
    outcome (readItems read first s) = (items.mapM value?).map fun as => (as, m) := by
  induction items generalizing first s with
  | nil =>
      obtain ⟨lt, hnext⟩ := nextItem_closing h
      exact outcome_readItems_closing hnext
  | cons v vs ih =>
      obtain ⟨start, le, hnext, hstart⟩ := nextItem_item h
      obtain ⟨t, hv, hvs⟩ := hstart.of_append
      rw [outcome_readItems_item hnext, hread hv hvs.endsNumber_items, List.mapM_cons]
      cases value? v with
      | none => rfl
      | some a =>
          rw [Option.map_some, Option.bind_some, ih hvs]
          cases vs.mapM value? <;> rfl

theorem Reader.Follows.list {read : Reader α} {value? : Tree → Option α}
    (h : read.Follows value?) : (Reader.list read).Follows (Tree.list? value?) := by
  intro v s m hs hm
  have hother (hv : ∀ c, v.StartsWith c → c ≠ '[') : outcome (Reader.list read s) = none :=
    outcome_withFirst_other (P := (· = '[')) hs hv
  cases v with
  | list items =>
      obtain ⟨t, hskip, ht⟩ := hs.of_mark (by decide)
      rw [Reader.list, outcome_withFirst hskip, if_pos rfl,
        outcome_map_rest (fun _ _ => ⟨rfl, rfl⟩), outcome_readItems h ht, Tree.list?]
  | boolean b => exact hother (by cases b <;> simp [Tree.StartsWith])
  | number n =>
      refine hother ?_
      rintro c hc rfl
      exact absurd (show '[' = '-' ∨ '['.isDigit from hc) (by decide)
  | _ => exact hother (by simp [Tree.StartsWith])

end Telemetry.Json
