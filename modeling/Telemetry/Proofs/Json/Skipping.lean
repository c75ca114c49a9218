import Telemetry.Proofs.Json.Characters
import Telemetry.Proofs.Json.Numerals

/-!
Passing over values.

`skipFrom` keeps the open brackets on a stack and walks through the text step by
step. One lemma says where each kind of step leads; by induction on a tree, the
steps over its text lead from before the text to behind it, with the same
brackets open. So a tree is passed over whatever it holds, however deep.
-/

namespace Telemetry.Json

variable {bound : Nat} {next next' next'' : Awaiting} {stack stack' stack'' : List Bracket}
  {s s' s'' rest m : List Char}

/-! ### Steps -/

/-- Passing over values from one place of a text leads to another. -/
def Leads (bound : Nat) (next : Awaiting) (stack : List Bracket) (s : List Char)
    (next' : Awaiting) (stack' : List Bracket) (s' : List Char) : Prop :=
  ∀ le, ∃ le', skipFrom bound next stack s le = skipFrom bound next' stack' s' le'

theorem Leads.trans (h : Leads bound next stack s next' stack' s')
    (h' : Leads bound next' stack' s' next'' stack'' s'') :
    Leads bound next stack s next'' stack'' s'' := by
  intro le
  obtain ⟨le', heq⟩ := h le
  obtain ⟨le'', heq'⟩ := h' le'
  exact ⟨le'', heq.trans heq'⟩

theorem leads_list (h : skipBlanks s = '[' :: rest) :
    Leads bound .value stack s (.closing false) (.list :: stack) rest := by
  intro le
  refine ⟨length_le_of_skipBlanks h le, ?_⟩
  rw [skipFrom]
  refine (atFirst_eq h _ _).trans ?_
  rw [if_pos rfl]

theorem leads_object (h : skipBlanks s = '{' :: rest) :
    Leads bound .value stack s (.closing false) (.object :: stack) rest := by
  intro le
  refine ⟨length_le_of_skipBlanks h le, ?_⟩
  rw [skipFrom]
  refine (atFirst_eq h _ _).trans ?_
  rw [if_neg (by decide), if_pos rfl]

theorem leads_scalar {c : Char} (h : skipBlanks s = c :: rest) (hlist : c ≠ '[')
    (hobject : c ≠ '{') (hskip : remainder (skipScalar c rest) = some m) :
    Leads bound .value stack s (.closing true) stack m := by
  intro le
  obtain ⟨lt, hok⟩ := eq_ok_of_remainder hskip
  refine ⟨by have := length_lt_of_skipBlanks h; omega, ?_⟩
  rw [skipFrom]
  refine (atFirst_eq h _ _).trans ?_
  rw [if_neg hlist, if_neg hobject, hok]

theorem leads_item (h : stack.head? ≠ some .object) :
    Leads bound .item stack s .value stack s := by
  intro le
  refine ⟨le, ?_⟩
  match stack with
  | [] => exact (skipFrom.eq_def bound .item [] s le).trans rfl
  | .list :: stack => exact (skipFrom.eq_def bound .item (.list :: stack) s le).trans rfl
  | .object :: stack => exact absurd rfl h

theorem leads_key (h : remainder (skipKey s) = some m) :
    Leads bound .item (.object :: stack) s .value (.object :: stack) m := by
  intro le
  obtain ⟨lt, hok⟩ := eq_ok_of_remainder h
  refine ⟨by omega, ?_⟩
  conv => lhs; rw [skipFrom, hok]

theorem leads_close {bracket : Bracket} {afterItem : Bool}
    (h : skipBlanks s = bracket.closer :: rest) :
    Leads bound (.closing afterItem) (bracket :: stack) s (.closing true) stack rest := by
  intro le
  refine ⟨length_le_of_skipBlanks h le, ?_⟩
  have hcomma : bracket.closer ≠ ',' := by cases bracket <;> decide
  conv => lhs; rw [skipFrom]
  refine (atFirst_eq h _ _).trans ?_
  rw [if_neg (fun hc => hcomma hc.1), if_pos rfl]

theorem leads_comma {bracket : Bracket} (h : skipBlanks s = ',' :: rest) :
    Leads bound (.closing true) (bracket :: stack) s .item (bracket :: stack) rest := by
  intro le
  refine ⟨length_le_of_skipBlanks h le, ?_⟩
  conv => lhs; rw [skipFrom]
  refine (atFirst_eq h _ _).trans ?_
  rw [if_pos ⟨rfl, rfl⟩]

theorem leads_first {b : Bracket} {c : Char} (h : skipBlanks s = c :: rest)
    (hc : c ≠ b.closer) : Leads bound (.closing false) (b :: stack) s .item (b :: stack) s := by
  intro le
  refine ⟨le, ?_⟩
  conv => lhs; rw [skipFrom]
  refine (atFirst_eq h _ _).trans ?_
  rw [if_neg (by simp), if_neg hc, if_neg (by simp)]

/-! ### Scalars and keys -/

theorem remainder_skipScalar_text {units : List Nat} {t : List Char} (h : Spelling units t) :
    remainder (skipScalar '"' (t ++ '"' :: m)) = some m := by
  show remainder ((skipString (t ++ '"' :: m)).map Rest.succ) = some m
  rw [remainder_map Rest.val_succ, remainder_skipString h]

theorem remainder_skipScalar_numeral {c : Char} (hc : c = '-' ∨ c.isDigit) (s : List Char) :
    remainder (skipScalar c s) = (outcome (readNumeral .invalidNumber (c :: s))).map (·.2) := by
  have hne : c ≠ 'n' ∧ c ≠ 't' ∧ c ≠ 'f' ∧ c ≠ '"' := by
    refine ⟨?_, ?_, ?_, ?_⟩ <;> (rintro rfl; exact absurd hc (by decide))
  rw [skipScalar, if_neg hne.1, if_neg hne.2.1, if_neg hne.2.2.1, if_neg hne.2.2.2, if_pos hc]
  exact remainder_snd _

theorem remainder_skipScalar_number {n : Numeral} {c : Char} {t : List Char}
    (hc : c = '-' ∨ c.isDigit) (h : n.IsWritten (c :: t)) (hm : EndsNumber m) :
    remainder (skipScalar c (t ++ m)) = some m :=
  (remainder_skipScalar_numeral hc _).trans (congrArg _ (outcome_readNumeral _ h hm))

/-- A key is a string with a colon behind it. -/
theorem remainder_skipKey_string {t : List Char} (hs : skipBlanks s = '"' :: t)
    (hskip : remainder (skipString t) = some m) (hm : skipBlanks m = ':' :: rest) :
    remainder (skipKey s) = some rest := by
  obtain ⟨_, hok⟩ := eq_ok_of_remainder hskip
  unfold skipKey
  refine (congrArg remainder (atFirst_eq hs _ _)).trans ?_
  rw [if_pos rfl, hok]
  simp only [bind, Except.bind]
  refine (congrArg remainder (atFirst_eq hm _ _)).trans ?_
  rfl

theorem remainder_skipKey {key : List Nat} {tokens : List Token}
    (h : Begins (.text key :: .mark ':' :: tokens) s rest) :
    ∃ m, remainder (skipKey s) = some m ∧ Begins tokens m rest := by
  obtain ⟨spelled, t, hspelled, hs, hcolon⟩ := h.of_text
  obtain ⟨m, ht, hm⟩ := hcolon.of_mark (by decide)
  exact ⟨m, remainder_skipKey_string hs (remainder_skipString hspelled t) ht, hm⟩

/-! ### Whole values -/

theorem leads_to_item {first : Bool} {v : Tree} {more : List Token}
    (h : Begins (comma first ++ (v.tokens ++ more)) s m) :
    ∃ t, Leads bound (.closing !first) (.list :: stack) s .value (.list :: stack) t ∧
      Begins (v.tokens ++ more) t m := by
  cases first with
  | true =>
      obtain ⟨c, t, hs, hc, -⟩ := Begins.of_tree (v := v) h
      exact ⟨s, (leads_first (b := .list) hs hc.ne_bracket).trans
        (leads_item (by simp)), h⟩
  | false =>
      obtain ⟨t, hs, ht⟩ := Begins.of_mark (by decide) h
      exact ⟨t, (leads_comma hs).trans (leads_item (by simp)), ht⟩

theorem leads_to_member {first : Bool} {key : List Nat} {more : List Token}
    (h : Begins (comma first ++ .text key :: .mark ':' :: more) s m) :
    ∃ t, Leads bound (.closing !first) (.object :: stack) s .value (.object :: stack) t ∧
      Begins more t m := by
  cases first with
  | true =>
      obtain ⟨t, hkey, ht⟩ := remainder_skipKey h
      obtain ⟨_, _, _, hs, _⟩ := Begins.of_text h
      exact ⟨t, (leads_first hs (by decide)).trans (leads_key hkey), ht⟩
  | false =>
      obtain ⟨r, hs, hr⟩ := Begins.of_mark (by decide) h
      obtain ⟨t, hkey, ht⟩ := remainder_skipKey hr
      exact ⟨t, (leads_comma hs).trans (leads_key hkey), ht⟩

-- Mutual induction on the tree, its items and its members. The open brackets are any list, so that
-- a value inside a bracket is passed over by the same statement as the whole.
mutual

theorem Tree.leads : ∀ (v : Tree) {s m : List Char} {stack : List Bracket},
    Begins v.tokens s m → EndsNumber m → Leads bound .value stack s (.closing true) stack m
  | .null, s, m, stack, h, hm => by
      obtain ⟨t, hs, ht⟩ := h.of_word (by decide)
      obtain rfl := ht.eq_of_nil
      exact leads_scalar hs (by decide) (by decide) (remainder_readWord ['u', 'l', 'l'] t)
  | .boolean true, s, m, stack, h, hm => by
      obtain ⟨t, hs, ht⟩ := h.of_word (by decide)
      obtain rfl := ht.eq_of_nil
      exact leads_scalar hs (by decide) (by decide) (remainder_readWord ['r', 'u', 'e'] t)
  | .boolean false, s, m, stack, h, hm => by
      obtain ⟨t, hs, ht⟩ := h.of_word (by decide)
      obtain rfl := ht.eq_of_nil
      exact leads_scalar hs (by decide) (by decide) (remainder_readWord ['a', 'l', 's', 'e'] t)
  | .number n, s, m, stack, h, hm => by
      obtain ⟨c, t, r, hc, hn, hs, hr⟩ := h.of_numeral
      obtain rfl := hr.eq_of_nil
      exact leads_scalar hs (by rintro rfl; exact absurd hc (by decide))
        (by rintro rfl; exact absurd hc (by decide)) (remainder_skipScalar_number hc hn hm)
  | .text units, s, m, stack, h, hm => by
      obtain ⟨spelled, t, hspelled, hs, ht⟩ := h.of_text
      obtain rfl := ht.eq_of_nil
      exact leads_scalar hs (by decide) (by decide) (remainder_skipScalar_text hspelled)
  | .list items, s, m, stack, h, hm => by
      obtain ⟨t, hs, ht⟩ := h.of_mark (by decide)
      exact (leads_list hs).trans (items_lead true items ht)
  | .object members, s, m, stack, h, hm => by
      obtain ⟨t, hs, ht⟩ := h.of_mark (by decide)
      exact (leads_object hs).trans (members_lead true members ht)

theorem items_lead : ∀ (first : Bool) (items : List Tree) {s m : List Char}
    {stack : List Bracket}, Begins (itemTokens first items) s m →
      Leads bound (.closing !first) (.list :: stack) s (.closing true) stack m
  | first, [], s, m, stack, h => by
      obtain ⟨t, hs, ht⟩ := h.of_mark (by decide)
      obtain rfl := ht.eq_of_nil
      exact leads_close hs
  | first, v :: vs, s, m, stack, h => by
      obtain ⟨t, hfirst, ht⟩ := leads_to_item h
      obtain ⟨r, hv, hvs⟩ := ht.of_append
      exact hfirst.trans ((v.leads hv hvs.endsNumber_items).trans (items_lead false vs hvs))

theorem members_lead : ∀ (first : Bool) (members : List (String × Tree)) {s m : List Char}
    {stack : List Bracket}, Begins (memberTokens first members) s m →
      Leads bound (.closing !first) (.object :: stack) s (.closing true) stack m
  | first, [], s, m, stack, h => by
      obtain ⟨t, hs, ht⟩ := h.of_mark (by decide)
      obtain rfl := ht.eq_of_nil
      exact leads_close hs
  | first, (key, v) :: ms, s, m, stack, h => by
      obtain ⟨t, hfirst, ht⟩ := leads_to_member h
      obtain ⟨r, hv, hms⟩ := ht.of_append
      exact hfirst.trans ((v.leads hv hms.endsNumber_members).trans (members_lead false ms hms))

end

/-- A tree is passed over, whatever it holds. -/
theorem remainder_skipValue {v : Tree} (h : Begins v.tokens s m) (hm : EndsNumber m) :
    remainder (skipValue s) = some m := by
  have hleads : Leads s.length .value [] s (.closing true) [] m := v.leads h hm
  obtain ⟨le, hlead⟩ := hleads (Nat.le_refl _)
  rw [skipValue, hlead, skipFrom]
  rfl

end Telemetry.Json
