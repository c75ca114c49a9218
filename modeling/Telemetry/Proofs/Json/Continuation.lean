import Telemetry.Proofs.Json.Characters
import Telemetry.Proofs.Json.Numerals

/-!
Tokens of a text that goes on.

A reading function looks at a text from its front, so more text behind what it
leaves changes nothing about what it reads; the additional text is just left as
well. For a string this holds without exception, since its closing quote is read:
it is `Closed`. A number is ended by what follows it. It is only `Delimited`: the
same holds if something follows, but a number at the very end of a text may go on
when the text does.
-/

namespace Telemetry.Json

variable {s r rest : List Char} {c : Char} {cause : Cause}

/-- What a reading function leaves is an end of the text, and stays so if the text goes on;
`Leaves s r` says that of `s` it leaves `r`. -/
def Closed (Leaves : List Char → List Char → Prop) : Prop :=
  ∀ ⦃s r⦄, Leaves s r → r <:+ s ∧ ∀ more, Leaves (s ++ more) (r ++ more)

/-- The same, provided that something is left. -/
def Delimited (Leaves : List Char → List Char → Prop) : Prop :=
  ∀ ⦃s r⦄, Leaves s r → r <:+ s ∧ (r ≠ [] → ∀ more, Leaves (s ++ more) (r ++ more))

theorem Closed.delimited {Leaves : List Char → List Char → Prop} (h : Closed Leaves) :
    Delimited Leaves :=
  fun _ _ hs => ⟨(h hs).1, fun _ => (h hs).2⟩

/-! ### Blanks and words -/

theorem skipBlanks_append_right (h : skipBlanks s = c :: rest) (more : List Char) :
    skipBlanks (s ++ more) = c :: (rest ++ more) := by
  rw [skipBlanks] at h ⊢
  simp [List.dropWhile_append, h]

theorem suffix_of_skipBlanks (h : skipBlanks s = c :: rest) : rest <:+ s :=
  (List.suffix_cons c rest).trans (h ▸ List.dropWhile_suffix isBlank)

theorem eq_append_of_readWord {word : List Char} (h : remainder (readWord word s) = some r) :
    s = word ++ r := by
  induction word generalizing s with
  | nil => exact Option.some.inj h
  | cons w word ih =>
      cases s with
      | nil => cases h
      | cons c s =>
          rw [readWord] at h
          split at h
          · next hc =>
              rw [remainder_map Rest.val_succ] at h
              rw [hc, ih h, List.cons_append]
          · cases h

theorem closed_readWord (word : List Char) :
    Closed fun s r => remainder (readWord word s) = some r := by
  intro s r h
  obtain rfl := eq_append_of_readWord h
  refine ⟨List.suffix_append word r, fun more => ?_⟩
  show remainder (readWord word _) = _
  rw [List.append_assoc, remainder_readWord]

/-! ### Escapes -/

theorem exists_of_outcome_readHex {n : Nat} (h : outcome (readHex s) = some (n, r)) :
    ∃ a b c d, s = a :: b :: c :: d :: r ∧ hexValue? [a, b, c, d] = some n := by
  rcases s with _ | ⟨a, _ | ⟨b, _ | ⟨c, _ | ⟨d, rest⟩⟩⟩⟩
  case cons.cons.cons.cons =>
    cases hu : hexValue? [a, b, c, d] with
    | none => simp [readHex, hu] at h
    | some u =>
        rw [outcome_readHex hu] at h
        obtain ⟨rfl, rfl⟩ := Prod.mk.inj (Option.some.inj h)
        exact ⟨a, b, c, d, rfl, hu⟩
  all_goals
    simp only [readHex] at h
    split at h <;> cases h

theorem closed_readHex (n : Nat) : Closed fun s r => outcome (readHex s) = some (n, r) := by
  intro s r h
  obtain ⟨a, b, c, d, rfl, hvalue⟩ := exists_of_outcome_readHex h
  exact ⟨List.suffix_append [a, b, c, d] r, fun more => outcome_readHex hvalue (r ++ more)⟩

/-- The second half of a pair must be an escape by number. -/
theorem outcome_readUnicodeEscape_unpaired {a b c d : Char} {u : Nat}
    (h : hexValue? [a, b, c, d] = some u) (hlow : isLowSurrogate u = false)
    (hhigh : isHighSurrogate u = true) (hbad : outcome (readHex s) = none) :
    outcome (readUnicodeEscape (a :: b :: c :: d :: '\\' :: 'u' :: s)) = none := by
  obtain ⟨_, hfirst⟩ := eq_ok_of_outcome (outcome_readHex h ('\\' :: 'u' :: s))
  obtain ⟨fault, hsecond⟩ := eq_error_of_outcome hbad
  simp [readUnicodeEscape, hfirst, hsecond, hlow, hhigh, readPairMark, Rest.whole, bind,
    Except.bind]

/-- An escape by number takes four digits, or eight and the marks between them. -/
theorem exists_of_outcome_readUnicodeEscape {x : Char}
    (h : outcome (readUnicodeEscape s) = some (x, r)) :
    ∃ used, s = used ++ r ∧
      ∀ rest, outcome (readUnicodeEscape (used ++ rest)) = some (x, rest) := by
  cases hfirst : readHex s with
  | error fault => simp [readUnicodeEscape, hfirst, bind, Except.bind] at h
  | ok p =>
  obtain ⟨a, b, c, d, hs, hu⟩ := exists_of_outcome_readHex (congrArg outcome hfirst)
  generalize p.2.1 = t at hs
  obtain rfl := hs
  cases hlow : isLowSurrogate p.1 with
  | true => rw [outcome_readUnicodeEscape_low hu hlow] at h; cases h
  | false =>
  cases hhigh : isHighSurrogate p.1 with
  | false =>
      rw [outcome_readUnicodeEscape_char hu hlow hhigh] at h
      obtain ⟨rfl, rfl⟩ := Prod.mk.inj (Option.some.inj h)
      exact ⟨[a, b, c, d], rfl, fun rest => outcome_readUnicodeEscape_char hu hlow hhigh⟩
  | true =>
  by_cases hpair : ∃ s, t = '\\' :: 'u' :: s
  · obtain ⟨s, rfl⟩ := hpair
    cases hsecond : outcome (readHex s) with
    | none =>
        rw [outcome_readUnicodeEscape_unpaired hu hlow hhigh hsecond] at h
        cases h
    | some q =>
        obtain ⟨a', b', c', d', rfl, hv⟩ := exists_of_outcome_readHex hsecond
        rw [outcome_readUnicodeEscape_pair hu hlow hhigh hv] at h
        split at h
        · next hpair =>
            obtain ⟨rfl, rfl⟩ := Prod.mk.inj (Option.some.inj h)
            refine ⟨[a, b, c, d, '\\', 'u', a', b', c', d'], rfl, fun rest => ?_⟩
            exact (outcome_readUnicodeEscape_pair hu hlow hhigh hv).trans (if_pos hpair)
        · cases h
  · rw [outcome_readUnicodeEscape_alone hu hlow hhigh fun s hs => hpair ⟨s, hs⟩] at h
    cases h

theorem closed_readEscape (x : Char) : Closed fun s r => outcome (readEscape s) = some (x, r) := by
  intro s r h
  cases s with
  | nil => exact nomatch h
  | cons l s =>
      by_cases hl : l = 'u'
      · subst hl
        rw [outcome_readEscape_unit] at h
        obtain ⟨used, rfl, hused⟩ := exists_of_outcome_readUnicodeEscape h
        refine ⟨List.suffix_append ('u' :: used) r, fun more => ?_⟩
        show outcome (readEscape ('u' :: _)) = _
        rw [List.append_eq, List.append_assoc, outcome_readEscape_unit, hused]
      · cases hletter : unescapeLetter? l with
        | none => simp [readEscape, hl, hletter] at h
        | some y =>
            rw [outcome_readEscape_letter hletter] at h
            obtain ⟨rfl, rfl⟩ := Prod.mk.inj (Option.some.inj h)
            exact ⟨List.suffix_cons l s, fun more => outcome_readEscape_letter hletter _⟩

/-! ### Strings -/

theorem outcome_readString_control (hc : c.toNat < 0x20) (s : List Char) :
    outcome (readString (c :: s)) = none := by
  have hquote : c ≠ '"' := by rintro rfl; exact absurd hc (by decide)
  have hescape : c ≠ '\\' := by rintro rfl; exact absurd hc (by decide)
  rw [readString, if_neg hquote, if_neg hescape, if_pos hc, outcome_error]

/-- A string ends at its closing quote, whatever follows. -/
theorem closed_readString (cs : List Char) :
    Closed fun s r => outcome (readString s) = some (cs, r) := by
  intro s r h
  induction hlength : s.length using Nat.strongRecOn generalizing s cs with
  | _ n ih =>
  subst hlength
  cases s with
  | nil => rw [readString] at h; cases h
  | cons c s =>
  simp only [List.cons_append]
  by_cases hquote : c = '"'
  · subst hquote
    rw [readString_quote] at h
    obtain ⟨rfl, rfl⟩ := Prod.mk.inj (Option.some.inj h)
    exact ⟨List.suffix_cons '"' s, fun more => by rw [readString_quote]; rfl⟩
  by_cases hescape : c = '\\'
  · subst hescape
    cases hread : outcome (readEscape s) with
    | none => rw [outcome_readString_bad hread] at h; cases h
    | some p =>
        obtain ⟨x, t⟩ := p
        obtain ⟨lt, -⟩ := eq_ok_of_outcome hread
        rw [outcome_readString_escape hread] at h
        obtain ⟨q, hq, hcs⟩ := Option.map_eq_some_iff.1 h
        obtain ⟨rfl, rfl⟩ := Prod.mk.inj hcs
        obtain ⟨ht, hmore⟩ := closed_readEscape x hread
        obtain ⟨hr, hmore'⟩ := ih t.length (Nat.lt_succ_of_lt lt) q.1 hq rfl
        refine ⟨hr.trans (ht.trans (List.suffix_cons _ s)), fun more => ?_⟩
        rw [outcome_readString_escape (hmore more), hmore']
        rfl
  by_cases hcontrol : c.toNat < 0x20
  · rw [outcome_readString_control hcontrol] at h
    cases h
  · have hliteral := outcome_readString_literal hquote hescape (Nat.le_of_not_lt hcontrol)
    rw [hliteral] at h
    obtain ⟨q, hq, hcs⟩ := Option.map_eq_some_iff.1 h
    obtain ⟨rfl, rfl⟩ := Prod.mk.inj hcs
    obtain ⟨hr, hmore⟩ := ih s.length (Nat.lt_succ_self _) q.1 hq rfl
    refine ⟨hr.trans (List.suffix_cons c s), fun more => ?_⟩
    rw [hliteral, hmore]
    rfl

/-! ### Strings whose content does not matter -/

theorem remainder_skipEscape_unit (s : List Char) :
    remainder (skipEscape ('u' :: s)) = (outcome (readHex s)).map (·.2) := by
  rw [skipEscape, if_pos rfl]
  cases readHex s <;> rfl

theorem closed_skipEscape : Closed fun s r => remainder (skipEscape s) = some r := by
  intro s r h
  cases s with
  | nil => exact nomatch h
  | cons l s =>
      by_cases hl : l = 'u'
      · subst hl
        rw [remainder_skipEscape_unit] at h
        obtain ⟨p, hp, rfl⟩ := Option.map_eq_some_iff.1 h
        obtain ⟨hr, hmore⟩ := closed_readHex p.1 hp
        refine ⟨hr.trans (List.suffix_cons _ s), fun more => ?_⟩
        show remainder (skipEscape ('u' :: (s ++ more))) = _
        rw [remainder_skipEscape_unit, hmore]
        rfl
      · cases hletter : unescapeLetter? l with
        | none => simp [skipEscape, hl, hletter] at h
        | some y =>
            obtain rfl : s = r := by simpa [skipEscape, hl, hletter] using h
            exact ⟨List.suffix_cons l s, fun more => by simp [skipEscape, hl, hletter]⟩

theorem remainder_skipString_quote (s : List Char) : remainder (skipString ('"' :: s)) = some s := by
  rw [skipString, if_pos rfl]
  rfl

theorem remainder_skipString_bad (h : remainder (skipEscape s) = none) :
    remainder (skipString ('\\' :: s)) = none := by
  rw [skipString, if_neg (by decide), if_pos rfl]
  cases hskip : skipEscape s with
  | error fault => rfl
  | ok r => rw [hskip] at h; cases h

theorem remainder_skipString_literal (quote : c ≠ '"') (escape : c ≠ '\\') (s : List Char) :
    remainder (skipString (c :: s)) =
      if c.toNat < 0x20 then none else remainder (skipString s) := by
  rw [skipString, if_neg quote, if_neg escape]
  split
  · rfl
  · exact remainder_map Rest.val_succ

theorem closed_skipString : Closed fun s r => remainder (skipString s) = some r := by
  intro s r h
  induction hlength : s.length using Nat.strongRecOn generalizing s with
  | _ n ih =>
  subst hlength
  cases s with
  | nil => rw [skipString] at h; cases h
  | cons c s =>
  simp only [List.cons_append]
  by_cases hquote : c = '"'
  · subst hquote
    rw [remainder_skipString_quote] at h
    obtain rfl := Option.some.inj h
    exact ⟨List.suffix_cons '"' s, fun more => remainder_skipString_quote _⟩
  by_cases hescape : c = '\\'
  · subst hescape
    cases hskip : remainder (skipEscape s) with
    | none => rw [remainder_skipString_bad hskip] at h; cases h
    | some t =>
        obtain ⟨lt, -⟩ := eq_ok_of_remainder hskip
        rw [remainder_skipString_escape hskip] at h
        obtain ⟨ht, hmore⟩ := closed_skipEscape hskip
        obtain ⟨hr, hmore'⟩ := ih t.length (Nat.lt_succ_of_lt lt) h rfl
        refine ⟨hr.trans (ht.trans (List.suffix_cons _ s)), fun more => ?_⟩
        rw [remainder_skipString_escape (hmore more), hmore']
  · simp only [remainder_skipString_literal hquote hescape] at h ⊢
    split at h
    · cases h
    · next hcontrol =>
        obtain ⟨hr, hmore⟩ := ih s.length (Nat.lt_succ_self _) h rfl
        exact ⟨hr.trans (List.suffix_cons c s), fun more => (if_neg hcontrol).trans (hmore more)⟩

/-! ### Numbers -/

/-- Digits that something follows do not go on when the text does. -/
theorem digits_append (h : s.dropWhile Char.isDigit ≠ []) (more : List Char) :
    (s ++ more).takeWhile Char.isDigit = s.takeWhile Char.isDigit ∧
      (s ++ more).dropWhile Char.isDigit = s.dropWhile Char.isDigit ++ more := by
  induction s with
  | nil => exact absurd rfl h
  | cons c s ih =>
      cases hc : c.isDigit with
      | true =>
          obtain ⟨htake, hdrop⟩ := ih (by simpa [hc] using h)
          simp [hc, htake, hdrop]
      | false => simp [hc]

/-- A first digit with all that follow it, which both kinds of digits end with. -/
theorem leaves_digits (h : s.dropWhile Char.isDigit = r) :
    r <:+ c :: s ∧ (r ≠ [] → ∀ more,
      (c :: (s ++ more).takeWhile Char.isDigit, (s ++ more).dropWhile Char.isDigit) =
        (c :: s.takeWhile Char.isDigit, r ++ more)) := by
  subst h
  refine ⟨(List.dropWhile_suffix _).trans (List.suffix_cons c s), fun hr more => ?_⟩
  obtain ⟨htake, hdrop⟩ := digits_append hr more
  rw [htake, hdrop]

theorem delimited_readDigits (cause : Cause) (ds : List Char) :
    Delimited fun s r => outcome (readDigits cause s) = some (ds, r) := by
  intro s r h
  cases s with
  | nil => cases h
  | cons c s =>
      simp only [List.cons_append, readDigits] at h ⊢
      split at h
      · next hc =>
          obtain ⟨rfl, hr⟩ := Prod.mk.inj (Option.some.inj h)
          simp only [if_pos hc]
          exact (leaves_digits hr).imp_right fun hmore hne more => congrArg some (hmore hne more)
      · cases h

theorem delimited_readWhole (cause : Cause) (ds : List Char) :
    Delimited fun s r => outcome (readWhole cause s) = some (ds, r) := by
  intro s r h
  cases s with
  | nil => cases h
  | cons c s =>
      simp only [List.cons_append, readWhole] at h ⊢
      split at h
      · next hzero =>
          split at h
          · cases h
          · next hnext =>
              obtain ⟨rfl, rfl⟩ := Prod.mk.inj (Option.some.inj h)
              simp only [if_pos hzero]
              refine ⟨List.suffix_cons c s, fun hne more => ?_⟩
              obtain ⟨d, s, rfl⟩ := List.exists_cons_of_ne_nil hne
              exact congrArg outcome (if_neg hnext)
      · next hzero =>
          split at h
          · next hc =>
              obtain ⟨rfl, hr⟩ := Prod.mk.inj (Option.some.inj h)
              simp only [if_neg hzero, if_pos hc]
              exact (leaves_digits hr).imp_right fun hmore hne more => congrArg some (hmore hne more)
          · cases h

theorem outcome_readDecimals_point (s : List Char) :
    outcome (readDecimals cause ('.' :: s)) = outcome (readDigits cause s) := by
  rw [readDecimals, outcome_map_rest (by simp)]

theorem outcome_readDecimals_none (hc : c ≠ '.') (s : List Char) :
    outcome (readDecimals cause (c :: s)) = some ([], c :: s) := by
  rw [readDecimals]
  · rfl
  · rintro rest hrest
    exact hc (List.cons.inj hrest).1

theorem delimited_readDecimals (cause : Cause) (ds : List Char) :
    Delimited fun s r => outcome (readDecimals cause s) = some (ds, r) := by
  intro s r h
  cases s with
  | nil =>
      obtain ⟨-, rfl⟩ := Prod.mk.inj (Option.some.inj h)
      exact ⟨List.suffix_rfl, fun hne => absurd rfl hne⟩
  | cons c s =>
      by_cases hc : c = '.'
      · subst hc
        simp only [List.cons_append, outcome_readDecimals_point] at h ⊢
        obtain ⟨hr, hmore⟩ := delimited_readDigits cause ds h
        exact ⟨hr.trans (List.suffix_cons _ s), hmore⟩
      · simp only [List.cons_append, outcome_readDecimals_none hc] at h ⊢
        obtain ⟨rfl, rfl⟩ := Prod.mk.inj (Option.some.inj h)
        exact ⟨List.suffix_rfl, fun _ more => rfl⟩

theorem exponentSign_suffix (s : List Char) : (exponentSign s).2 <:+ s := by
  unfold exponentSign
  split
  · exact List.suffix_cons _ _
  · exact List.suffix_cons _ _
  · exact List.suffix_rfl

theorem exponentSign_append_right (hs : s ≠ []) (more : List Char) :
    exponentSign (s ++ more) = ((exponentSign s).1, (exponentSign s).2 ++ more) := by
  obtain ⟨c, s, rfl⟩ := List.exists_cons_of_ne_nil hs
  rw [List.cons_append]
  unfold exponentSign
  split <;> simp_all

/-- The letter of an exponent, its sign and its digits. -/
theorem outcome_readExponent_letter (hc : c = 'e' ∨ c = 'E') (s : List Char) :
    outcome (readExponent cause (c :: s)) =
      (outcome (readDigits cause (exponentSign s).2)).map fun p =>
        (some ⟨(exponentSign s).1, p.1⟩, p.2) := by
  rw [readExponent, if_pos hc, outcome_map (g := fun ds => some ⟨(exponentSign s).1, ds⟩)
    (fun _ _ => ⟨rfl, rfl⟩)]

theorem delimited_readExponent (cause : Cause) (e? : Option Exponent) :
    Delimited fun s r => outcome (readExponent cause s) = some (e?, r) := by
  intro s r h
  cases s with
  | nil =>
      obtain ⟨-, rfl⟩ := Prod.mk.inj (Option.some.inj h)
      exact ⟨List.suffix_rfl, fun hne => absurd rfl hne⟩
  | cons c s =>
      by_cases hc : c = 'e' ∨ c = 'E'
      · simp only [List.cons_append, outcome_readExponent_letter hc] at h ⊢
        obtain ⟨p, hp, hpair⟩ := Option.map_eq_some_iff.1 h
        obtain ⟨rfl, rfl⟩ := Prod.mk.inj hpair
        have hs : s ≠ [] := by
          rintro rfl
          exact nomatch hp
        obtain ⟨hr, hmore⟩ := delimited_readDigits cause p.1 hp
        refine ⟨(hr.trans (exponentSign_suffix s)).trans (List.suffix_cons c s), fun hne more => ?_⟩
        rw [exponentSign_append_right hs, hmore hne more]
        rfl
      · simp only [List.cons_append, readExponent, if_neg hc] at h ⊢
        obtain ⟨rfl, rfl⟩ := Prod.mk.inj (Option.some.inj h)
        exact ⟨List.suffix_rfl, fun _ more => rfl⟩

/-- The parts of an unsigned number are read one behind the other. -/
theorem outcome_unsigned_eq (cause : Cause) (s : List Char) :
    outcome (readNumeral.unsigned cause s) =
      (outcome (readWhole cause s)).bind fun p₁ =>
        (outcome (readDecimals cause p₁.2)).bind fun p₂ =>
          (outcome (readExponent cause p₂.2)).map fun p₃ =>
            (⟨false, p₁.1, p₂.1, p₃.1⟩, p₃.2) := by
  rw [readNumeral.unsigned]
  rcases readWhole cause s with fault | ⟨whole, r₁⟩
  · rfl
  simp only [bind, Except.bind, outcome_ok, Option.bind_some]
  rcases readDecimals cause r₁.1 with fault | ⟨ds, r₂⟩
  · rfl
  simp only [outcome_ok, Option.bind_some]
  rcases readExponent cause r₂.1 with fault | ⟨e?, r₃⟩ <;> rfl

theorem delimited_unsigned (cause : Cause) (n : Numeral) :
    Delimited fun s r => outcome (readNumeral.unsigned cause s) = some (n, r) := by
  intro s r h
  rw [outcome_unsigned_eq] at h
  obtain ⟨p₁, h₁, h⟩ := Option.bind_eq_some_iff.1 h
  obtain ⟨p₂, h₂, h⟩ := Option.bind_eq_some_iff.1 h
  obtain ⟨p₃, h₃, hpair⟩ := Option.map_eq_some_iff.1 h
  obtain ⟨rfl, rfl⟩ := Prod.mk.inj hpair
  obtain ⟨hr₁, hmore₁⟩ := delimited_readWhole cause p₁.1 h₁
  obtain ⟨hr₂, hmore₂⟩ := delimited_readDecimals cause p₂.1 h₂
  obtain ⟨hr₃, hmore₃⟩ := delimited_readExponent cause p₃.1 h₃
  refine ⟨(hr₃.trans hr₂).trans hr₁, fun hne more => ?_⟩
  -- something is left behind the whole number, so something was left behind every part of it
  have hne₂ : p₂.2 ≠ [] := hr₃.ne_nil hne
  have hne₁ : p₁.2 ≠ [] := hr₂.ne_nil hne₂
  show outcome (readNumeral.unsigned cause (s ++ more)) = _
  rw [outcome_unsigned_eq, hmore₁ hne₁ more, Option.bind_some, hmore₂ hne₂ more, Option.bind_some,
    hmore₃ hne more, Option.map_some]

theorem outcome_readNumeral_minus (cause : Cause) (s : List Char) :
    outcome (readNumeral cause ('-' :: s)) =
      (outcome (readNumeral.unsigned cause s)).map fun p =>
        ({ p.1 with negative := true }, p.2) := by
  rw [readNumeral]
  cases readNumeral.unsigned cause s <;> rfl

theorem delimited_readNumeral (cause : Cause) (n : Numeral) :
    Delimited fun s r => outcome (readNumeral cause s) = some (n, r) := by
  intro s r h
  cases s with
  | nil => exact nomatch h
  | cons c s =>
      by_cases hc : c = '-'
      · subst hc
        simp only [List.cons_append, outcome_readNumeral_minus] at h ⊢
        obtain ⟨p, hp, hpair⟩ := Option.map_eq_some_iff.1 h
        obtain ⟨rfl, rfl⟩ := Prod.mk.inj hpair
        obtain ⟨hr, hmore⟩ := delimited_unsigned cause p.1 hp
        refine ⟨hr.trans (List.suffix_cons _ s), fun hne more => ?_⟩
        rw [hmore hne more]
        rfl
      · simp only [List.cons_append, readNumeral_of_ne hc] at h ⊢
        exact delimited_unsigned cause n h

theorem outcome_readNumber_eq (s : List Char) :
    outcome (readNumber s) = (outcome (readNumeral .endInValue s)).bind fun p =>
      p.1.value.toOption.map fun v => (v, p.2) := by
  rw [readNumber]
  rcases readNumeral .endInValue s with fault | ⟨n, rest⟩
  · rfl
  simp only [bind, Except.bind, outcome_ok, Option.bind_some]
  cases n.value <;> rfl

theorem delimited_readNumber (v : Number) :
    Delimited fun s r => outcome (readNumber s) = some (v, r) := by
  intro s r h
  simp only [outcome_readNumber_eq] at h ⊢
  obtain ⟨p, hp, hvalue⟩ := Option.bind_eq_some_iff.1 h
  obtain ⟨x, hx, hpair⟩ := Option.map_eq_some_iff.1 hvalue
  obtain ⟨rfl, rfl⟩ := Prod.mk.inj hpair
  obtain ⟨hr, hmore⟩ := delimited_readNumeral .endInValue p.1 hp
  refine ⟨hr, fun hne more => ?_⟩
  rw [hmore hne more, Option.bind_some, hx, Option.map_some]

end Telemetry.Json
