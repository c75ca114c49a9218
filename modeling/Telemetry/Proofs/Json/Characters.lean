import Telemetry.Proofs.Json.Outcome
import Telemetry.Proofs.Json.Tree

/-!
Reading strings.

Two functions read a string: `readString` for its characters and `skipString`
for its end. The first gives the characters of the code units that are spelled,
if their surrogates make pairs, and so depends on nothing else of the spelling;
the second accepts every spelling.
-/

namespace Telemetry.Json

variable {us : List Nat} {t : List Char}

/-! ### Code units -/

theorem isHighSurrogate_char (c : Char) : isHighSurrogate c.toNat = false := by
  have hvalid : c.toNat < 0xD800 ∨ 0xDFFF < c.toNat ∧ c.toNat < 0x110000 := c.valid
  simp only [isHighSurrogate, Bool.and_eq_false_iff, decide_eq_false_iff_not]
  omega

theorem isLowSurrogate_char (c : Char) : isLowSurrogate c.toNat = false := by
  have hvalid : c.toNat < 0xD800 ∨ 0xDFFF < c.toNat ∧ c.toNat < 0x110000 := c.valid
  simp only [isLowSurrogate, Bool.and_eq_false_iff, decide_eq_false_iff_not]
  omega

theorem isLowSurrogate_of_high {u : Nat} (h : isHighSurrogate u = true) :
    isLowSurrogate u = false := by
  simp only [isHighSurrogate, Bool.and_eq_true, decide_eq_true_eq] at h
  simp only [isLowSurrogate, Bool.and_eq_false_iff, decide_eq_false_iff_not]
  omega

theorem decodeUnits_cons {u : Nat} (hhigh : isHighSurrogate u = false)
    (hlow : isLowSurrogate u = false) (us : List Nat) :
    decodeUnits (u :: us) = (decodeUnits us).map (Char.ofNat u :: ·) := by
  cases us <;> simp [decodeUnits, hhigh, hlow]

theorem decodeUnits_low {u : Nat} (hhigh : isHighSurrogate u = false)
    (hlow : isLowSurrogate u = true) (us : List Nat) : decodeUnits (u :: us) = none := by
  cases us <;> simp [decodeUnits, hhigh, hlow]

theorem decodeUnits_unitsOf (c : Char) (us : List Nat) :
    decodeUnits (unitsOf c ++ us) = (decodeUnits us).map (c :: ·) := by
  rw [unitsOf]
  split
  · rw [List.singleton_append, decodeUnits_cons (isHighSurrogate_char c) (isLowSurrogate_char c),
      Char.ofNat_toNat]
  · next hlarge =>
      have hvalid : c.toNat < 0xD800 ∨ 0xDFFF < c.toNat ∧ c.toNat < 0x110000 := c.valid
      have hhigh : isHighSurrogate (0xD800 + (c.toNat - 0x10000) / 0x400) = true := by
        simp only [isHighSurrogate, Bool.and_eq_true, decide_eq_true_eq]
        omega
      have hlow : isLowSurrogate (0xDC00 + (c.toNat - 0x10000) % 0x400) = true := by
        simp only [isLowSurrogate, Bool.and_eq_true, decide_eq_true_eq]
        omega
      have hjoin : joinSurrogates (0xD800 + (c.toNat - 0x10000) / 0x400)
          (0xDC00 + (c.toNat - 0x10000) % 0x400) = c := by
        rw [joinSurrogates, show 0x10000 + (0xD800 + (c.toNat - 0x10000) / 0x400 - 0xD800) * 0x400 +
          (0xDC00 + (c.toNat - 0x10000) % 0x400 - 0xDC00) = c.toNat by omega]
        exact Char.ofNat_toNat c
      simp [decodeUnits, hhigh, hlow, hjoin]

theorem decodeUnits_flatMap (cs : List Char) : decodeUnits (cs.flatMap unitsOf) = some cs := by
  induction cs with
  | nil => rfl
  | cons c cs ih => rw [List.flatMap_cons, decodeUnits_unitsOf, ih, Option.map_some]

theorem decodeUnits_utf16 (s : String) : decodeUnits (utf16 s) = some s.toList :=
  decodeUnits_flatMap s.toList

/-- After the first half of a pair, the units of a character are out of place. -/
theorem decodeUnits_high_unitsOf {high : Nat} (hhigh : isHighSurrogate high = true) (c : Char)
    (us : List Nat) : decodeUnits (high :: (unitsOf c ++ us)) = none := by
  have hfirst : ∃ first rest, unitsOf c ++ us = first :: rest ∧ isLowSurrogate first = false := by
    rw [unitsOf]
    split
    · exact ⟨c.toNat, us, rfl, isLowSurrogate_char c⟩
    · refine ⟨_, _, rfl, ?_⟩
      have hvalid : c.toNat < 0xD800 ∨ 0xDFFF < c.toNat ∧ c.toNat < 0x110000 := c.valid
      simp only [isLowSurrogate, Bool.and_eq_false_iff, decide_eq_false_iff_not]
      omega
  obtain ⟨first, rest, hunits, hlow⟩ := hfirst
  simp [decodeUnits, hunits, hhigh, hlow]

/-! ### Escapes -/

theorem outcome_readHex {a b c d : Char} {u : Nat} (h : hexValue? [a, b, c, d] = some u)
    (rest : List Char) : outcome (readHex (a :: b :: c :: d :: rest)) = some (u, rest) := by
  simp [readHex, h]

theorem letter_ne_u {l c : Char} (h : unescapeLetter? l = some c) : l ≠ 'u' := by
  rintro rfl
  exact nomatch h

theorem outcome_readEscape_letter {l c : Char} (h : unescapeLetter? l = some c)
    (rest : List Char) : outcome (readEscape (l :: rest)) = some (c, rest) := by
  simp [readEscape, letter_ne_u h, h]

theorem outcome_readEscape_unit (rest : List Char) :
    outcome (readEscape ('u' :: rest)) = outcome (readUnicodeEscape rest) := by
  rw [readEscape, if_pos rfl, outcome_map_rest (by simp)]

section

variable {a b c d : Char} {u : Nat} {rest : List Char}

theorem outcome_readUnicodeEscape_char (h : hexValue? [a, b, c, d] = some u)
    (hlow : isLowSurrogate u = false) (hhigh : isHighSurrogate u = false) :
    outcome (readUnicodeEscape (a :: b :: c :: d :: rest)) = some (Char.ofNat u, rest) := by
  obtain ⟨lt, hread⟩ := eq_ok_of_outcome (outcome_readHex h rest)
  simp [readUnicodeEscape, hread, hlow, hhigh, bind, Except.bind, pure, Except.pure]

theorem outcome_readUnicodeEscape_low (h : hexValue? [a, b, c, d] = some u)
    (hlow : isLowSurrogate u = true) :
    outcome (readUnicodeEscape (a :: b :: c :: d :: rest)) = none := by
  obtain ⟨lt, hread⟩ := eq_ok_of_outcome (outcome_readHex h rest)
  simp [readUnicodeEscape, hread, hlow, bind, Except.bind, throw, throwThe, MonadExceptOf.throw]

theorem outcome_readUnicodeEscape_pair {a' b' c' d' : Char} {low : Nat}
    (h : hexValue? [a, b, c, d] = some u) (hlow : isLowSurrogate u = false)
    (hhigh : isHighSurrogate u = true) (h' : hexValue? [a', b', c', d'] = some low) :
    outcome (readUnicodeEscape
        (a :: b :: c :: d :: '\\' :: 'u' :: a' :: b' :: c' :: d' :: rest)) =
      if isLowSurrogate low then some (joinSurrogates u low, rest) else none := by
  obtain ⟨_, hfirst⟩ :=
    eq_ok_of_outcome (outcome_readHex h ('\\' :: 'u' :: a' :: b' :: c' :: d' :: rest))
  obtain ⟨_, hsecond⟩ := eq_ok_of_outcome (outcome_readHex h' rest)
  cases hpair : isLowSurrogate low <;>
    simp [readUnicodeEscape, hfirst, hsecond, hlow, hhigh, hpair, readPairMark, Rest.whole, bind,
      Except.bind, pure, Except.pure, throw, throwThe, MonadExceptOf.throw]

/-- The first half of a pair needs an escape by number right behind it. -/
theorem outcome_readUnicodeEscape_alone (h : hexValue? [a, b, c, d] = some u)
    (hlow : isLowSurrogate u = false) (hhigh : isHighSurrogate u = true)
    (halone : ∀ s, rest ≠ '\\' :: 'u' :: s) :
    outcome (readUnicodeEscape (a :: b :: c :: d :: rest)) = none := by
  obtain ⟨_, hread⟩ := eq_ok_of_outcome (outcome_readHex h rest)
  rcases rest with _ | ⟨x, s⟩
  · simp [readUnicodeEscape, hread, hlow, hhigh, readPairMark, bind, Except.bind]
  · by_cases hx : x = '\\'
    · subst hx
      rcases s with _ | ⟨y, s⟩
      · simp [readUnicodeEscape, hread, hlow, hhigh, readPairMark, Rest.whole, bind, Except.bind]
      · have hy : y ≠ 'u' := fun hy => halone s (by rw [hy])
        simp [readUnicodeEscape, hread, hlow, hhigh, readPairMark, hy, Rest.whole, bind,
          Except.bind]
    · simp [readUnicodeEscape, hread, hlow, hhigh, readPairMark, hx, bind, Except.bind]

end

/-! ### Strings -/

theorem readString_quote (m : List Char) : readString ('"' :: m) = .ok ([], .whole m) := by
  rw [readString, if_pos rfl]

theorem outcome_readString_literal {c : Char} (quote : c ≠ '"') (escape : c ≠ '\\')
    (control : 0x20 ≤ c.toNat) (s : List Char) :
    outcome (readString (c :: s)) = (outcome (readString s)).map fun p => (c :: p.1, p.2) := by
  rw [readString, if_neg quote, if_neg escape, if_neg (by omega)]
  cases readString s with
  | error fault => rfl
  | ok p => rfl

theorem outcome_readString_escape {x : Char} {s r : List Char}
    (h : outcome (readEscape s) = some (x, r)) :
    outcome (readString ('\\' :: s)) =
      (outcome (readString r)).map fun p => (x :: p.1, p.2) := by
  obtain ⟨lt, hread⟩ := eq_ok_of_outcome h
  rw [readString, if_neg (by decide), if_pos rfl, hread]
  show outcome (readString r >>= _) = _
  cases readString r with
  | error fault => rfl
  | ok p => rfl

theorem outcome_readString_bad {s : List Char} (h : outcome (readEscape s) = none) :
    outcome (readString ('\\' :: s)) = none := by
  obtain ⟨fault, hread⟩ := eq_error_of_outcome h
  rw [readString, if_neg (by decide), if_pos rfl, hread]
  rfl

/-- After the first half of a pair, any spelling but that of a unit is refused, and so is the
list of units. -/
theorem high_alone {high : Nat} (hhigh : isHighSurrogate high = true) (h : Spelling us t)
    (hunit : ∀ s, t ≠ '\\' :: 'u' :: s) (m : List Char) :
    decodeUnits (high :: us) = none ∧ ∀ s, t ++ '"' :: m ≠ '\\' :: 'u' :: s := by
  cases h with
  | nil => exact ⟨by simp [decodeUnits, hhigh], by simp⟩
  | literal quote escape control rest =>
      exact ⟨decodeUnits_high_unitsOf hhigh _ _, by simp [escape]⟩
  | letter stands rest =>
      exact ⟨decodeUnits_high_unitsOf hhigh _ _, by simp [letter_ne_u stands]⟩
  | unit stands rest => exact absurd rfl (hunit _)

/-- A string is read as the characters of its code units, however they are spelled. -/
theorem outcome_readString (h : Spelling us t) (m : List Char) :
    outcome (readString (t ++ '"' :: m)) = (decodeUnits us).map fun cs => (cs, m) := by
  -- A pair takes two escapes, so that the rest is not always the next smaller spelling.
  induction hlength : t.length using Nat.strongRecOn generalizing us t with
  | _ n ih =>
  subst hlength
  cases h with
  | nil => simp [readString_quote, decodeUnits]
  | @literal c us t quote escape control rest =>
      rw [List.cons_append, outcome_readString_literal quote escape control,
        ih _ (by simp only [List.length_cons]; omega) rest rfl, decodeUnits_unitsOf]
      simp [Function.comp_def]
  | @letter l c us t stands rest =>
      rw [List.cons_append, List.cons_append,
        outcome_readString_escape (outcome_readEscape_letter stands _),
        ih _ (by simp only [List.length_cons]; omega) rest rfl, decodeUnits_unitsOf]
      simp [Function.comp_def]
  | @unit a b c d u us t stands rest =>
      simp only [List.cons_append]
      cases hhigh : isHighSurrogate u with
      | false =>
          cases hlow : isLowSurrogate u with
          | true =>
              rw [outcome_readString_bad, decodeUnits_low hhigh hlow]
              · rfl
              · rw [outcome_readEscape_unit, outcome_readUnicodeEscape_low stands hlow]
          | false =>
              rw [outcome_readString_escape (x := Char.ofNat u) (r := t ++ '"' :: m),
                ih _ (by simp only [List.length_cons]; omega) rest rfl, decodeUnits_cons hhigh hlow]
              · simp [Function.comp_def]
              · rw [outcome_readEscape_unit, outcome_readUnicodeEscape_char stands hlow hhigh]
      | true =>
          have hlow : isLowSurrogate u = false := isLowSurrogate_of_high hhigh
          by_cases hunit : ∃ s, t = '\\' :: 'u' :: s
          · obtain ⟨s, rfl⟩ := hunit
            cases rest with
            | literal quote escape control rest => exact absurd rfl escape
            | letter stands rest => exact absurd rfl (letter_ne_u stands)
            | @unit a' b' c' d' low us t stands' rest =>
                cases hpair : isLowSurrogate low with
                | true =>
                    rw [outcome_readString_escape (x := joinSurrogates u low)
                      (r := t ++ '"' :: m), ih _ (by simp only [List.length_cons]; omega) rest rfl]
                    · simp [decodeUnits, hhigh, hpair, Function.comp_def]
                    · simp only [List.cons_append]
                      rw [outcome_readEscape_unit,
                        outcome_readUnicodeEscape_pair stands hlow hhigh stands', if_pos hpair]
                | false =>
                    rw [outcome_readString_bad]
                    · simp [decodeUnits, hhigh, hpair]
                    · simp only [List.cons_append]
                      rw [outcome_readEscape_unit,
                        outcome_readUnicodeEscape_pair stands hlow hhigh stands', hpair]
                      rfl
          · obtain ⟨hunits, halone⟩ := high_alone hhigh rest (fun s hs => hunit ⟨s, hs⟩) m
            rw [hunits, outcome_readString_bad]
            · rfl
            · rw [outcome_readEscape_unit,
                outcome_readUnicodeEscape_alone stands hlow hhigh halone]

/-! ### Strings whose content does not matter -/

theorem remainder_skipString_escape {s r : List Char}
    (h : remainder (skipEscape s) = some r) :
    remainder (skipString ('\\' :: s)) = remainder (skipString r) := by
  obtain ⟨lt, hskip⟩ := eq_ok_of_remainder h
  rw [skipString, if_neg (by decide), if_pos rfl, hskip]
  show remainder (skipString r >>= _) = _
  cases skipString r with
  | error fault => rfl
  | ok r => rfl

/-- Every spelling is passed over. -/
theorem remainder_skipString (h : Spelling us t) (m : List Char) :
    remainder (skipString (t ++ '"' :: m)) = some m := by
  induction h with
  | nil =>
      rw [List.nil_append, skipString, if_pos rfl]
      rfl
  | literal quote escape control rest ih =>
      rw [List.cons_append, skipString, if_neg quote, if_neg escape, if_neg (by omega),
        remainder_map Rest.val_succ, ih]
  | @letter l c us t stands rest ih =>
      rw [List.cons_append, List.cons_append, remainder_skipString_escape (r := t ++ '"' :: m),
        ih]
      simp [skipEscape, letter_ne_u stands, stands]
  | @unit a b c d u us t stands rest ih =>
      simp only [List.cons_append]
      rw [remainder_skipString_escape (r := t ++ '"' :: m), ih]
      obtain ⟨_, hhex⟩ := eq_ok_of_outcome (outcome_readHex stands (t ++ '"' :: m))
      rw [skipEscape, if_pos rfl, hhex]
      rfl

end Telemetry.Json
