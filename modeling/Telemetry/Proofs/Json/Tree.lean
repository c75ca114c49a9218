import Telemetry.Json.Number

/-!
JSON trees and their texts.

A tree has many texts: blanks may stand before every token, and a character of a
string may be written as itself, as a letter behind a backslash or by the numbers
of its UTF-16 code units. `Tree.tokens` leaves the first choice open and
`Token.IsWritten` the second, so that `Tree.IsText` relates a tree to all of its
texts. What a string holds is a list of code units, because an escape can name
half of a surrogate pair; a key is a proper string.
-/

namespace Telemetry.Json

/-! ### Code units -/

/-- The UTF-16 code units of a character. -/
def unitsOf (c : Char) : List Nat :=
  if c.toNat < 0x10000 then [c.toNat]
  else [0xD800 + (c.toNat - 0x10000) / 0x400, 0xDC00 + (c.toNat - 0x10000) % 0x400]

/-- The UTF-16 code units of a text. -/
def utf16 (s : String) : List Nat := s.toList.flatMap unitsOf

/-- The characters of code units, if all surrogates among them make pairs. -/
def decodeUnits : List Nat → Option (List Char)
  | [] => some []
  | unit :: units =>
    if isHighSurrogate unit then
      match units with
      | [] => none
      | low :: units =>
        if isLowSurrogate low then (decodeUnits units).map (joinSurrogates unit low :: ·)
        else none
    else if isLowSurrogate unit then none
    else (decodeUnits units).map (Char.ofNat unit :: ·)

/-! ### Trees and tokens -/

inductive Tree where
  | null
  | boolean (b : Bool)
  | number (n : Numeral)
  | text (units : List Nat)
  | list (items : List Tree)
  | object (members : List (String × Tree))

inductive Token where
  | mark (c : Char)
  | word (w : List Char)
  | numeral (n : Numeral)
  | text (units : List Nat)

/-- The comma before an item, unless it is the first. -/
def comma (first : Bool) : List Token := if first then [] else [.mark ',']

mutual
def Tree.tokens : Tree → List Token
  | .null => [.word ['n', 'u', 'l', 'l']]
  | .boolean true => [.word ['t', 'r', 'u', 'e']]
  | .boolean false => [.word ['f', 'a', 'l', 's', 'e']]
  | .number n => [.numeral n]
  | .text units => [.text units]
  | .list items => .mark '[' :: itemTokens true items
  | .object members => .mark '{' :: memberTokens true members

/-- The items of an array up to its closing bracket. -/
def itemTokens (first : Bool) : List Tree → List Token
  | [] => [.mark ']']
  | v :: vs => comma first ++ (v.tokens ++ itemTokens false vs)

/-- The members of an object up to its closing brace. -/
def memberTokens (first : Bool) : List (String × Tree) → List Token
  | [] => [.mark '}']
  | (key, v) :: ms =>
    comma first ++ .text (utf16 key) :: .mark ':' :: (v.tokens ++ memberTokens false ms)
end

/-! ### Texts -/

/-- How code units may be written between quotes. -/
inductive Spelling : List Nat → List Char → Prop where
  | nil : Spelling [] []
  | literal {c : Char} {us : List Nat} {t : List Char} (quote : c ≠ '"') (escape : c ≠ '\\')
      (control : 0x20 ≤ c.toNat) (rest : Spelling us t) : Spelling (unitsOf c ++ us) (c :: t)
  | letter {l c : Char} {us : List Nat} {t : List Char} (stands : unescapeLetter? l = some c)
      (rest : Spelling us t) : Spelling (unitsOf c ++ us) ('\\' :: l :: t)
  | unit {a b c d : Char} {u : Nat} {us : List Nat} {t : List Char}
      (stands : hexValue? [a, b, c, d] = some u) (rest : Spelling us t) :
      Spelling (u :: us) ('\\' :: 'u' :: a :: b :: c :: d :: t)

/-- Digits without a superfluous zero in front. -/
inductive IsWhole : List Char → Prop where
  | zero : IsWhole ['0']
  | digits {c : Char} {cs : List Char} (first : c.isDigit) (nonzero : c ≠ '0')
      (rest : ∀ d ∈ cs, d.isDigit) : IsWhole (c :: cs)

/-- How decimals are written, if there are any. -/
inductive IsDecimals : List Char → List Char → Prop where
  | none : IsDecimals [] []
  | some {ds : List Char} (nonempty : ds ≠ []) (digits : ∀ d ∈ ds, d.isDigit) :
      IsDecimals ds ('.' :: ds)

/-- How the sign of an exponent may be written. -/
inductive IsSign : Bool → List Char → Prop where
  | none : IsSign false []
  | plus : IsSign false ['+']
  | minus : IsSign true ['-']

/-- How an exponent may be written, if there is one. -/
inductive IsExponent : Option Exponent → List Char → Prop where
  | none : IsExponent none []
  | some {e : Char} {negative : Bool} {sign ds : List Char} (letter : e = 'e' ∨ e = 'E')
      (signed : IsSign negative sign) (nonempty : ds ≠ []) (digits : ∀ d ∈ ds, d.isDigit) :
      IsExponent (some ⟨negative, ds⟩) (e :: (sign ++ ds))

/-- How a numeral may be written. -/
structure Numeral.IsWritten (n : Numeral) (t : List Char) : Prop where
  whole : IsWhole n.whole
  parts : ∃ decimals exponent, IsDecimals n.decimals decimals ∧ IsExponent n.exponent exponent ∧
    t = (if n.negative then ['-'] else []) ++ (n.whole ++ (decimals ++ exponent))

def Token.IsWritten : Token → List Char → Prop
  | .mark c, t => t = [c]
  | .word w, t => t = w
  | .numeral n, t => n.IsWritten t
  | .text units, t => ∃ s, Spelling units s ∧ t = '"' :: (s ++ ['"'])

/-- A text begins with tokens, each of them perhaps behind blanks, and goes on with a rest. -/
inductive Begins : List Token → List Char → List Char → Prop where
  | nil (rest : List Char) : Begins [] rest rest
  | cons {token : Token} {tokens : List Token} {blanks t s rest : List Char}
      (blank : ∀ c ∈ blanks, isBlank c) (written : token.IsWritten t)
      (begins : Begins tokens s rest) : Begins (token :: tokens) (blanks ++ (t ++ s)) rest

/-- A text of a tree; blanks may follow the last token. -/
def Tree.IsText (v : Tree) (text : String) : Prop :=
  ∃ blanks, (∀ c ∈ blanks, isBlank c) ∧ Begins v.tokens text.toList blanks

/-! ### Writing a text from its front -/

/-- Characters may stand for themselves, except the quote, the backslash and the control
characters. -/
theorem Spelling.plain {cs : List Char} (h : ∀ c ∈ cs, c ≠ '"' ∧ c ≠ '\\' ∧ 0x20 ≤ c.toNat) :
    Spelling (cs.flatMap unitsOf) cs := by
  induction cs with
  | nil => exact nil
  | cons c cs ih =>
      obtain ⟨⟨quote, escape, control⟩, hcs⟩ := List.forall_mem_cons.mp h
      exact literal quote escape control (ih hcs)

/-- A whole number is written by its digits. -/
theorem IsWhole.isWritten {cs : List Char} (h : IsWhole cs) :
    (Token.numeral ⟨false, cs, [], none⟩).IsWritten cs :=
  ⟨h, [], [], .none, .none, by simp⟩

namespace Begins

variable {token : Token} {tokens more : List Token} {s t rest : List Char}

theorem blank {c : Char} (hc : isBlank c) (h : Begins (token :: tokens) s rest) :
    Begins (token :: tokens) (c :: s) rest := by
  cases h with
  | @cons _ _ blanks t s _ blank written begins =>
      have hblanks : ∀ b ∈ c :: blanks, isBlank b := by simpa [hc] using blank
      exact cons hblanks written begins

theorem written (ht : token.IsWritten t) (h : Begins tokens s rest) :
    Begins (token :: tokens) (t ++ s) rest :=
  @cons _ _ [] _ _ _ (by simp) ht h

theorem mark (c : Char) (h : Begins tokens s rest) :
    Begins (.mark c :: tokens) (c :: s) rest :=
  written (t := [c]) rfl h

theorem text {units : List Nat} (hs : Spelling units t) (h : Begins tokens s rest) :
    Begins (.text units :: tokens) ('"' :: (t ++ '"' :: s)) rest := by
  have hwritten : (Token.text units).IsWritten ('"' :: (t ++ ['"'])) := ⟨t, hs, rfl⟩
  simpa using written hwritten h

theorem of_append (h : Begins (tokens ++ more) s rest) :
    ∃ t, Begins tokens s t ∧ Begins more t rest := by
  induction tokens generalizing s with
  | nil => exact ⟨s, .nil s, h⟩
  | cons token tokens ih =>
      cases h with
      | cons blank written begins =>
          obtain ⟨t, htokens, hmore⟩ := ih begins
          exact ⟨t, cons blank written htokens, hmore⟩

theorem eq_of_nil (h : Begins [] s rest) : s = rest := by
  cases h
  rfl

end Begins

/-! ### Reading a text from its front -/

theorem skipBlanks_eq_self {c : Char} (hc : isBlank c = false) (s : List Char) :
    skipBlanks (c :: s) = c :: s := by
  simp [skipBlanks, hc]

theorem skipBlanks_append {blanks : List Char} (h : ∀ c ∈ blanks, isBlank c) (s : List Char) :
    skipBlanks (blanks ++ s) = skipBlanks s :=
  List.dropWhile_append_of_pos h

theorem skipBlanks_eq_nil {s : List Char} (h : ∀ c ∈ s, isBlank c) : skipBlanks s = [] := by
  simpa [skipBlanks] using skipBlanks_append h []

namespace Begins

variable {tokens : List Token} {s rest : List Char}

theorem of_mark {c : Char} (hc : isBlank c = false) (h : Begins (.mark c :: tokens) s rest) :
    ∃ t, skipBlanks s = c :: t ∧ Begins tokens t rest := by
  cases h with
  | @cons _ _ _ _ t _ blank written begins =>
      refine ⟨t, ?_, begins⟩
      rw [skipBlanks_append blank, show _ = [c] from written]
      exact skipBlanks_eq_self hc t

theorem of_word {c : Char} {cs : List Char} (hc : isBlank c = false)
    (h : Begins (.word (c :: cs) :: tokens) s rest) :
    ∃ t, skipBlanks s = c :: (cs ++ t) ∧ Begins tokens t rest := by
  cases h with
  | @cons _ _ _ _ t _ blank written begins =>
      refine ⟨t, ?_, begins⟩
      rw [skipBlanks_append blank, show _ = c :: cs from written]
      exact skipBlanks_eq_self hc _

theorem of_text {units : List Nat} (h : Begins (.text units :: tokens) s rest) :
    ∃ spelled t, Spelling units spelled ∧ skipBlanks s = '"' :: (spelled ++ '"' :: t) ∧
      Begins tokens t rest := by
  cases h with
  | @cons _ _ _ _ t _ blank written begins =>
      obtain ⟨spelled, hspelled, rfl⟩ := written
      refine ⟨spelled, t, hspelled, ?_, begins⟩
      rw [skipBlanks_append blank]
      simpa using skipBlanks_eq_self (by decide) _

end Begins

/-! ### First characters -/

/-- The characters that a text of a tree can start with. -/
def Tree.StartsWith : Tree → Char → Prop
  | .null, c => c = 'n'
  | .boolean b, c => c = if b then 't' else 'f'
  | .number _, c => c = '-' ∨ c.isDigit
  | .text _, c => c = '"'
  | .list _, c => c = '['
  | .object _, c => c = '{'

theorem Tree.StartsWith.ne_bracket {v : Tree} {c : Char} (h : v.StartsWith c) : c ≠ ']' := by
  rintro rfl
  cases v with
  | boolean b => cases b <;> simp [Tree.StartsWith] at h
  | _ => simp [Tree.StartsWith] at h

theorem IsWhole.exists_digit {t : List Char} (h : IsWhole t) :
    ∃ c cs, t = c :: cs ∧ c.isDigit = true := by
  cases h with
  | zero => exact ⟨'0', [], rfl, rfl⟩
  | @digits c cs first nonzero rest => exact ⟨c, cs, rfl, first⟩

theorem Numeral.IsWritten.exists_first {n : Numeral} {t : List Char} (h : n.IsWritten t) :
    ∃ c cs, t = c :: cs ∧ (c = '-' ∨ c.isDigit) := by
  obtain ⟨hwhole, decimals, exponent, -, -, rfl⟩ := h
  obtain ⟨c, cs, hcs, hc⟩ := hwhole.exists_digit
  cases n.negative with
  | false => exact ⟨c, cs ++ (decimals ++ exponent), by simp [hcs], .inr hc⟩
  | true => exact ⟨'-', _, rfl, .inl rfl⟩

theorem isBlank_of_first {c : Char} (hc : c = '-' ∨ c.isDigit) : isBlank c = false := by
  refine Bool.eq_false_iff.mpr fun hblank => ?_
  simp only [isBlank, Bool.or_eq_true, decide_eq_true_eq] at hblank
  rcases hblank with ((rfl | rfl) | rfl) | rfl <;> exact absurd hc (by decide)

namespace Begins

variable {tokens : List Token} {s rest : List Char}

theorem of_numeral {n : Numeral} (h : Begins (.numeral n :: tokens) s rest) :
    ∃ c t m, (c = '-' ∨ c.isDigit) ∧ n.IsWritten (c :: t) ∧ skipBlanks s = c :: (t ++ m) ∧
      Begins tokens m rest := by
  cases h with
  | @cons _ _ _ _ m _ blank written begins =>
      obtain ⟨c, t, rfl, hc⟩ := Numeral.IsWritten.exists_first written
      refine ⟨c, t, m, hc, written, ?_, begins⟩
      rw [skipBlanks_append blank]
      exact skipBlanks_eq_self (isBlank_of_first hc) _

/-- Where the blanks before a tree end, a character of the tree stands. -/
theorem of_tree {v : Tree} (h : Begins (v.tokens ++ tokens) s rest) :
    ∃ c t, skipBlanks s = c :: t ∧ v.StartsWith c ∧ Begins (v.tokens ++ tokens) (c :: t) rest := by
  cases v with
  | null =>
      obtain ⟨t, hs, ht⟩ := of_word (by decide) h
      exact ⟨_, _, hs, rfl, written (t := ['n', 'u', 'l', 'l']) rfl ht⟩
  | boolean b =>
      cases b with
      | false =>
          obtain ⟨t, hs, ht⟩ := of_word (by decide) h
          exact ⟨_, _, hs, rfl, written (t := ['f', 'a', 'l', 's', 'e']) rfl ht⟩
      | true =>
          obtain ⟨t, hs, ht⟩ := of_word (by decide) h
          exact ⟨_, _, hs, rfl, written (t := ['t', 'r', 'u', 'e']) rfl ht⟩
  | number n =>
      obtain ⟨c, t, m, hc, hn, hs, hm⟩ := h.of_numeral
      exact ⟨_, _, hs, hc, written (t := c :: t) hn hm⟩
  | text units =>
      obtain ⟨spelled, t, hspelled, hs, ht⟩ := of_text h
      exact ⟨_, _, hs, rfl, text hspelled ht⟩
  | list items =>
      obtain ⟨t, hs, ht⟩ := of_mark (by decide) h
      exact ⟨_, _, hs, rfl, mark '[' ht⟩
  | object members =>
      obtain ⟨t, hs, ht⟩ := of_mark (by decide) h
      exact ⟨_, _, hs, rfl, mark '{' ht⟩

theorem exists_first {v : Tree} (h : Begins v.tokens s rest) :
    ∃ c t, skipBlanks s = c :: t ∧ v.StartsWith c := by
  rw [← List.append_nil v.tokens] at h
  obtain ⟨c, t, hs, hc, -⟩ := h.of_tree
  exact ⟨c, t, hs, hc⟩

end Begins

end Telemetry.Json
