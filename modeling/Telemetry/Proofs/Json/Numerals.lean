import Telemetry.Proofs.Json.Outcome
import Telemetry.Proofs.Json.Tree

/-!
Reading numbers.

A numeral that is written out is read back, provided that what follows cannot be
taken for more of it: no digit, no point and no letter of an exponent. A comma, a
closing bracket and a blank all end a number, and so does the end of the text.
-/

namespace Telemetry.Json

variable {s t m ds : List Char}

/-! ### Where a number ends -/

/-- A text that does not go on with a digit. -/
def NoDigit (s : List Char) : Prop := ∀ c ∈ s.head?, c.isDigit = false

/-- A text that does not go on with more of a number. -/
def EndsNumber (s : List Char) : Prop :=
  ∀ c ∈ s.head?, c.isDigit = false ∧ c ≠ '.' ∧ c ≠ 'e' ∧ c ≠ 'E'

theorem EndsNumber.noDigit (h : EndsNumber s) : NoDigit s := fun c hc => (h c hc).1

theorem endsNumber_of_blanks (h : ∀ c ∈ s, isBlank c) : EndsNumber s := by
  intro c hc
  have hblank := h c (List.mem_of_head? hc)
  simp only [isBlank, Bool.or_eq_true, decide_eq_true_eq] at hblank
  rcases hblank with ((rfl | rfl) | rfl) | rfl <;> decide

theorem Begins.endsNumber {c : Char} {tokens : List Token} {rest : List Char}
    (h : Begins (.mark c :: tokens) s rest)
    (hc : c.isDigit = false ∧ c ≠ '.' ∧ c ≠ 'e' ∧ c ≠ 'E') : EndsNumber s := by
  cases h with
  | @cons _ _ blanks _ t _ blank written begins =>
      cases blanks with
      | nil =>
          obtain rfl : _ = [c] := written
          rintro _ ⟨⟩
          exact hc
      | cons b blanks =>
          exact endsNumber_of_blanks (s := [b]) (by simpa using blank b (by simp))

theorem Begins.endsNumber_items {items : List Tree} (h : Begins (itemTokens false items) s m) :
    EndsNumber s := by
  cases items with
  | nil => exact h.endsNumber (by decide)
  | cons v vs => exact h.endsNumber (by decide)

theorem Begins.endsNumber_members {members : List (String × Tree)}
    (h : Begins (memberTokens false members) s m) : EndsNumber s := by
  cases members with
  | nil => exact h.endsNumber (by decide)
  | cons member ms => exact h.endsNumber (by decide)

/-! ### Digits -/

theorem takeWhile_digits (hds : ∀ d ∈ ds, d.isDigit) (hs : NoDigit s) :
    (ds ++ s).takeWhile Char.isDigit = ds := by
  rw [List.takeWhile_append_of_pos hds]
  cases s with
  | nil => simp
  | cons c s => simp [hs c rfl]

theorem dropWhile_digits (hds : ∀ d ∈ ds, d.isDigit) (hs : NoDigit s) :
    (ds ++ s).dropWhile Char.isDigit = s := by
  rw [List.dropWhile_append_of_pos hds]
  cases s with
  | nil => rfl
  | cons c s => simp [hs c rfl]

theorem outcome_readDigits (cause : Cause) (hne : ds ≠ []) (hds : ∀ d ∈ ds, d.isDigit)
    (hs : NoDigit s) : outcome (readDigits cause (ds ++ s)) = some (ds, s) := by
  cases ds with
  | nil => exact absurd rfl hne
  | cons d ds =>
      have htail : ∀ d ∈ ds, d.isDigit := fun d hd => hds d (List.mem_cons_of_mem _ hd)
      rw [List.cons_append, readDigits, if_pos (hds d (by simp)), outcome_ok,
        takeWhile_digits htail hs]
      simp [Rest.behindDigits, dropWhile_digits htail hs]

theorem outcome_readWhole (cause : Cause) (h : IsWhole t) (hs : NoDigit s) :
    outcome (readWhole cause (t ++ s)) = some (t, s) := by
  cases h with
  | zero =>
      have hnext : s.head?.any Char.isDigit = false := by
        cases s with
        | nil => rfl
        | cons c s => exact hs c rfl
      simp [readWhole, hnext]
  | digits first nonzero rest =>
      rw [List.cons_append, readWhole, if_neg nonzero, if_pos first, outcome_ok,
        takeWhile_digits rest hs]
      simp [Rest.behindDigits, dropWhile_digits rest hs]

/-! ### Decimals and exponents -/

theorem outcome_readDecimals (cause : Cause) (h : IsDecimals ds t) (hs : NoDigit s)
    (hpoint : '.' ∉ s.head?) : outcome (readDecimals cause (t ++ s)) = some (ds, s) := by
  cases h with
  | none =>
      rw [List.nil_append, readDecimals]
      · rfl
      · rintro rest rfl
        exact hpoint rfl
  | some nonempty digits =>
      rw [List.cons_append, readDecimals, outcome_map_rest (by simp),
        outcome_readDigits cause nonempty digits hs]

theorem exponentSign_append {negative : Bool} {sign : List Char} (h : IsSign negative sign)
    (hne : ds ≠ []) (hds : ∀ d ∈ ds, d.isDigit) :
    exponentSign (sign ++ ds ++ s) = (negative, ds ++ s) := by
  cases h with
  | plus => rfl
  | minus => rfl
  | none =>
      obtain ⟨d, ds, rfl⟩ := List.exists_cons_of_ne_nil hne
      have hdigit : d.isDigit = true := hds d (by simp)
      rw [List.nil_append, List.cons_append, exponentSign]
      · rintro rest hd
        rw [(List.cons.inj hd).1] at hdigit
        exact absurd hdigit (by decide)
      · rintro rest hd
        rw [(List.cons.inj hd).1] at hdigit
        exact absurd hdigit (by decide)

theorem outcome_readExponent (cause : Cause) {e? : Option Exponent} (h : IsExponent e? t)
    (hs : EndsNumber s) : outcome (readExponent cause (t ++ s)) = some (e?, s) := by
  cases h with
  | none =>
      cases s with
      | nil => rfl
      | cons c s =>
          obtain ⟨-, -, he, hE⟩ := hs c rfl
          simp [readExponent, he, hE]
  | @some e negative sign ds letter signed nonempty digits =>
      have hsign := exponentSign_append (s := s) signed nonempty digits
      rw [List.cons_append, readExponent, if_pos letter,
        outcome_map (g := fun read => some ⟨(exponentSign (sign ++ ds ++ s)).1, read⟩)
          (fun _ _ => ⟨rfl, rfl⟩), hsign, outcome_readDigits cause nonempty digits hs.noDigit]
      rfl

/-! ### Numerals -/

/-- An exponent is no digit and no point. -/
theorem IsExponent.boundary {e? : Option Exponent} (h : IsExponent e? t) (hs : EndsNumber s) :
    NoDigit (t ++ s) ∧ '.' ∉ (t ++ s).head? := by
  cases h with
  | none =>
      refine ⟨hs.noDigit, fun hpoint => ?_⟩
      exact (hs _ hpoint).2.1 rfl
  | some letter signed nonempty digits =>
      rcases letter with rfl | rfl <;> simp [NoDigit]

theorem IsDecimals.noDigit (h : IsDecimals ds t) (hs : NoDigit s) : NoDigit (t ++ s) := by
  cases h with
  | none => exact hs
  | some nonempty digits => simp [NoDigit]

theorem outcome_unsigned (cause : Cause) {whole decimals exponent : List Char}
    {e? : Option Exponent} (hwhole : IsWhole whole) (hdecimals : IsDecimals ds decimals)
    (hexponent : IsExponent e? exponent) (hs : EndsNumber s) :
    outcome (readNumeral.unsigned cause (whole ++ (decimals ++ (exponent ++ s)))) =
      some (⟨false, whole, ds, e?⟩, s) := by
  obtain ⟨hdigit, hpoint⟩ := hexponent.boundary hs
  obtain ⟨_, hread₁⟩ :=
    eq_ok_of_outcome (outcome_readWhole cause hwhole (hdecimals.noDigit hdigit))
  obtain ⟨_, hread₂⟩ :=
    eq_ok_of_outcome (outcome_readDecimals cause hdecimals hdigit hpoint)
  obtain ⟨_, hread₃⟩ := eq_ok_of_outcome (outcome_readExponent cause hexponent hs)
  simp [readNumeral.unsigned, hread₁, hread₂, hread₃, bind, Except.bind, pure, Except.pure]

theorem readNumeral_of_ne {cause : Cause} {c : Char} (hc : c ≠ '-') (cs : List Char) :
    readNumeral cause (c :: cs) = readNumeral.unsigned cause (c :: cs) := by
  rw [readNumeral]
  rintro rest hrest
  exact hc (List.cons.inj hrest).1

/-- A numeral is read back where it ends. -/
theorem outcome_readNumeral (cause : Cause) {n : Numeral} (h : n.IsWritten t) (hs : EndsNumber s) :
    outcome (readNumeral cause (t ++ s)) = some (n, s) := by
  obtain ⟨negative, whole, ds, e?⟩ := n
  obtain ⟨hwhole, decimals, exponent, hdecimals, hexponent, rfl⟩ := h
  have hunsigned : outcome (readNumeral.unsigned cause (whole ++ (decimals ++ exponent) ++ s)) =
      some (⟨false, whole, ds, e?⟩, s) := by
    rw [List.append_assoc, List.append_assoc]
    exact outcome_unsigned cause hwhole hdecimals hexponent hs
  cases negative with
  | false =>
      -- the reader looks for a sign first, and a digit is none
      obtain ⟨c, cs, hcs, hc⟩ := hwhole.exists_digit
      obtain rfl : whole = c :: cs := hcs
      have hminus : c ≠ '-' := by rintro rfl; exact absurd hc (by decide)
      exact (congrArg outcome (readNumeral_of_ne hminus _)).trans hunsigned
  | true =>
      obtain ⟨_, hread⟩ := eq_ok_of_outcome hunsigned
      show outcome (readNumeral cause ('-' :: (whole ++ (decimals ++ exponent) ++ s))) = _
      rw [readNumeral, hread]
      rfl

theorem outcome_readNumber {n : Numeral} (h : n.IsWritten t) (hs : EndsNumber s) :
    outcome (readNumber (t ++ s)) = n.value.toOption.map fun v => (v, s) := by
  obtain ⟨_, hread⟩ := eq_ok_of_outcome (outcome_readNumeral .endInValue h hs)
  rw [readNumber, hread]
  cases hvalue : n.value with
  | error left =>
      simp [hvalue, bind, Except.bind, Except.toOption, throw, throwThe, MonadExceptOf.throw]
  | ok v => simp [hvalue, bind, Except.bind, Except.toOption, pure, Except.pure]

end Telemetry.Json
