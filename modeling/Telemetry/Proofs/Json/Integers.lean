import Telemetry.Proofs.Json.Places
import Telemetry.Proofs.Json.Printing

/-!
Number tokens as integers.

A token is taken apart into a numeral without loss: a token of digits alone can only be that of
the numeral with these digits and nothing else, and likewise behind a minus sign. So the tokens
that a field of an integer type accepts can be said outright, and with them the integer.
-/

namespace Telemetry.Json

variable {t : List Char} {n : Numeral} {i : Int}

/-! ### Tokens without decimals and exponent -/

theorem IsWhole.isDigit_of_mem (h : IsWhole t) : ∀ c ∈ t, c.isDigit := by
  cases h with
  | zero => exact List.forall_mem_singleton.mpr rfl
  | digits first _ rest => exact List.forall_mem_cons.mpr ⟨first, rest⟩

theorem IsWhole.plain (h : IsWhole t) : '.' ∉ t ∧ 'e' ∉ t ∧ 'E' ∉ t := by
  refine ⟨fun hmem => ?_, fun hmem => ?_, fun hmem => ?_⟩ <;>
    exact absurd (h.isDigit_of_mem _ hmem) (by decide)

theorem IsExponent.exists_letter {e : Exponent} (h : IsExponent (Option.some e) t) :
    ∃ c ∈ t, c.isDigit = false := by
  cases h with
  | @some c _ _ _ letter signed nonempty digits =>
      refine ⟨c, List.mem_cons_self, ?_⟩
      rcases letter with rfl | rfl <;> rfl

/-- A token of digits is that of the numeral with these digits. -/
theorem Numeral.IsWritten.eq_of_isWhole (h : n.IsWritten t) (ht : IsWhole t) :
    n = ⟨false, t, [], none⟩ := by
  obtain ⟨negative, whole, decimals, exponent⟩ := n
  obtain ⟨hwhole, ds, es, hdecimals, hexponent, rfl⟩ := h
  have hdigits := ht.isDigit_of_mem
  simp only [List.forall_mem_append] at hdigits
  obtain ⟨hsign, -, hds, hes⟩ := hdigits
  cases negative with
  | true => exact absurd (hsign '-' List.mem_cons_self) (by decide)
  | false =>
  cases hdecimals with
  | some => exact absurd (hds '.' List.mem_cons_self) (by decide)
  | none =>
  cases exponent with
  | some e =>
      obtain ⟨c, hc, hdigit⟩ := hexponent.exists_letter
      exact absurd (hes c hc) (by simp [hdigit])
  | none =>
      cases hexponent
      simp

theorem Numeral.IsWritten.of_minus (h : n.IsWritten ('-' :: t)) :
    n.negative = true ∧ Numeral.IsWritten { n with negative := false } t := by
  obtain ⟨negative, whole, decimals, exponent⟩ := n
  obtain ⟨hwhole, ds, es, hdecimals, hexponent, htext⟩ := h
  cases negative with
  | false =>
      obtain ⟨c, cs, hcs, hc⟩ := hwhole.exists_digit
      obtain rfl : whole = c :: cs := hcs
      obtain rfl : '-' = c := (List.cons.inj htext).1
      exact absurd hc (by decide)
  | true => exact ⟨rfl, hwhole, ds, es, hdecimals, hexponent, (List.cons.inj htext).2⟩

theorem Numeral.IsWritten.eq_of_minus (h : n.IsWritten ('-' :: t)) (ht : IsWhole t) :
    n = ⟨true, t, [], none⟩ := by
  obtain ⟨hnegative, hrest⟩ := h.of_minus
  have heq := hrest.eq_of_isWhole ht
  obtain ⟨negative, whole, decimals, exponent⟩ := n
  simp only [Numeral.mk.injEq] at heq hnegative ⊢
  exact ⟨hnegative, heq.2⟩

/-- The token of a numeral without decimals and exponent. -/
theorem Numeral.IsWritten.text_eq (h : n.IsWritten t) (hinteger : n.isInteger = true) :
    t = (if n.negative then ['-'] else []) ++ n.whole := by
  obtain ⟨negative, whole, decimals, exponent⟩ := n
  obtain ⟨hwhole, ds, es, hdecimals, hexponent, rfl⟩ := h
  simp only [isInteger, Bool.and_eq_true, List.isEmpty_iff, Option.isNone_iff_eq_none] at hinteger
  obtain ⟨rfl, rfl⟩ := hinteger
  cases hexponent
  cases hdecimals with
  | none => simp
  | some nonempty => exact absurd rfl nonempty

/-! ### The integer of a token -/

/-- The natural number of a token of digits, in base ten. -/
def tokenValue (t : List Char) : Nat := Nat.ofDigitChars 10 t 0

theorem digitsValue_eq_tokenValue (t : List Char) : digitsValue t = tokenValue t :=
  digitsValue_eq_ofDigitChars t

/-- A token that is the text of an integer and fits 64 bits, with the integer. A minus sign does
not stand before zero. -/
inductive Denotes : List Char → Int → Prop where
  | natural {t : List Char} (whole : IsWhole t) (le : tokenValue t ≤ 2 ^ 64 - 1) :
      Denotes t (tokenValue t)
  | negative {t : List Char} (whole : IsWhole t) (pos : 1 ≤ tokenValue t)
      (le : tokenValue t ≤ 2 ^ 63) : Denotes ('-' :: t) (-tokenValue t)

/-- The tokens that are read as integers and not as doubles. -/
theorem Numeral.value_eq_integer_iff (h : n.IsWritten t) :
    n.value = .ok (.integer i) ↔ Denotes t i := by
  constructor
  · intro hvalue
    have hwhole := h.whole
    rw [Numeral.value, digitsValue_eq_tokenValue] at hvalue
    split at hvalue
    · next hnatural =>
        simp only [Bool.and_eq_true, decide_eq_true_eq, Bool.not_eq_true'] at hnatural
        obtain ⟨⟨hinteger, hsign⟩, hle⟩ := hnatural
        obtain rfl : t = n.whole := by simpa [hsign] using h.text_eq hinteger
        obtain rfl := Number.integer.inj (Except.ok.inj hvalue)
        exact .natural hwhole hle
    split at hvalue
    · next hnegative =>
        simp only [Bool.and_eq_true, decide_eq_true_eq] at hnegative
        obtain ⟨⟨⟨hinteger, hsign⟩, hne⟩, hle⟩ := hnegative
        obtain rfl : t = '-' :: n.whole := by simpa [hsign] using h.text_eq hinteger
        obtain rfl := Number.integer.inj (Except.ok.inj hvalue)
        exact .negative hwhole (Nat.pos_of_ne_zero hne) hle
    · cases hmagnitude : n.magnitude <;> simp [hmagnitude, Except.map] at hvalue
  · intro hdenotes
    cases hdenotes with
    | natural whole le =>
        rw [h.eq_of_isWhole whole]
        simp [value, isInteger, digitsValue_eq_tokenValue, maxSignificand, le]
    | negative whole pos le =>
        rw [h.eq_of_minus whole]
        simp [value, isInteger, digitsValue_eq_tokenValue, le]
        omega

/-! ### Integer types -/

/-- The types of the integer fields. -/
inductive IntegerKind where
  | unsigned64
  | unsigned32
  | signed64
  deriving DecidableEq, Repr

namespace IntegerKind

/-- The tokens that a field of such a type accepts, with the integer that each one stands for:
digits without a superfluous zero, and for the signed type also a minus sign before such digits,
unless they are zero. -/
def Accepts (t : List Char) (i : Int) : IntegerKind → Prop
  | unsigned64 => IsWhole t ∧ tokenValue t ≤ 2 ^ 64 - 1 ∧ i = tokenValue t
  | unsigned32 => IsWhole t ∧ tokenValue t ≤ 2 ^ 32 - 1 ∧ i = tokenValue t
  | signed64 => (IsWhole t ∧ tokenValue t ≤ 2 ^ 63 - 1 ∧ i = tokenValue t) ∨
      ∃ ds, t = '-' :: ds ∧ IsWhole ds ∧ 1 ≤ tokenValue ds ∧ tokenValue ds ≤ 2 ^ 63 ∧
        i = -tokenValue ds

def least : IntegerKind → Int
  | unsigned64 | unsigned32 => 0
  | signed64 => -2 ^ 63

def greatest : IntegerKind → Int
  | unsigned64 => 2 ^ 64 - 1
  | unsigned32 => 2 ^ 32 - 1
  | signed64 => 2 ^ 63 - 1

/-- The accepted tokens are those of the integers in the range of the type. -/
theorem accepts_iff {kind : IntegerKind} :
    kind.Accepts t i ↔ Denotes t i ∧ kind.least ≤ i ∧ i ≤ kind.greatest := by
  constructor
  · intro h
    cases kind with
    | unsigned64 =>
        obtain ⟨whole, le, rfl⟩ := h
        exact ⟨.natural whole le, by simp only [least, greatest]; omega⟩
    | unsigned32 =>
        obtain ⟨whole, le, rfl⟩ := h
        exact ⟨.natural whole (by omega), by simp only [least, greatest]; omega⟩
    | signed64 =>
        rcases h with ⟨whole, le, rfl⟩ | ⟨ds, rfl, whole, pos, le, rfl⟩
        · exact ⟨.natural whole (by omega), by simp only [least, greatest]; omega⟩
        · exact ⟨.negative whole pos le, by simp only [least, greatest]; omega⟩
  · rintro ⟨hdenotes, hleast, hgreatest⟩
    cases hdenotes with
    | natural whole le =>
        cases kind with
        | unsigned64 => exact ⟨whole, le, rfl⟩
        | unsigned32 => exact ⟨whole, by simp only [greatest] at hgreatest; omega, rfl⟩
        | signed64 => exact .inl ⟨whole, by simp only [greatest] at hgreatest; omega, rfl⟩
    | negative whole pos le =>
        cases kind with
        | unsigned64 => exact absurd hleast (by simp only [least]; omega)
        | unsigned32 => exact absurd hleast (by simp only [least]; omega)
        | signed64 => exact .inr ⟨_, rfl, whole, pos, le, rfl⟩

theorem accepts_zero (kind : IntegerKind) : kind.Accepts ['0'] 0 := by
  refine accepts_iff.mpr ⟨.natural .zero (by decide), ?_⟩
  cases kind <;> decide

/-- No accepted token has decimals or an exponent. -/
theorem Accepts.plain {kind : IntegerKind} (h : kind.Accepts t i) :
    '.' ∉ t ∧ 'e' ∉ t ∧ 'E' ∉ t := by
  obtain ⟨hdenotes, -⟩ := accepts_iff.mp h
  cases hdenotes with
  | natural whole => exact whole.plain
  | negative whole => simpa using whole.plain

end IntegerKind

theorem Tree.integer?_number {least greatest : Int} (h : n.IsWritten t) :
    (Tree.number n).integer? least greatest = some i ↔
      Denotes t i ∧ least ≤ i ∧ i ≤ greatest := by
  rw [← Numeral.value_eq_integer_iff h, integer?, number?]
  cases n.value with
  | error left => simp [Except.toOption]
  | ok x =>
      cases x with
      | integer j =>
          simp only [Except.toOption, Option.bind_some, Except.ok.injEq, Number.integer.injEq]
          split <;> grind
      | real x => simp [Except.toOption]

/-! ### Values of integer types -/

theorem Tree.range_of_integer? {least greatest : Int} {v : Tree}
    (h : v.integer? least greatest = some i) : least ≤ i ∧ i ≤ greatest := by
  obtain ⟨x, -, hx⟩ := Option.bind_eq_some_iff.mp h
  cases x with
  | integer j =>
      obtain ⟨hrange, hj⟩ := Option.ite_none_right_eq_some.mp hx
      exact Option.some.inj hj ▸ hrange
  | real x => exact nomatch hx

namespace IntegerKind

variable {kind : IntegerKind} {α : Type} {value? : Tree → Option α} {toInt? : α → Option Int}

/-- The integer that a numeral stands for in a field of an integer type. -/
def integer? (kind : IntegerKind) (n : Numeral) : Option Int :=
  (Tree.number n).integer? kind.least kind.greatest

theorem integer?_eq_some_iff (h : n.IsWritten t) :
    kind.integer? n = some i ↔ kind.Accepts t i := by
  rw [accepts_iff, ← Tree.integer?_number h, integer?]

/-- A type with room for the whole range keeps every integer of the range. -/
theorem focuses_of_range (value? : Tree → Option α) {ofInt : Int → α}
    (hvalue : ∀ v, value? v = (v.integer? kind.least kind.greatest).map ofInt)
    (hroom : ∀ i, kind.least ≤ i → i ≤ kind.greatest → toInt? (ofInt i) = some i) :
    Focuses (fun n => value? (.number n)) kind.integer? toInt? where
  isSome_iff := ⟨True, fun n => by rw [hvalue, Option.isSome_map, and_true, integer?]⟩
  get?_eq {n a} ha := by
    rw [hvalue] at ha
    obtain ⟨i, hi, rfl⟩ := Option.map_eq_some_iff.mp ha
    obtain ⟨hleast, hgreatest⟩ := Tree.range_of_integer? hi
    rw [hroom i hleast hgreatest, integer?, hi]

theorem focuses_unsigned64 :
    Focuses (fun n => (Tree.number n).unsigned64?) unsigned64.integer?
      fun u => some (u.toNat : Int) := by
  refine focuses_of_range Tree.unsigned64? (fun v => rfl) fun i hleast hgreatest => ?_
  simp only [least, greatest] at hleast hgreatest
  rw [UInt64.toNat_ofNat_of_lt' (show i.toNat < 2 ^ 64 by omega), Int.toNat_of_nonneg hleast]

theorem focuses_unsigned32 :
    Focuses (fun n => (Tree.number n).unsigned32?) unsigned32.integer?
      fun u => some (u.toNat : Int) := by
  refine focuses_of_range Tree.unsigned32? (fun v => rfl) fun i hleast hgreatest => ?_
  simp only [least, greatest] at hleast hgreatest
  rw [UInt32.toNat_ofNat_of_lt' (show i.toNat < 2 ^ 32 by omega), Int.toNat_of_nonneg hleast]

theorem focuses_signed64 :
    Focuses (fun n => (Tree.number n).signed64?) signed64.integer? fun j => some j.toInt := by
  refine focuses_of_range Tree.signed64? (fun v => rfl) fun i hleast hgreatest => ?_
  simp only [least, greatest] at hleast hgreatest
  rw [Int64.toInt_ofInt_of_le hleast (by omega)]

/-- A value that may be null is not null where a number stands. -/
theorem focuses_optional (h : Focuses (fun n => value? (.number n)) kind.integer? toInt?) :
    Focuses (fun n => (Tree.number n).optional? value?) kind.integer? fun a? => a?.bind toInt? :=
  h.map some fun _ => rfl

end IntegerKind

end Telemetry.Json
