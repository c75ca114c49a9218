import Telemetry.Json.Printer
import Telemetry.Proofs.Decimal.Placed
import Telemetry.Proofs.Json.Characters
import Telemetry.Proofs.Json.Numerals

/-!
What is printed is a text of a tree.

The members of a printed object are scalars; the tree is the object of the same
members, each scalar as a tree of its own. Every character of a string is printed
as one of its spellings, and the digits of a number have no superfluous zero.
-/

namespace Telemetry.Json

/-! ### Strings -/

theorem hexValue?_control : ∀ n < 0x20,
    hexValue? ['0', '0', hexDigit (n / 16), hexDigit (n % 16)] = some n := by
  decide

theorem unitsOf_of_lt {c : Char} (h : c.toNat < 0x10000) : unitsOf c = [c.toNat] := by
  rw [unitsOf, if_pos h]

/-- A character is printed as one of its spellings. -/
theorem Spelling.escape {us : List Nat} {t : List Char} (c : Char) (rest : Spelling us t) :
    Spelling (unitsOf c ++ us) (escapeChar c ++ t) := by
  unfold escapeChar
  split
  · next h => exact letter (l := '"') (by rw [h]; rfl) rest
  split
  · next h => exact letter (l := '\\') (by rw [h]; rfl) rest
  split
  · next h => exact letter (l := 'b') (by rw [h]; rfl) rest
  split
  · next h => exact letter (l := 't') (by rw [h]; rfl) rest
  split
  · next h => exact letter (l := 'n') (by rw [h]; rfl) rest
  split
  · next h => exact letter (l := 'f') (by rw [h]; rfl) rest
  split
  · next h => exact letter (l := 'r') (by rw [h]; rfl) rest
  split
  · next h =>
      rw [unitsOf_of_lt (by omega)]
      exact unit (hexValue?_control c.toNat h) rest
  · next quote escape _ _ _ _ _ control => exact literal quote escape (by omega) rest

theorem spelling_escape (cs : List Char) :
    Spelling (cs.flatMap unitsOf) (cs.flatMap escapeChar) := by
  induction cs with
  | nil => exact .nil
  | cons c cs ih => exact .escape c ih

theorem Begins.printString {s : String} {tokens : List Token} {t rest : List Char}
    (h : Begins tokens t rest) :
    Begins (.text (utf16 s) :: tokens) (Json.printString s ++ t) rest := by
  simpa [Json.printString, utf16] using text (spelling_escape s.toList) h

/-! ### Numbers -/

theorem isWhole_toDigits (n : Nat) : IsWhole (Nat.toDigits 10 n) := by
  rcases Nat.eq_zero_or_pos n with rfl | hn
  · exact .zero
  · obtain ⟨c, cs, hcs, hc⟩ := Decimal.toDigits_first hn
    have hdigits : ∀ d ∈ Nat.toDigits 10 n, d.isDigit := fun d hd =>
      Nat.isDigit_of_mem_toDigits (by decide) (by decide) hd
    rw [hcs] at hdigits ⊢
    obtain ⟨hfirst, hrest⟩ := List.forall_mem_cons.mp hdigits
    exact .digits hfirst hc hrest

/-- The numeral of a natural number. -/
def Numeral.natural (n : Nat) : Numeral := ⟨false, Nat.toDigits 10 n, [], none⟩

theorem Numeral.isWritten_natural (n : Nat) : (natural n).IsWritten (Nat.toDigits 10 n) :=
  (isWhole_toDigits n).isWritten

theorem digitsValue_eq_ofDigitChars (ds : List Char) :
    digitsValue ds = Nat.ofDigitChars 10 ds 0 := by
  simp only [digitsValue, digitValue, Nat.ofDigitChars, Nat.mul_comm]

theorem Numeral.value_natural {n : Nat} (h : n ≤ maxSignificand) :
    (natural n).value = .ok (.integer n) := by
  have hvalue : digitsValue (Nat.toDigits 10 n) = n := by
    rw [digitsValue_eq_ofDigitChars, Nat.ofDigitChars_toDigits (by decide) (by decide)]
  simp [value, natural, isInteger, hvalue, h]

/-! ### Objects -/

/-- A scalar as a tree. -/
def Scalar.tree : Scalar → Tree
  | .natural n => .number (.natural n)
  | .text s => .text (utf16 s)

/-- The members of an object of scalars, as trees. -/
def memberTrees (members : List (String × Scalar)) : List (String × Tree) :=
  members.map fun member => (member.1, member.2.tree)

section

variable {tokens : List Token} {t rest : List Char}

theorem Begins.printScalar (scalar : Scalar) (h : Begins tokens t rest) :
    Begins (scalar.tree.tokens ++ tokens) (scalar.print ++ t) rest := by
  cases scalar with
  | natural n => exact written (Numeral.isWritten_natural n) h
  | text s => exact printString h

theorem Begins.printMember (member : String × Scalar) (h : Begins tokens t rest) :
    Begins (.text (utf16 member.1) :: .mark ':' :: (member.2.tree.tokens ++ tokens))
      (Json.printMember member ++ t) rest := by
  obtain ⟨key, scalar⟩ := member
  have hvalue : Begins (.mark ':' :: (scalar.tree.tokens ++ tokens))
      (':' :: ' ' :: (scalar.print ++ t)) rest := by
    refine mark ':' ?_
    -- `blank` needs the token behind it, and which token that is depends on the scalar
    cases scalar with
    | natural n => exact blank rfl (printScalar (.natural n) h)
    | text s => exact blank rfl (printScalar (.text s) h)
  simpa [Json.printMember] using blank rfl (blank rfl (printString hvalue))

/-- The lines of the members, with the closing brace on a line of its own. -/
theorem Begins.printMembers (member : String × Scalar) (members : List (String × Scalar))
    (rest : List Char) :
    Begins (memberTokens true (memberTrees (member :: members)))
      (Json.printMembers (member :: members) ++ '\n' :: '}' :: rest) rest := by
  induction members generalizing member with
  | nil => exact printMember member (blank rfl (mark '}' (nil rest)))
  | cons next members ih =>
      have hrest : Begins (memberTokens false (memberTrees (next :: members)))
          (',' :: '\n' :: (Json.printMembers (next :: members) ++ '\n' :: '}' :: rest)) rest :=
        mark ',' (blank rfl (ih next))
      have hall : Begins (memberTokens true (memberTrees (member :: next :: members)))
          (Json.printMember member ++ ',' :: '\n' ::
            (Json.printMembers (next :: members) ++ '\n' :: '}' :: rest)) rest :=
        printMember member hrest
      simpa [Json.printMembers] using hall

end

/-- What is printed is a text of the tree; blanks may follow it. -/
theorem isText_printObject (members : List (String × Scalar)) (blanks : String)
    (h : ∀ c ∈ blanks.toList, isBlank c) :
    (Tree.object (memberTrees members)).IsText (printObject members ++ blanks) := by
  refine ⟨blanks.toList, h, ?_⟩
  cases members with
  | nil =>
      have hbegins : Begins (Tree.object (memberTrees [])).tokens ('{' :: '}' :: blanks.toList)
          blanks.toList := .mark '{' (.mark '}' (.nil _))
      simpa [printObject] using hbegins
  | cons member members =>
      have hmembers := Begins.printMembers member members blanks.toList
      have hbegins : Begins (Tree.object (memberTrees (member :: members))).tokens
          ('{' :: '\n' :: (printMembers (member :: members) ++ '\n' :: '}' :: blanks.toList))
          blanks.toList := .mark '{' (.blank rfl hmembers)
      simpa [printObject] using hbegins

end Telemetry.Json
