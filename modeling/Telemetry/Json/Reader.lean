import Telemetry.Json.Skip

/-!
Reading typed values.

A `Reader α` reads one value of type `α` from the front of a text, straight from
its characters, and always consumes something. The readers for texts, integers
and doubles refuse everything else with a description of what they found;
`Reader.list` reads an array of any length, and `Reader.optional` allows `null`.

`decode` runs a reader over a whole text: blanks may follow the value, and
nothing else.
-/

namespace Telemetry.Json

/-- Reads one value and answers it with the characters left over. -/
abbrev Reader (α : Type) := (s : List Char) → Except Fault (α × Rest s.length)

/-- Reads a value and changes it. -/
def Reader.map {α β : Type} (f : α → β) (read : Reader α) : Reader β := fun s =>
  (read s).map fun (a, r) => (f a, r)

/-- Skips the blanks before a value, which must be there. -/
def withFirst {α : Type} (s : List Char)
    (read : (c : Char) → (rest : List Char) → Except Fault (α × Rest (rest.length + 1))) :
    Except Fault (α × Rest s.length) :=
  match h : skipBlanks s with
  | [] => .error (.into [] .endInValue)
  | c :: rest =>
    (read c rest).map fun (a, r) => (a, r.weaken (length_lt_of_skipBlanks h))

/-! ### Refusals -/

/-- Reads far enough to say what stands there: words, numbers and strings are read whole,
brackets are left alone. -/
def describeFound (c : Char) (rest : List Char) : Except Fault (Found × List Char) :=
  if c = 'n' then (readWord ['u', 'l', 'l'] rest).map fun r => (.null, r.1)
  else if c = 't' then (readWord ['r', 'u', 'e'] rest).map fun r => (.boolean true, r.1)
  else if c = 'f' then (readWord ['a', 'l', 's', 'e'] rest).map fun r => (.boolean false, r.1)
  else if c = '"' then (readString rest).map fun (s, r) => (.text (String.ofList s), r.1)
  else if c = '-' ∨ c.isDigit then
    (readNumber (c :: rest)).map fun (n, r) =>
      match n with
      | .integer i => (.integer i, r.1)
      | .real x => (.real x, r.1)
  else if c = '[' then .ok (.list, c :: rest)
  else if c = '{' then .ok (.object, c :: rest)
  else .error (.into (c :: rest) .expectedValue)

/-- The fault of a value that is not of the wanted type. -/
def wrongType (wanted : String) (c : Char) (rest : List Char) : Fault :=
  match describeFound c rest with
  | .ok (found, left) => .before left (.wrongType found wanted)
  | .error fault => fault

/-! ### Scalars -/

/-- Reads a string; `wanted` names what it is for. -/
def Reader.text (wanted : String) : Reader String := fun s =>
  withFirst s fun c rest =>
    if c = '"' then
      (readString rest).map fun (cs, r) => (String.ofList cs, r.succ)
    else .error (wrongType wanted c rest)

/-- A range of integers, with the name it has in messages. -/
structure IntegerRange where
  name : String
  least : Int
  greatest : Int
  deriving Repr

/-- Reads a number into a type, given what to make of integers and of doubles. -/
def Reader.number {α : Type} (wanted : String) (ofInteger : Int → Except Cause α)
    (ofReal : Binary64 → Except Cause α) : Reader α := fun s =>
  withFirst s fun c rest =>
    if c = '-' ∨ c.isDigit then do
      let (n, r) ← readNumber (c :: rest)
      let converted := match n with
        | .integer i => ofInteger i
        | .real x => ofReal x
      match converted with
      | .ok a => return (a, r)
      | .error cause => throw (.before r.1 cause)
    else .error (wrongType wanted c rest)

/-- Reads an integer of a range; a double is refused even if it is whole. -/
def Reader.integer (range : IntegerRange) : Reader Int :=
  Reader.number range.name
    (fun i => if range.least ≤ i ∧ i ≤ range.greatest then .ok i
      else .error (.outOfRange i range.name))
    (fun x => .error (.wrongType (.real x) range.name))

/-- Reads any number as a double. -/
def Reader.real : Reader Binary64 :=
  Reader.number "f64" (fun i => .ok (.ofInt i)) .ok

/-- A natural number of 64 bits; `name` is what messages call the type. -/
def Reader.unsigned64 (name : String) : Reader UInt64 :=
  (Reader.integer ⟨name, 0, 2 ^ 64 - 1⟩).map fun i => UInt64.ofNat i.toNat

def Reader.unsigned32 : Reader UInt32 :=
  (Reader.integer ⟨"u32", 0, 2 ^ 32 - 1⟩).map fun i => UInt32.ofNat i.toNat

def Reader.signed64 : Reader Int64 :=
  (Reader.integer ⟨"i64", -2 ^ 63, 2 ^ 63 - 1⟩).map Int64.ofInt

/-- Reads a value, or `null` for none. -/
def Reader.optional {α : Type} (read : Reader α) : Reader (Option α) := fun s =>
  match h : skipBlanks s with
  | 'n' :: rest =>
    (readWord ['u', 'l', 'l'] rest).map fun r => (none, r.weaken (length_lt_of_skipBlanks h))
  | _ => (read s).map fun (a, r) => (some a, r)

/-! ### Arrays -/

/-- What comes next in an array: an item, with the text from its first character on, or the
closing bracket, with the text behind it. -/
inductive NextItem (n : Nat) where
  | item (start : List Char) (le : start.length ≤ n)
  | closing (rest : List Char) (lt : rest.length < n)

/-- Looks for the next item of an array, which a comma must precede unless it is the first. -/
def nextItem (first : Bool) (s : List Char) : Except Fault (NextItem s.length) :=
  match h : skipBlanks s with
  | [] => .error (.into [] .endInList)
  | c :: rest =>
    have shorter : rest.length < s.length := length_lt_of_skipBlanks h
    if c = ']' then .ok (.closing rest shorter)
    else if first then .ok (.item (c :: rest) shorter)
    else if c = ',' then
      match h' : skipBlanks rest with
      | [] => .error (.into [] .endInValue)
      | c' :: rest' =>
        if c' = ']' then .error (.into (c' :: rest') .trailingComma)
        else .ok (.item (c' :: rest') (Nat.lt_trans (length_lt_of_skipBlanks h') shorter))
    else .error (.into (c :: rest) .expectedCommaOrBracket)

/-- Reads the items of an array whose opening bracket has been read, closing bracket included. -/
def readItems {α : Type} (read : Reader α) (first : Bool) (s : List Char) :
    Except Fault (List α × Rest s.length) :=
  match nextItem first s with
  | .error fault => .error fault
  | .ok (.closing rest lt) => .ok ([], ⟨rest, lt⟩)
  | .ok (.item start le) => do
    let (a, r) ← read start
    let (as, r') ← readItems read false r.1
    return (a :: as, ⟨r'.1, by have := r.2; have := r'.2; omega⟩)
termination_by s.length
decreasing_by
  have := r.2
  omega

/-- Reads an array of any length. -/
def Reader.list {α : Type} (read : Reader α) : Reader (List α) := fun s =>
  withFirst s fun c rest =>
    if c = '[' then
      (readItems read true rest).map fun (as, r) => (as, r.succ)
    else .error (wrongType "a sequence" c rest)

/-! ### Whole texts -/

/-- Reads a whole text as one value. -/
def decode {α : Type} (read : Reader α) (text : String) : Except Error α :=
  let all := text.toList
  let result : Except Fault α := do
    let (a, r) ← read all
    match skipBlanks r.1 with
    | [] => return a
    | rest => throw (.into rest .trailingCharacters)
  result.mapError (Fault.locate all)

end Telemetry.Json
