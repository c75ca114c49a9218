import Telemetry.Json.Number

/-!
Passing over a value of no interest.

A member under an unknown key may hold any JSON value, nested to any depth. It
is passed over without recursion into its structure: the brackets still open are
kept as a list, innermost first, and `skipFrom` walks through the text with one
look at it per step. Numbers are only checked for their grammar, and strings may
hold surrogates that pair with nothing.
-/

namespace Telemetry.Json

/-- An open bracket. -/
inductive Bracket where
  | list
  | object
  deriving DecidableEq, Repr

def Bracket.closer : Bracket → Char
  | .list => ']'
  | .object => '}'

/-- The cause given where a text ends inside a bracket. -/
def Bracket.atEnd : Bracket → Cause
  | .list => .endInList
  | .object => .endInObject

/-- The cause given where an item is followed by neither a comma nor the closing bracket. -/
def Bracket.expectedComma : Bracket → Cause
  | .list => .expectedCommaOrBracket
  | .object => .expectedCommaOrBrace

/-- What comes next while values are passed over. -/
inductive Awaiting where
  /-- A value. -/
  | value
  /-- The next item of the innermost bracket: its key, if it is an object. -/
  | item
  /-- The innermost bracket may close, and after an item a comma may follow. -/
  | closing (afterItem : Bool)
  deriving DecidableEq, Repr

/-- Orders the kinds of steps that may follow each other without reading anything. -/
def Awaiting.rank : Awaiting → Nat
  | .value => 0
  | .item => 1
  | .closing _ => 2

/-- A value without brackets, passed over. The text starts with its first character. -/
def skipScalar (c : Char) (rest : List Char) : Except Fault (Rest (rest.length + 1)) :=
  if c = 'n' then readWord ['u', 'l', 'l'] rest
  else if c = 't' then readWord ['r', 'u', 'e'] rest
  else if c = 'f' then readWord ['a', 'l', 's', 'e'] rest
  else if c = '"' then (skipString rest).map Rest.succ
  else if c = '-' ∨ c.isDigit then
    (readNumeral .invalidNumber (c :: rest)).map (·.2)
  else .error (.into (c :: rest) .expectedValue)

/-- The key of a member with its quotes, and the colon behind it. -/
def skipKey (s : List Char) : Except Fault (Rest (s.length + 1)) :=
  match h : skipBlanks s with
  | [] => .error (.into [] .endInObject)
  | c :: rest =>
    if c = '"' then do
      let r ← skipString rest
      match h' : skipBlanks r.1 with
      | [] => throw (.into [] .endInObject)
      | c' :: rest' =>
        if c' = ':' then
          return ⟨rest', by
            have := r.2
            have := length_lt_of_skipBlanks h
            have := length_lt_of_skipBlanks h'
            omega⟩
        else throw (.into (c' :: rest') .expectedColon)
    else .error (.into (c :: rest) .keyNotText)

/-- Passes over one value, given the brackets still open and what comes next. -/
def skipFrom (bound : Nat) (next : Awaiting) (stack : List Bracket) (s : List Char)
    (le : s.length ≤ bound) : Except Fault (Rest (bound + 1)) :=
  match next with
  | .value =>
    match h : skipBlanks s with
    | [] => .error (.into [] .endInValue)
    | c :: rest =>
      have shorter : rest.length < s.length := length_lt_of_skipBlanks h
      if c = '[' then
        skipFrom bound (.closing false) (.list :: stack) rest (length_le_of_skipBlanks h le)
      else if c = '{' then
        skipFrom bound (.closing false) (.object :: stack) rest (length_le_of_skipBlanks h le)
      else
        match skipScalar c rest with
        | .error e => .error e
        | .ok r =>
          have := r.2
          skipFrom bound (.closing true) stack r.1 (by omega)
  | .item =>
    match stack with
    | .object :: _ =>
      match skipKey s with
      | .error e => .error e
      | .ok r => skipFrom bound .value stack r.1 (by have := r.2; omega)
    | _ => skipFrom bound .value stack s le
  | .closing afterItem =>
    match stack with
    | [] => .ok ⟨s, Nat.lt_succ_of_le le⟩
    | bracket :: outer =>
      match h : skipBlanks s with
      | [] => .error (.into [] bracket.atEnd)
      | c :: rest =>
        have shorter : rest.length < s.length := length_lt_of_skipBlanks h
        if c = ',' ∧ afterItem then
          skipFrom bound .item stack rest (length_le_of_skipBlanks h le)
        else if c = bracket.closer then
          skipFrom bound (.closing true) outer rest (length_le_of_skipBlanks h le)
        else if afterItem then .error (.into (c :: rest) bracket.expectedComma)
        else skipFrom bound .item stack s le
termination_by 3 * s.length + next.rank
decreasing_by all_goals (simp only [Awaiting.rank]; omega)

/-- Passes over one value. -/
def skipValue (s : List Char) : Except Fault (Rest (s.length + 1)) :=
  skipFrom s.length .value [] s (Nat.le_refl _)

end Telemetry.Json
