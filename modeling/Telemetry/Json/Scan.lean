import Telemetry.Json.Fault

/-!
The tokens of JSON: blanks, words, strings.

A reading function takes the unread characters and answers what it read with
the characters left over. `Rest n` is such a remainder shorter than `n`, so a
function that reads until something stops it ends because its input shrinks,
and the type says so.
-/

namespace Telemetry.Json

/-- Characters left unread, fewer than `n`. -/
abbrev Rest (n : Nat) := { rest : List Char // rest.length < n }

def Rest.weaken {m n : Nat} (r : Rest m) (h : m ≤ n) : Rest n :=
  ⟨r.1, Nat.lt_of_lt_of_le r.2 h⟩

/-- The same remainder, with one more character read. -/
def Rest.succ {n : Nat} (r : Rest n) : Rest (n + 1) := r.weaken (Nat.le_succ n)

/-- What is left when one character has been read. -/
def Rest.whole (s : List Char) : Rest (s.length + 1) := ⟨s, Nat.lt_succ_self _⟩

@[simp] theorem Rest.val_weaken {m n : Nat} (r : Rest m) (h : m ≤ n) : (r.weaken h).1 = r.1 := rfl

@[simp] theorem Rest.val_succ {n : Nat} (r : Rest n) : r.succ.1 = r.1 := rfl

@[simp] theorem Rest.val_whole (s : List Char) : (Rest.whole s).1 = s := rfl

/-! ### Blanks and words -/

/-- The four blank characters of JSON. -/
def isBlank (c : Char) : Bool := c = ' ' || c = '\n' || c = '\t' || c = '\r'

def skipBlanks (s : List Char) : List Char := s.dropWhile isBlank

theorem length_skipBlanks_le (s : List Char) : (skipBlanks s).length ≤ s.length :=
  (List.dropWhile_suffix isBlank).length_le

theorem length_lt_of_skipBlanks {s rest : List Char} {c : Char} (h : skipBlanks s = c :: rest) :
    rest.length < s.length := by
  have hle := length_skipBlanks_le s
  rw [h] at hle
  exact hle

theorem length_le_of_skipBlanks {s rest : List Char} {c : Char} {n : Nat}
    (h : skipBlanks s = c :: rest) (hle : s.length ≤ n) : rest.length ≤ n :=
  Nat.le_trans (Nat.le_of_lt (length_lt_of_skipBlanks h)) hle

/-- Reads the characters of a word one after the other. -/
def readWord : (word s : List Char) → Except Fault (Rest (s.length + 1))
  | [], s => .ok (.whole s)
  | _ :: _, [] => .error (.before [] .endInValue)
  | w :: word, c :: s =>
    if c = w then (readWord word s).map Rest.succ
    else .error (.into (c :: s) .expectedWord)

/-! ### Strings -/

/-- The value of a hexadecimal digit of either case. -/
def hexDigit? (c : Char) : Option Nat :=
  if '0' ≤ c ∧ c ≤ '9' then some (c.toNat - '0'.toNat)
  else if 'a' ≤ c ∧ c ≤ 'f' then some (c.toNat - 'a'.toNat + 10)
  else if 'A' ≤ c ∧ c ≤ 'F' then some (c.toNat - 'A'.toNat + 10)
  else none

def hexValue? (digits : List Char) : Option Nat :=
  digits.foldlM (fun n c => (hexDigit? c).map (16 * n + ·)) 0

/-- Reads the four hexadecimal digits of an escape. With fewer than four bytes left the
text has ended; otherwise a bad digit is noticed only after all four bytes. -/
def readHex (s : List Char) : Except Fault (Nat × Rest s.length) :=
  match s with
  | a :: b :: c :: d :: rest =>
    match hexValue? [a, b, c, d] with
    | some n => .ok (n, ⟨rest, by simp only [List.length_cons]; omega⟩)
    | none => .error ⟨.invalidEscape, Text.byteLength (a :: b :: c :: d :: rest) - 4⟩
  | short =>
    if Text.byteLength short < 4 then .error (.before [] .endInText)
    else .error ⟨.invalidEscape, Text.byteLength short - 4⟩

/-- The character that a letter behind a backslash stands for. -/
def unescapeLetter? : Char → Option Char
  | '"' => some '"'
  | '\\' => some '\\'
  | '/' => some '/'
  | 'b' => some '\x08'
  | 'f' => some '\x0c'
  | 'n' => some '\n'
  | 'r' => some '\r'
  | 't' => some '\t'
  | _ => none

def isHighSurrogate (n : Nat) : Bool := 0xD800 ≤ n && n ≤ 0xDBFF

def isLowSurrogate (n : Nat) : Bool := 0xDC00 ≤ n && n ≤ 0xDFFF

/-- The character of a surrogate pair. -/
def joinSurrogates (high low : Nat) : Char :=
  Char.ofNat (0x10000 + (high - 0xD800) * 0x400 + (low - 0xDC00))

/-- Reads one given character in the middle of a surrogate pair. -/
def readPairMark (mark : Char) (s : List Char) : Except Fault (Rest s.length) :=
  match s with
  | [] => .error (.before [] .endInText)
  | c :: rest =>
    if c = mark then .ok (.whole rest)
    else .error (.into (c :: rest) .brokenSurrogatePair)

/-- Reads what follows `\u`: one character, or two surrogates that make one. -/
def readUnicodeEscape (s : List Char) : Except Fault (Char × Rest s.length) := do
  let (n, r) ← readHex s
  if isLowSurrogate n then throw (.before r.1 .loneSurrogate)
  if isHighSurrogate n then
    let r₁ ← readPairMark '\\' r.1
    let r₂ ← readPairMark 'u' r₁.1
    let (low, r₃) ← readHex r₂.1
    if isLowSurrogate low then
      return (joinSurrogates n low,
        ⟨r₃.1, by have := r.2; have := r₁.2; have := r₂.2; have := r₃.2; omega⟩)
    throw (.before r₃.1 .loneSurrogate)
  return (Char.ofNat n, r)

/-- Reads what follows a backslash. -/
def readEscape (s : List Char) : Except Fault (Char × Rest s.length) :=
  match s with
  | [] => .error (.before [] .endInText)
  | c :: rest =>
    if c = 'u' then
      (readUnicodeEscape rest).map fun (x, r) => (x, r.succ)
    else match unescapeLetter? c with
      | some x => .ok (x, .whole rest)
      | none => .error (.into (c :: rest) .invalidEscape)

/-- Reads the rest of a string whose opening quote has been read, closing quote included. -/
def readString (s : List Char) : Except Fault (List Char × Rest s.length) :=
  match s with
  | [] => .error (.before [] .endInText)
  | c :: rest =>
    if c = '"' then .ok ([], .whole rest)
    else if c = '\\' then do
      let (x, r) ← readEscape rest
      let (xs, r') ← readString r.1
      return (x :: xs, ⟨r'.1, by have := r.2; have := r'.2; simp only [List.length_cons]; omega⟩)
    else if c.toNat < 0x20 then .error (.into (c :: rest) .controlCharacter)
    else do
      let (xs, r) ← readString rest
      return (c :: xs, r.succ)
termination_by s.length
decreasing_by
  · have := r.2
    simp only [List.length_cons]
    omega
  · simp

/-! ### Strings whose content does not matter -/

/-- Passes over what follows a backslash; surrogates need not pair up. -/
def skipEscape (s : List Char) : Except Fault (Rest s.length) :=
  match s with
  | [] => .error (.before [] .endInText)
  | c :: rest =>
    if c = 'u' then (readHex rest).map fun (_, r) => r.succ
    else match unescapeLetter? c with
      | some _ => .ok (.whole rest)
      | none => .error (.into (c :: rest) .invalidEscape)

/-- Passes over the rest of a string. A control character is refused where it stands. -/
def skipString (s : List Char) : Except Fault (Rest s.length) :=
  match s with
  | [] => .error (.before [] .endInText)
  | c :: rest =>
    if c = '"' then .ok (.whole rest)
    else if c = '\\' then do
      let r ← skipEscape rest
      let r' ← skipString r.1
      return ⟨r'.1, by have := r.2; have := r'.2; simp only [List.length_cons]; omega⟩
    else if c.toNat < 0x20 then .error (.before (c :: rest) .controlCharacter)
    else (skipString rest).map Rest.succ
termination_by s.length
decreasing_by
  · have := r.2
    simp only [List.length_cons]
    omega
  · simp

end Telemetry.Json
