import Telemetry.Json.Reader

/-!
Reading records.

A record is described by its `Field`s, in order: a name, a reader and, unless the
field is required, a default. It may be written as an object, with the members
in any order and others between them, or as an array of the fields in their
order, where fields with a default may be left off at the end.

While the members of an object go by, the values seen so far are a `Draft`, one
optional value per field. The finished record is a `Row`, the product of the
field types.

A field that is missing, occurs twice or lies beyond the end of an array is
noticed inside the brackets, but reported from behind them if the closing
bracket comes next.
-/

namespace Telemetry.Json

/-- A named field of a record. -/
structure Field where
  name : String
  Value : Type
  read : Reader Value
  /-- The value of a field that does not occur, unless it is required. -/
  default? : Option Value

/-- A field that must occur. -/
def Field.required {α : Type} (name : String) (read : Reader α) : Field := ⟨name, α, read, none⟩

/-- A field that may be left out. -/
def Field.withDefault {α : Type} (name : String) (read : Reader α) (default : α) : Field :=
  ⟨name, α, read, some default⟩

/-- The values of all fields. -/
def Row : List Field → Type
  | [] => Unit
  | f :: fs => f.Value × Row fs

/-- The values of the fields seen so far. -/
def Draft : List Field → Type
  | [] => Unit
  | f :: fs => Option f.Value × Draft fs

def Draft.empty : (fields : List Field) → Draft fields
  | [] => ()
  | _ :: fs => (none, Draft.empty fs)

/-- Completes a draft with defaults, or names the first field that is missing. -/
def Draft.finish : (fields : List Field) → Draft fields → Except Cause (Row fields)
  | [], () => .ok ()
  | f :: fs, (value?, draft) =>
    match value? <|> f.default? with
    | none => .error (.missingField f.name)
    | some value => (Draft.finish fs draft).map fun row => (value, row)

/-! ### Objects -/

/-- The place from which a fault inside an object is reported. -/
def pastBrace (s : List Char) : List Char :=
  match skipBlanks s with
  | '}' :: rest => rest
  | rest => rest

/-- What comes next in an object: a member, with the text behind its key, or the closing
brace, with the text behind it. -/
inductive NextMember (n : Nat) where
  | member (key : String) (rest : Rest n)
  | closing (rest : Rest n)

/-- Looks for the next member of an object, which a comma must precede unless it is the
first, and reads its key. -/
def nextMember (first : Bool) (s : List Char) : Except Fault (NextMember s.length) :=
  match h : skipBlanks s with
  | [] => .error (.into [] .endInObject)
  | c :: rest =>
    have shorter : rest.length < s.length := length_lt_of_skipBlanks h
    if c = '}' then .ok (.closing ⟨rest, shorter⟩)
    else if first then
      if c = '"' then key rest (Nat.le_of_lt shorter)
      else .error (.into (c :: rest) .keyNotText)
    else if c = ',' then
      match h' : skipBlanks rest with
      | [] => .error (.into [] .endInValue)
      | c' :: rest' =>
        if c' = '"' then
          key rest' (Nat.le_of_lt (Nat.lt_trans (length_lt_of_skipBlanks h') shorter))
        else if c' = '}' then .error (.into (c' :: rest') .trailingComma)
        else .error (.into (c' :: rest') .keyNotText)
    else .error (.into (c :: rest) .expectedCommaOrBrace)
where
  key (rest : List Char) (le : rest.length ≤ s.length) :
      Except Fault (NextMember s.length) :=
    (readString rest).map fun (cs, r) => .member (String.ofList cs) (r.weaken le)

/-- Reads the colon between a key and its value. -/
def readColon (s : List Char) : Except Fault (Rest s.length) :=
  match h : skipBlanks s with
  | [] => .error (.into [] .endInObject)
  | c :: rest =>
    if c = ':' then .ok ⟨rest, length_lt_of_skipBlanks h⟩
    else .error (.into (c :: rest) .expectedColon)

/-- Reads the value of a member into the field of its name. A second value for one field is
refused; a member that names no field is passed over. -/
def Draft.readMember (key : String) (s : List Char) :
    (fields : List Field) → Draft fields → Except Fault (Draft fields × Rest s.length)
  | [], () => do
    let r ← readColon s
    let r' ← skipValue r.1
    return ((), ⟨r'.1, by have := r.2; have := r'.2; omega⟩)
  | f :: fs, (value?, draft) =>
    if f.name = key then
      match value? with
      | some _ => .error (.before (pastBrace s) (.duplicateField f.name))
      | none => do
        let r ← readColon s
        let (value, r') ← f.read r.1
        return ((some value, draft), ⟨r'.1, by have := r.2; have := r'.2; omega⟩)
    else do
      let (draft, r) ← Draft.readMember key s fs draft
      return ((value?, draft), r)

/-- Reads the members of an object whose opening brace has been read, closing brace included. -/
def readMembers (fields : List Field) (draft : Draft fields) (first : Bool) (s : List Char) :
    Except Fault (Row fields × Rest s.length) :=
  match nextMember first s with
  | .error fault => .error fault
  | .ok (.closing r) =>
    match draft.finish with
    | .ok row => .ok (row, r)
    | .error cause => .error (.before r.1 cause)
  | .ok (.member key r) => do
    let (draft, r') ← draft.readMember key r.1
    let (row, r'') ← readMembers fields draft false r'.1
    return (row, ⟨r''.1, by have := r.2; have := r'.2; have := r''.2; omega⟩)
termination_by s.length
decreasing_by
  have := r.2
  have := r'.2
  omega

/-! ### Arrays of fields -/

/-- Fills the fields from `index` on with the items of an array. -/
def readColumns (record : String) (total index : Nat) (s : List Char) :
    (fields : List Field) → Except Fault (Row fields × Rest (s.length + 1))
  | [] => .ok ((), .whole s)
  | f :: fs =>
    match nextItem (index = 0) s with
    | .error fault => .error fault
    | .ok (.closing rest _) =>
      match f.default? with
      | none => .error (.before rest (.wrongLength index record total))
      | some value => do
        let (row, r) ← readColumns record total index s fs
        return ((value, row), r)
    | .ok (.item start le) => do
      let (value, r) ← f.read start
      let (row, r') ← readColumns record total (index + 1) r.1 fs
      return ((value, row), ⟨r'.1, by have := r.2; have := r'.2; omega⟩)

/-- Reads the closing bracket of an array that has all its fields. -/
def closeColumns (s : List Char) : Except Fault (Rest s.length) :=
  match h : skipBlanks s with
  | [] => .error (.into [] .endInList)
  | c :: rest =>
    if c = ']' then .ok ⟨rest, length_lt_of_skipBlanks h⟩
    else if c = ',' then
      match skipBlanks rest with
      | ']' :: rest' => .error (.into (']' :: rest') .trailingComma)
      | rest' => .error (.into rest' .trailingCharacters)
    else .error (.into (c :: rest) .trailingCharacters)

/-! ### Records -/

/-- Reads a record of the given name, as an object or as an array. -/
def Reader.record (name : String) (fields : List Field) : Reader (Row fields) := fun s =>
  withFirst s fun c rest =>
    if c = '[' then do
      let (row, r) ← readColumns name fields.length 0 rest fields
      let r' ← closeColumns r.1
      return (row, ⟨r'.1, by have := r.2; have := r'.2; omega⟩)
    else if c = '{' then
      (readMembers fields (.empty fields) true rest).map fun (row, r) =>
        (row, r.succ)
    else .error (wrongType ("struct " ++ name) c rest)

end Telemetry.Json
