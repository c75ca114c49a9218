import Telemetry.Decimal.Shortest
import Telemetry.Text.Measure
import Telemetry.Text.Quoted

/-!
Why a JSON text was refused, and where.

A reader works on the characters it has not consumed yet and knows nothing of
lines. So a `Fault` records a cause and how many bytes were still unread, and
only `Fault.locate` turns that into the line and column that a message shows.
Two places occur: just before the unread text, and one byte into it.
-/

namespace Telemetry.Json

/-- What stood where something else was wanted. -/
inductive Found where
  | null
  | boolean (b : Bool)
  | integer (n : Int)
  | real (x : Binary64)
  | text (s : String)
  | list
  | object
  deriving DecidableEq, Repr

/-- Why a text was refused. -/
inductive Cause where
  | endInValue
  | endInList
  | endInObject
  | endInText
  | expectedValue
  | expectedWord
  | expectedColon
  | expectedCommaOrBracket
  | expectedCommaOrBrace
  | keyNotText
  | trailingComma
  | trailingCharacters
  | invalidNumber
  | numberOutOfRange
  | invalidEscape
  | controlCharacter
  | loneSurrogate
  | brokenSurrogatePair
  | wrongType (found : Found) (wanted : String)
  | outOfRange (n : Int) (wanted : String)
  | missingField (name : String)
  | duplicateField (name : String)
  | wrongLength (got : Nat) (record : String) (wanted : Nat)
  deriving DecidableEq, Repr

/-- The three families of causes: broken grammar, a text that stops early, and
well-formed data of the wrong shape. -/
inductive Family where
  | grammar
  | cutShort
  | data
  deriving DecidableEq, Repr

def Cause.family : Cause → Family
  | .endInValue | .endInList | .endInObject | .endInText => .cutShort
  | .wrongType .. | .outOfRange .. | .missingField _ | .duplicateField _ | .wrongLength .. => .data
  | _ => .grammar

def Found.describe : Found → String
  | .null => "null"
  | .boolean b => if b then "boolean `true`" else "boolean `false`"
  | .integer n => s!"integer `{n}`"
  | .real x => "floating point `" ++ Decimal.shortestText x ++ "`"
  | .text s => "string " ++ Text.quoted s
  | .list => "sequence"
  | .object => "map"

def Cause.describe : Cause → String
  | .endInValue => "EOF while parsing a value"
  | .endInList => "EOF while parsing a list"
  | .endInObject => "EOF while parsing an object"
  | .endInText => "EOF while parsing a string"
  | .expectedValue => "expected value"
  | .expectedWord => "expected ident"
  | .expectedColon => "expected `:`"
  | .expectedCommaOrBracket => "expected `,` or `]`"
  | .expectedCommaOrBrace => "expected `,` or `\x7d`"
  | .keyNotText => "key must be a string"
  | .trailingComma => "trailing comma"
  | .trailingCharacters => "trailing characters"
  | .invalidNumber => "invalid number"
  | .numberOutOfRange => "number out of range"
  | .invalidEscape => "invalid escape"
  | .controlCharacter =>
    "control character (\\u0000-\\u001F) found while parsing a string"
  | .loneSurrogate => "lone leading surrogate in hex escape"
  | .brokenSurrogatePair => "unexpected end of hex escape"
  | .wrongType found wanted => "invalid type: " ++ found.describe ++ ", expected " ++ wanted
  | .outOfRange n wanted => s!"invalid value: integer `{n}`, expected " ++ wanted
  | .missingField name => "missing field `" ++ name ++ "`"
  | .duplicateField name => "duplicate field `" ++ name ++ "`"
  | .wrongLength got record wanted =>
    s!"invalid length {got}, expected struct " ++ record ++ s!" with {wanted} elements"

/-- A cause together with the number of bytes left unread at its place. -/
structure Fault where
  cause : Cause
  unread : Nat
  deriving DecidableEq, Repr

/-- A fault just before the unread text. -/
def Fault.before (rest : List Char) (cause : Cause) : Fault :=
  ⟨cause, Text.byteLength rest⟩

/-- A fault one byte into the unread text, or at its end if there is none. -/
def Fault.into (rest : List Char) (cause : Cause) : Fault :=
  ⟨cause, Text.byteLength rest - 1⟩

/-- A place in a text: the line counted from one, the column in bytes. -/
structure Position where
  line : Nat
  column : Nat
  deriving DecidableEq, Repr

def Position.start : Position := ⟨1, 0⟩

/-- The place after one whole character. -/
def Position.step (p : Position) (c : Char) : Position :=
  if c = '\n' then ⟨p.line + 1, 0⟩ else ⟨p.line, p.column + c.utf8Size⟩

/-- The place after `count` bytes of a text, which may fall inside a character. -/
def Position.advance (p : Position) : Nat → List Char → Position
  | _, [] => p
  | count, c :: cs =>
    if c.utf8Size ≤ count then (p.step c).advance (count - c.utf8Size) cs
    else ⟨p.line, p.column + count⟩

/-- Why a text was refused, with the place in it. -/
structure Error where
  cause : Cause
  position : Position
  deriving DecidableEq, Repr

def Fault.locate (text : List Char) (fault : Fault) : Error :=
  ⟨fault.cause, Position.start.advance (Text.byteLength text - fault.unread) text⟩

def Error.message (e : Error) : String :=
  e.cause.describe ++ s!" at line {e.position.line} column {e.position.column}"

end Telemetry.Json
