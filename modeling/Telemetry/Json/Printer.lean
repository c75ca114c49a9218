import Telemetry.Json.Scan

/-!
Writing JSON.

An object is written with one member to a line, indented by two blanks. In a
string only the quote, the backslash and the control characters are escaped.
-/

namespace Telemetry.Json

/-- A value that takes one line. -/
inductive Scalar where
  | natural (n : Nat)
  | text (s : String)
  deriving DecidableEq, Repr

/-- A hexadecimal digit in lower case. -/
def hexDigit (n : Nat) : Char := Nat.digitChar n

/-- One character of a string as it is written. -/
def escapeChar (c : Char) : List Char :=
  if c = '"' then ['\\', '"']
  else if c = '\\' then ['\\', '\\']
  else if c = '\x08' then ['\\', 'b']
  else if c = '\t' then ['\\', 't']
  else if c = '\n' then ['\\', 'n']
  else if c = '\x0c' then ['\\', 'f']
  else if c = '\r' then ['\\', 'r']
  else if c.toNat < 0x20 then
    ['\\', 'u', '0', '0', hexDigit (c.toNat / 16), hexDigit (c.toNat % 16)]
  else [c]

/-- A string between its quotes. -/
def printString (s : String) : List Char := '"' :: (s.toList.flatMap escapeChar ++ ['"'])

def Scalar.print : Scalar → List Char
  | .natural n => Nat.toDigits 10 n
  | .text s => printString s

def printMember (member : String × Scalar) : List Char :=
  [' ', ' '] ++ printString member.1 ++ [':', ' '] ++ member.2.print

/-- The lines of the members, separated by commas. -/
def printMembers : List (String × Scalar) → List Char
  | [] => []
  | [m] => printMember m
  | m :: ms => printMember m ++ [',', '\n'] ++ printMembers ms

/-- An object, one member to a line. -/
def printObject (members : List (String × Scalar)) : String :=
  if members.isEmpty then String.ofList ['{', '}']
  else String.ofList (['{', '\n'] ++ printMembers members ++ ['\n', '}'])

end Telemetry.Json
