import Telemetry.Text.Split
import Telemetry.Url.Percent

/-!
Internet addresses as hosts.

An IPv4 address may be written with fewer than four numbers, the last of which
then fills the bytes left over, and each number may be decimal, octal or
hexadecimal. An IPv6 address is eight groups; a run of zero groups may be left
out once. Both are written back in one way only.
-/

namespace Telemetry.Url

/-! ### IPv4 -/

/-- The value of digits, most significant first. -/
def digitsValue (radix : Nat) (cs : List Char) : Nat :=
  cs.foldl (fun n c => radix * n + (hexValue? c).getD 0) 0

/-- A number of an IPv4 address: hexadecimal behind `0x`, octal behind `0`, else decimal. -/
def ipv4Number? (cs : List Char) : Option Nat :=
  let read (radix : Nat) (digits : List Char) : Option Nat :=
    if digits.all fun c => (hexValue? c).any (· < radix) then some (digitsValue radix digits)
    else none
  match cs with
  | [] => none
  | '0' :: 'x' :: digits | '0' :: 'X' :: digits => read 16 digits
  | '0' :: d :: digits => read 8 (d :: digits)
  | digits => read 10 digits

/-- The parts of a name between points; a point at its end is passed over. -/
def nameParts (cs : List Char) : List (List Char) :=
  let parts := Text.splitOn (· = '.') cs
  if parts.getLast? = some [] then parts.dropLast else parts

/-- Whether the last part of a name is a number, so that the name has to be an address. -/
def endsInNumber (cs : List Char) : Bool :=
  match (nameParts cs).getLast? with
  | none => false
  | some last => (!last.isEmpty && last.all Char.isDigit) || (ipv4Number? last).isSome

/-- Reads the address that a name stands for. -/
def parseIPv4? (cs : List Char) : Option (BitVec 32) := do
  let parts := nameParts cs
  if 4 < parts.length then none
  let numbers ← parts.mapM ipv4Number?
  let last ← numbers.getLast?
  let others := numbers.dropLast
  if others.any (255 < ·) then none
  if 256 ^ (4 - others.length) ≤ last then none
  let high := (others ++ List.replicate (4 - others.length) 0).foldl (fun n x => 256 * n + x) 0
  return BitVec.ofNat 32 (high + last)

/-- An IPv4 address as four decimal numbers. -/
def ipv4Text (address : BitVec 32) : String :=
  let n := address.toNat
  s!"{n / 256 ^ 3}.{n / 256 ^ 2 % 256}.{n / 256 % 256}.{n % 256}"

/-! ### IPv6 -/

/-- The groups of an IPv6 address read so far. -/
structure Groups where
  before : List Nat
  /-- The groups behind the double colon, once there was one. -/
  after? : Option (List Nat)

namespace Groups

/-- How many of the eight groups are taken; a double colon stands for at least one. -/
def taken (g : Groups) : Nat :=
  match g.after? with
  | none => g.before.length
  | some after => g.before.length + 1 + after.length

def append (g : Groups) (values : List Nat) : Groups :=
  match g.after? with
  | none => { g with before := g.before ++ values }
  | some after => { g with after? := some (after ++ values) }

/-- The eight groups, zeros filled in for the double colon. -/
def finish (g : Groups) : Option (List Nat) :=
  match g.after? with
  | none => if g.before.length = 8 then some g.before else none
  | some after =>
    if g.taken ≤ 8 then
      some (g.before ++ List.replicate (8 - g.before.length - after.length) 0 ++ after)
    else none

end Groups

/-- A decimal number up to 255 without leading zeros. -/
def decimalByte? (cs : List Char) : Option Nat :=
  let n := digitsValue 10 cs
  if cs.isEmpty || !cs.all Char.isDigit || 255 < n || (1 < cs.length && cs.head? = some '0') then
    none
  else some n

/-- The two groups of an IPv4 address at the end of an IPv6 address. -/
def embeddedIPv4? (cs : List Char) : Option (List Nat) := do
  match ← (Text.splitOn (· = '.') cs).mapM decimalByte? with
  | [a, b, c, d] => some [256 * a + b, 256 * c + d]
  | _ => none

def isHexDigit (c : Char) : Bool := (hexValue? c).isSome

/-- Up to four hexadecimal digits. -/
def groupDigits (cs : List Char) : List Char := (cs.take 4).takeWhile isHexDigit

/-- Reads groups up to the end of the text. -/
def readGroups (g : Groups) (cs : List Char) : Option Groups :=
  match cs with
  | [] => some g
  | c :: rest =>
    if g.taken = 8 then none
    else if c = ':' then
      if g.after?.isSome then none else readGroups { g with after? := some [] } rest
    else
      let digits := groupDigits (c :: rest)
      let value := digitsValue 16 digits
      match _dropped : (c :: rest).drop digits.length with
      | [] => some (g.append [value])
      | '.' :: _ =>
        if digits.isEmpty || 6 < g.taken then none
        else (embeddedIPv4? (c :: rest)).map g.append
      | ':' :: rest' =>
        if rest'.isEmpty then none else readGroups (g.append [value]) rest'
      | _ => none
termination_by cs.length
decreasing_by
  · simp
  · have := congrArg List.length _dropped
    simp only [List.length_drop, List.length_cons] at this ⊢
    omega

/-- Reads an IPv6 address, without its brackets. -/
def parseIPv6? (cs : List Char) : Option (List Nat) :=
  match cs with
  | ':' :: ':' :: rest => (readGroups ⟨[], some []⟩ rest).bind Groups.finish
  | ':' :: _ => none
  | _ => (readGroups ⟨[], none⟩ cs).bind Groups.finish

/-- The length of the run of zeros at the front. -/
def zeroRun (groups : List Nat) : Nat := (groups.takeWhile (· = 0)).length

/-- Start and length of the longest run of zeros, the first one of several. -/
def longestZeroRun (index : Nat) : List Nat → Nat × Nat
  | [] => (index, 0)
  | g :: gs =>
    let later := longestZeroRun (index + 1) gs
    if later.2 ≤ zeroRun (g :: gs) then (index, zeroRun (g :: gs)) else later

def groupsText (groups : List Nat) : String :=
  ":".intercalate (groups.map fun g => String.ofList (Nat.toDigits 16 g))

/-- An IPv6 address, its longest run of at least two zero groups left out. -/
def ipv6Text (groups : List Nat) : String :=
  let (start, length) := longestZeroRun 0 groups
  if length < 2 then groupsText groups
  else groupsText (groups.take start) ++ "::" ++ groupsText (groups.drop (start + length))

end Telemetry.Url
