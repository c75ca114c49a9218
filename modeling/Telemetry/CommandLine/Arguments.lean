import Telemetry.CommandLine.Mistake
import Telemetry.CommandLine.Similarity
import Telemetry.Settings.Config

/-!
Reading the command line.

The arguments are read from left to right. A switch that takes a value has it
attached or waits for the next argument; that argument is its value unless it
looks like a switch itself. A value is looked at only when it is known to be
complete, that is, when the next argument begins; so of two mistakes an unknown
switch is reported before an unusable value in front of it. Help and version end
the reading at once.
-/

namespace Telemetry.CommandLine

/-- What the command line says. -/
structure Arguments where
  position? : Option String
  overrides : Overrides
  config? : Option String
  printConfig : Bool
  deriving DecidableEq, Repr

def Arguments.none : Arguments := ⟨.none, .none, .none, false⟩

/-- Why the reading ends early. -/
inductive Interruption where
  | help
  | version
  | mistake (m : Mistake)
  deriving DecidableEq, Repr

/-! ### Values -/

/-- Reads digits behind a number, and stops at the first character that is not a digit
or with which 64 bits no longer suffice. -/
def appendDigits : Nat → List Char → Except NumberFault Nat
  | n, [] => .ok n
  | n, c :: cs =>
    if !c.isDigit then .error .invalidDigit
    else
      let m := 10 * n + (c.toNat - '0'.toNat)
      if 2 ^ 64 ≤ m then .error .tooLarge else appendDigits m cs

/-- The natural number of 64 bits that a text stands for. -/
def parseNumber (s : String) : Except NumberFault UInt64 :=
  let digits := match s.toList with
    | '+' :: d :: rest => d :: rest
    | cs => cs
  if digits.isEmpty then .error .empty else (appendDigits 0 digits).map UInt64.ofNat

def numberFor (s : Switch) (text : String) : Except Mistake UInt64 :=
  (parseNumber text).mapError (.invalidNumber s text)

/-- A path must not be empty. -/
def pathFor (s : Switch) (text : String) : Except Mistake String :=
  if text.isEmpty then .error (.missingValue s) else .ok text

/-- Takes over the value of an argument. -/
def Arguments.set (a : Arguments) : Argument → String → Except Mistake Arguments
  | .url, text => .ok { a with position? := some text }
  | .switch .url, text => .ok { a with overrides.url? := some text }
  | .switch .intervalMs, text => do
    return { a with overrides.intervalMs? := some (← numberFor .intervalMs text) }
  | .switch .limit, text => do
    return { a with overrides.limit? := some (← numberFor .limit text) }
  | .switch .timeoutMs, text => do
    return { a with overrides.timeoutMs? := some (← numberFor .timeoutMs text) }
  | .switch .logFile, text => do
    return { a with overrides.logFile? := some (← pathFor .logFile text) }
  | .switch .config, text => do
    return { a with config? := some (← pathFor .config text) }
  | .switch .printConfig, _ => .ok { a with printConfig := true }
  | .switch .help, _ | .switch .version, _ => .ok a

/-! ### Reading -/

/-- An argument that is not yet complete. -/
inductive Pending where
  | none
  | waiting (s : Switch)
  | valued (a : Argument) (value : String)
  deriving DecidableEq, Repr

/-- How far the command line has been read. -/
structure Reading where
  arguments : Arguments
  /-- The arguments that are complete, in the order in which they came. -/
  given : List Argument
  pending : Pending
  /-- Whether all that follows is taken literally. -/
  literal : Bool
  deriving DecidableEq, Repr

namespace Reading

def start : Reading := ⟨.none, [], .none, false⟩

/-- Adds a complete argument. -/
def accept (r : Reading) (a : Argument) (value : String) : Except Mistake Reading :=
  if r.given.contains a then .error (.repeated a)
  else do
    return { r with arguments := ← r.arguments.set a value, given := r.given ++ [a] }

/-- Completes what is pending. -/
def settle (r : Reading) : Except Mistake Reading :=
  match r.pending with
  | .none => .ok r
  | .waiting s => .error (.missingValue s)
  | .valued a value => accept { r with pending := .none } a value

/-- The arguments that an unknown one finds before it. -/
def givenBefore (r : Reading) : List Argument :=
  match r.pending with
  | .valued a _ => if r.given.contains a then r.given else r.given ++ [a]
  | _ => r.given

/-- The mistake of an unknown long switch. -/
def unknownLong (r : Reading) (name : String) : Mistake :=
  match mostAlike Switch.long name Switch.all with
  | some s =>
    let given := r.givenBefore
    .unexpected ("--" ++ name) (some (.similar s))
      (if given.contains (.switch s) then given else given ++ [.switch s])
  | none => .unexpected ("--" ++ name) (some .literal) r.givenBefore

/-- Reads a switch that is known, with the value attached to it. -/
def readSwitch (r : Reading) (s : Switch) (value? : Option String) :
    Except Interruption Reading := do
  match s.valueName?, value? with
  | some _, some value =>
    let r ← r.settle.mapError .mistake
    (r.accept (.switch s) value).mapError .mistake
  | some _, none =>
    let r ← r.settle.mapError .mistake
    return { r with pending := .waiting s }
  | none, some value =>
    throw (.mistake (.unneededValue s value (r.given ++ [.switch s])))
  | none, none =>
    let r ← r.settle.mapError .mistake
    match s with
    | .help => throw .help
    | .version => throw .version
    | _ => (r.accept (.switch s) "").mapError .mistake

/-- Reads a value, for the switch that waits for one or as the URL. -/
def readValue (r : Reading) (text : String) : Except Interruption Reading :=
  match r.pending, r.literal with
  | .waiting s, false => .ok { r with pending := .valued (.switch s) text }
  | _, _ =>
    if r.givenBefore.contains .url then .error (.mistake (.unexpected text none []))
    else do
      let r ← r.settle.mapError .mistake
      return { r with pending := .valued .url text }

/-- Name and attached value of a long switch. -/
def splitLong (body : List Char) : String × Option String :=
  let name := body.takeWhile (· ≠ '=')
  match body.drop name.length with
  | _ :: value => (String.ofList name, some (String.ofList value))
  | [] => (String.ofList name, none)

/-- The value attached to a letter, with or without an equals sign. -/
def attached : List Char → Option String
  | [] => none
  | '=' :: value => some (String.ofList value)
  | value => some (String.ofList value)

/-- Reads one argument. -/
def read (r : Reading) (argument : String) : Except Interruption Reading :=
  if r.literal then r.readValue argument
  else
    match argument.toList with
    | ['-', '-'] => .ok { r with literal := true }
    | '-' :: '-' :: body =>
      let (name, value?) := splitLong body
      match Switch.ofLong? name with
      | some s => r.readSwitch s value?
      | none => .error (.mistake (r.unknownLong name))
    | '-' :: letter :: rest =>
      match Switch.ofLetter? letter with
      | some s =>
        -- a letter without a value may be followed by further letters, which help and
        -- version never come to look at
        r.readSwitch s (if s.valueName?.isSome then attached rest else none)
      | none =>
        .error (.mistake (.unexpected (String.ofList ['-', letter]) (some .literal) []))
    | _ => r.readValue argument

/-- The URL may be given in one way only. -/
def conflict? (r : Reading) : Option Mistake :=
  match r.given.filter fun a => a = .url || a = .switch .url with
  | a :: b :: _ => some (.conflicting a b (r.given.filter (· ≠ b)))
  | _ => none

/-- Completes the reading. -/
def finish (r : Reading) : Except Mistake Arguments := do
  let r ← r.settle
  match r.conflict? with
  | some m => throw m
  | none => return r.arguments

end Reading

/-- Reads a command line. -/
def parse (arguments : List String) : Except Interruption Arguments := do
  let r ← arguments.foldlM Reading.read .start
  r.finish.mapError .mistake

/-- The values that take precedence over those of the file. -/
def Arguments.effective (a : Arguments) : Overrides :=
  { a.overrides with url? := a.position? <|> a.overrides.url? }

end Telemetry.CommandLine
