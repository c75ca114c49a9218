import Telemetry.CommandLine.Switch

/-!
Mistakes on the command line.
-/

namespace Telemetry.CommandLine

/-- Why a text is not a number of 64 bits. -/
inductive NumberFault where
  | empty
  | invalidDigit
  | tooLarge
  deriving DecidableEq, Repr

def NumberFault.message : NumberFault → String
  | .empty => "cannot parse integer from empty string"
  | .invalidDigit => "invalid digit found in string"
  | .tooLarge => "number too large to fit in target type"

/-- What is proposed instead of an argument that is not known. -/
inductive Proposal where
  | similar (s : Switch)
  | literal
  deriving DecidableEq, Repr

/-- What is wrong; `given` are the arguments that the usage names. -/
inductive Mistake where
  | unexpected (text : String) (proposal? : Option Proposal) (given : List Argument)
  | invalidNumber (s : Switch) (text : String) (fault : NumberFault)
  | missingValue (s : Switch)
  | repeated (a : Argument)
  | conflicting (a b : Argument) (given : List Argument)
  | unneededValue (s : Switch) (value : String) (given : List Argument)
  deriving DecidableEq, Repr

namespace Mistake

def describe : Mistake → String
  | .unexpected text .. => "unexpected argument '" ++ text ++ "' found"
  | .invalidNumber s text fault =>
    "invalid value '" ++ text ++ "' for '" ++ s.text ++ "': " ++ fault.message
  | .missingValue s => "a value is required for '" ++ s.text ++ "' but none was supplied"
  | .repeated a => "the argument '" ++ a.text ++ "' cannot be used multiple times"
  | .conflicting a b _ => "the argument '" ++ a.text ++ "' cannot be used with '" ++ b.text ++ "'"
  | .unneededValue s value _ =>
    "unexpected value '" ++ value ++ "' for '" ++ s.text ++ "' found; no more were expected"

def tip? : Mistake → Option String
  | .unexpected text (some .literal) _ =>
    some ("to pass '" ++ text ++ "' as a value, use '-- " ++ text ++ "'")
  | .unexpected _ (some (.similar s)) _ =>
    some ("a similar argument exists: '--" ++ s.long ++ "'")
  | _ => none

/-- How the program is called, where the mistake is about that. -/
def usage? : Mistake → Option String
  | .unexpected _ _ given | .conflicting _ _ given | .unneededValue _ _ given => some (usage given)
  | .repeated _ => some (usage [])
  | .invalidNumber .. | .missingValue _ => none

/-- The whole message. -/
def message (m : Mistake) : String :=
  "error: " ++ m.describe ++ "\n\n" ++
    (m.tip?.map fun tip => "  tip: " ++ tip ++ "\n\n").getD "" ++
    (m.usage?.map fun usage => "Usage: " ++ usage ++ "\n\n").getD "" ++
    "For more information, try '--help'.\n"

end Mistake

end Telemetry.CommandLine
