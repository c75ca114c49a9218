/-!
Why a file could not be read or opened.

The wording is that of the operating system, with the number of the error
behind it.
-/

namespace Telemetry.Storage

/-- The reason that the operating system gives. -/
inductive Fault where
  | noSuchEntry
  | noSuchDevice
  | permissionDenied
  | exists
  | notADirectory
  | isADirectory
  | nameTooLong
  | notUtf8
  /-- Any other reason, with its number. -/
  | other (text : String) (number : Nat)
  deriving DecidableEq, Repr

namespace Fault

/-- The number of a reason, which a text that is not UTF-8 has none of. -/
def number? : Fault → Option Nat
  | .noSuchEntry => some 2
  | .noSuchDevice => some 6
  | .permissionDenied => some 13
  | .exists => some 17
  | .notADirectory => some 20
  | .isADirectory => some 21
  | .nameTooLong => some 36
  | .notUtf8 => none
  | .other _ number => some number

def describe : Fault → String
  | .noSuchEntry => "No such file or directory"
  | .noSuchDevice => "No such device or address"
  | .permissionDenied => "Permission denied"
  | .exists => "File exists"
  | .notADirectory => "Not a directory"
  | .isADirectory => "Is a directory"
  | .nameTooLong => "File name too long"
  | .notUtf8 => "stream did not contain valid UTF-8"
  | .other text _ => text

def message (f : Fault) : String :=
  match f.number? with
  | some number => f.describe ++ s!" (os error {number})"
  | none => f.describe

end Fault

end Telemetry.Storage
