import Telemetry.CommandLine.Plan
import Telemetry.Session.Drawing
import Telemetry.Session.Input
import Telemetry.Storage.Log
import Telemetry.Terminal.Ansi
import Telemetry.Url.Domain

/-!
The program.

Everything that is decided is decided by `CommandLine.parse`, `Arguments.plan` and
the functions of `Session`; what is left is to look at the environment, to read
and write files, and to pass keys and pictures between the session and the
terminal. No transport is linked in, so no source ever answers, and of international
domains only those are known that `Url.Domain` knows.
-/

namespace Telemetry

/-- The number that the operating system gives to a failure. -/
def errorNumber : IO.Error → UInt32
  | .alreadyExists _ n _ | .otherError n _ | .resourceBusy n _ | .resourceVanished n _
  | .unsupportedOperation n _ | .hardwareFault n _ | .unsatisfiedConstraints n _
  | .illegalOperation n _ | .protocolError n _ | .timeExpired n _ | .interrupted _ n _
  | .noFileOrDirectory _ n _ | .invalidArgument _ n _ | .permissionDenied _ n _
  | .resourceExhausted _ n _ | .inappropriateType _ n _ | .noSuchThing _ n _ => n
  | .unexpectedEof | .userError _ => 0

/-- The fault behind a failure, whose number may come with a minus sign. -/
def storageFault (e : IO.Error) : Storage.Fault :=
  let known : List Storage.Fault :=
    [.noSuchEntry, .noSuchDevice, .permissionDenied, .exists, .notADirectory, .isADirectory,
     .nameTooLong]
  let number := (errorNumber e).toInt32.toInt.natAbs
  (known.find? (·.number? = some number)).getD (.other (toString e) number)

def environment : IO Environment := do
  return ⟨← IO.getEnv "XDG_CONFIG_HOME", (← IO.getEnv "HOME").getD ""⟩

/-- Looks at a file. -/
def fileState (path : String) : IO FileState := do
  try
    return .content (← IO.FS.readBinFile path)
  catch e =>
    return match storageFault e with
      | .noSuchEntry => .missing
      | fault => .unreadable fault

/-- The files of the machine. -/
def disk : Storage.Disk IO IO.FS.Handle where
  createDirectories path := IO.FS.createDirAll path
  openAtEnd path := IO.FS.Handle.mk path .append

/-- The size of the terminal, as far as the environment tells. -/
def terminalSize : IO (Nat × Nat) := do
  let columns := (← IO.getEnv "COLUMNS").bind String.toNat?
  let lines := (← IO.getEnv "LINES").bind String.toNat?
  return (columns.getD 80, lines.getD 24)

/-- Draws the session and hands it the keys of a line, until its end is asked for. -/
partial def converse (terminal : IO.FS.Handle) (size : Nat × Nat) (s : Session) : IO Unit := do
  let out ← IO.getStdout
  out.putStr (s.draw size.1 size.2).ansi
  out.flush
  let line ← terminal.getLine
  let s := s.handleKeys (keysOf line.toList)
  unless s.quitting || line.isEmpty do converse terminal size s

/-- Runs a session and reports how it ended. -/
def watch (settings : Settings) (ignored? : Option LoadError) : IO UInt32 := do
  let err ← IO.getStderr
  match ← (Storage.openLog disk settings.logFile).toBaseIO with
  | .error e =>
    err.putStr (CommandLine.logFailure settings.logFile (storageFault e))
    return 1
  | .ok log =>
    for line in CommandLine.openingLines settings ignored? do log.putStrLn line
    match ← (IO.FS.Handle.mk "/dev/tty" .read).toBaseIO with
    | .error e =>
      err.putStr (CommandLine.otherFailure (storageFault e))
      return 1
    | .ok terminal =>
      let out ← IO.getStdout
      out.putStr Terminal.enterScreen
      converse terminal (← terminalSize) (.start settings.base.text)
      out.putStr Terminal.leaveScreen
      log.putStrLn CommandLine.logStopped
      return 0

/-- Does what was planned. -/
def execute : CommandLine.Plan → IO UInt32
  | .print output warning => do
    (← IO.getStderr).putStr warning
    (← IO.getStdout).putStr output
    return 0
  | .refuse code message => do
    (← IO.getStderr).putStr message
    return code.toUInt32
  | .watch settings ignored? => watch settings ignored?

end Telemetry

open Telemetry in
def main (arguments : List String) : IO UInt32 := do
  match CommandLine.parse arguments with
  | .ok a =>
    let e ← environment
    execute (a.plan e (← fileState (a.configPath e)))
  | .error i => execute i.plan
