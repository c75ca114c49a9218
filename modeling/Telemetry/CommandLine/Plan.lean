import Telemetry.CommandLine.Arguments
import Telemetry.Settings.Check
import Telemetry.Settings.File

/-!
What the program does.

The command line, the environment and the configuration file together say what
happens: something is printed, the program is refused, or the backend is watched.
A file that cannot be used is no reason to refuse; it only leaves the defaults.
-/

namespace Telemetry.CommandLine

/-- What is to be done. -/
inductive Plan where
  | print (output warning : String)
  | refuse (code : UInt8) (message : String)
  | watch (settings : Settings) (ignored? : Option LoadError)
  deriving DecidableEq, Repr

/-- The configuration of a run and why the file contributes nothing to it, if it does not. -/
def configure (path : String) (file : FileState) (o : Overrides) : Config × Option LoadError :=
  match Config.load path file with
  | .ok c => (c.override o, none)
  | .error e => (Config.default.override o, some e)

/-! ### Messages -/

/-- A failure with what caused it; several causes are numbered. -/
def failure (text : String) : (causes : List String) → String
  | [] => "Error: " ++ text ++ "\n"
  | [cause] => "Error: " ++ text ++ "\n\nCaused by:\n    " ++ cause ++ "\n"
  | causes =>
    "Error: " ++ text ++ "\n\nCaused by:\n" ++
      String.join (causes.zipIdx.map fun (cause, i) => s!"    {i}: " ++ cause ++ "\n")

/-- What is said about settings that cannot be used. -/
def settingsFailure (e : SettingsError) : String :=
  failure "invalid configuration" <|
    match e with
    | .url _ fault => [e.message, fault.message]
    | .scheme _ | .zero _ => [e.message]

/-- What is said about a log file that cannot be opened. -/
def logFailure (path : String) (fault : Storage.Fault) : String :=
  failure ("opening log file " ++ path) [fault.message]

/-- What is said about any other failure. -/
def otherFailure (fault : Storage.Fault) : String := failure fault.message []

def warning (e : LoadError) : String := "warning: " ++ e.message ++ "; using defaults\n"

/-! ### Lines of the log -/

def logIgnored (e : LoadError) : String :=
  "WARN config file ignored, using defaults error=" ++ e.message

def logStarted (s : Settings) : String :=
  "INFO polling started url=" ++ s.base.text ++
    s!" interval_ms={s.intervalMs.toNat} limit={s.limit.toNat}"

def logStopped : String := "INFO polling stopped"

/-- The lines that a run begins with. -/
def openingLines (s : Settings) (ignored? : Option LoadError) : List String :=
  (ignored?.map logIgnored).toList ++ [logStarted s]

/-! ### Plans -/

/-- The path of the configuration file. -/
def Arguments.configPath (a : Arguments) (e : Environment) : String := a.config?.getD e.configPath

/-- What is done once the command line has been read, `file` being the configuration file. -/
def Arguments.plan [Url.DomainRule] (a : Arguments) (e : Environment) (file : FileState) : Plan :=
  let (config, ignored?) := configure (a.configPath e) file a.effective
  match config.check e with
  | .error error => .refuse 1 (settingsFailure error)
  | .ok settings =>
    if a.printConfig then .print (config.print ++ "\n") ((ignored?.map warning).getD "")
    else .watch settings ignored?

/-- What is done when the command line was not read to its end. -/
def Interruption.plan : Interruption → Plan
  | .help => .print CommandLine.help ""
  | .version => .print CommandLine.version ""
  | .mistake m => .refuse 2 m.message

/-- What a command line asks for; `read` looks at the file at a path. -/
def plan [Url.DomainRule] (e : Environment) (read : String → FileState)
    (arguments : List String) : Plan :=
  match parse arguments with
  | .ok a => a.plan e (read (a.configPath e))
  | .error i => i.plan

end Telemetry.CommandLine
