/-!
Where files are kept.

The directory follows the desktop convention: a given configuration directory,
or else `.config` in the home directory.
-/

namespace Telemetry

/-- A path and a name below it. -/
def joinPath (base name : String) : String :=
  if base.isEmpty || base.endsWith "/" then base ++ name else base ++ "/" ++ name

/-- The parts of the environment that say where files are kept. -/
structure Environment where
  configHome? : Option String
  home : String
  deriving DecidableEq, Repr

namespace Environment

/-- The directory of this program's files. -/
def directory (e : Environment) : String :=
  joinPath (e.configHome?.getD (joinPath e.home ".config")) "sentrytop"

def configPath (e : Environment) : String := joinPath e.directory "config.json"

def logPath (e : Environment) : String := joinPath e.directory "sentrytop.log"

end Environment

end Telemetry
