/-!
The arguments of the program.

There is one positional argument, the URL, and a number of switches, each with a
long name, perhaps a letter, and perhaps a value. What the help says and how
messages name an argument both come from here.
-/

namespace Telemetry.CommandLine

inductive Switch where
  | url
  | intervalMs
  | limit
  | timeoutMs
  | config
  | logFile
  | printConfig
  | help
  | version
  deriving DecidableEq, Repr

namespace Switch

/-- Every switch, in the order of the help. -/
def all : List Switch :=
  [.url, .intervalMs, .limit, .timeoutMs, .config, .logFile, .printConfig, .help, .version]

def long : Switch → String
  | .url => "url"
  | .intervalMs => "interval-ms"
  | .limit => "limit"
  | .timeoutMs => "timeout-ms"
  | .config => "config"
  | .logFile => "log-file"
  | .printConfig => "print-config"
  | .help => "help"
  | .version => "version"

def letter? : Switch → Option Char
  | .url => some 'u'
  | .intervalMs => some 'i'
  | .limit => some 'l'
  | .config => some 'c'
  | .help => some 'h'
  | .version => some 'V'
  | .timeoutMs | .logFile | .printConfig => none

/-- What the value of a switch is called, if it takes one. -/
def valueName? : Switch → Option String
  | .url => some "URL"
  | .intervalMs => some "INTERVAL_MS"
  | .limit => some "LIMIT"
  | .timeoutMs => some "TIMEOUT_MS"
  | .config | .logFile => some "PATH"
  | .printConfig | .help | .version => none

def purpose : Switch → String
  | .url => "Backend base URL (same as the positional URL)"
  | .intervalMs => "Refresh interval in milliseconds"
  | .limit => "Rows requested for the connection and host tables"
  | .timeoutMs => "Per-request timeout in milliseconds (default: wait for every response)"
  | .config => "Config file (default: $XDG_CONFIG_HOME/sentrytop/config.json)"
  | .logFile => "Log file (default: next to the config file)"
  | .printConfig => "Print the effective configuration as JSON and exit"
  | .help => "Print help"
  | .version => "Print version"

/-- The long name with what stands for the value. -/
def text (s : Switch) : String :=
  "--" ++ s.long ++ (s.valueName?.map fun name => " <" ++ name ++ ">").getD ""

def ofLong? (name : String) : Option Switch := all.find? (·.long = name)

def ofLetter? (c : Char) : Option Switch := all.find? (·.letter? = some c)

end Switch

/-- What can be given: the URL, or a switch. -/
inductive Argument where
  | url
  | switch (s : Switch)
  deriving DecidableEq, Repr

def Argument.text : Argument → String
  | .url => "[URL]"
  | .switch s => s.text

def programName : String := "sentrytop"

def programVersion : String := "0.1.0"

/-! ### Usage and help -/

/-- How the program is called. If some arguments have been given, they are named; otherwise
only their kinds are. -/
def usage (given : List Argument) : String :=
  let switches := given.filterMap fun
    | .switch s => some s.text
    | .url => none
  if given.isEmpty then programName ++ " [OPTIONS] [URL]"
  else
    " ".intercalate
      ([programName] ++ switches ++ [if given.contains .url then "<URL>" else "[URL]"])

/-- The names of a switch as the help lists them. -/
def Switch.listed (s : Switch) : String :=
  "  " ++ (match s.letter? with
    | some c => String.ofList ['-', c, ',', ' ']
    | none => "    ") ++ s.text

/-- A line of the help, the purpose in a column of its own. -/
def helpLine (width : Nat) (s : Switch) : String :=
  s.listed ++ String.ofList (List.replicate (width + 2 - s.listed.length) ' ') ++ s.purpose ++ "\n"

def help : String :=
  let width := (Switch.all.map (·.listed.length)).foldl max 0
  "Live terminal dashboard for a NetSentry monitoring backend\n\n" ++
    "Usage: " ++ usage [] ++ "\n\n" ++
    "Arguments:\n  [URL]  Backend base URL, e.g. http://127.0.0.1:8080\n\n" ++
    "Options:\n" ++ String.join (Switch.all.map (helpLine width))

def version : String := programName ++ " " ++ programVersion ++ "\n"

end Telemetry.CommandLine
