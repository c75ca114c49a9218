import Telemetry.Url.Host

/-!
URLs and how they are written.

A URL has a scheme and then either a hierarchical path, a list of segments with or
without an authority in front, or a flat text without structure, as in a mail
address. A handful of schemes are *special*: their URLs always have a host and a
path, and a backslash separates like a slash.
-/

namespace Telemetry

/-- Who is asked: user, password, host and port. An empty user or password is none. -/
structure Url.Authority where
  username : String
  password : String
  host? : Option Url.Host
  port? : Option Nat
  deriving DecidableEq, Repr

/-- What is asked for. -/
inductive Url.Path where
  | flat (text : String)
  | segments (names : List String)
  deriving DecidableEq, Repr

structure Url where
  scheme : String
  authority? : Option Url.Authority
  path : Url.Path
  query? : Option String
  fragment? : Option String
  deriving DecidableEq, Repr

namespace Url

/-- Whether URLs of a scheme always have a host. -/
def isSpecial (scheme : String) : Bool :=
  ["http", "https", "ws", "wss", "ftp", "file"].contains scheme

/-- The port that is meant if none is given. -/
def defaultPort? (scheme : String) : Option Nat :=
  if scheme = "http" ∨ scheme = "ws" then some 80
  else if scheme = "https" ∨ scheme = "wss" then some 443
  else if scheme = "ftp" then some 21
  else none

/-- The user and the password, with the sign behind them. -/
def Authority.userText (a : Authority) : String :=
  if a.username.isEmpty && a.password.isEmpty then ""
  else a.username ++ (if a.password.isEmpty then "" else ":" ++ a.password) ++ "@"

def Authority.hostText (a : Authority) : String := (a.host?.map Host.text).getD ""

/-- The host and the port. -/
def Authority.siteText (a : Authority) : String :=
  a.hostText ++ (a.port?.map fun port => s!":{port}").getD ""

def Authority.text (a : Authority) : String := a.userText ++ a.siteText

def Path.text : Path → String
  | .flat text => text
  | .segments names => String.join (names.map ("/" ++ ·))

/-- The path as it follows a scheme without an authority: two slashes at its front would
be taken for one. -/
def Path.guarded (p : Path) : String :=
  match p with
  | .segments ("" :: _ :: _) => "/." ++ p.text
  | _ => p.text

/-- A URL as text. -/
def text (u : Url) : String :=
  u.scheme ++ ":" ++
    (match u.authority? with
    | some a => "//" ++ a.text ++ u.path.text
    | none => u.path.guarded) ++
    (u.query?.map ("?" ++ ·)).getD "" ++ (u.fragment?.map ("#" ++ ·)).getD ""

/-- The URL without user and password. -/
def withoutUser (u : Url) : Url :=
  { u with authority? := u.authority?.map fun a => { a with username := "", password := "" } }

/-- Adds a pair to the query. -/
def addQuery (u : Url) (pair : String) : Url :=
  match u.query? with
  | none | some "" => { u with query? := some pair }
  | some query => { u with query? := some (query ++ "&" ++ pair) }

/-- The path with a slash at its end, one being added only if there is none. -/
def Path.asDirectory : Path → Path
  | .flat text =>
    if text.isEmpty then .flat "%2F" else if text.endsWith "/" then .flat text else .flat (text ++ "/")
  | .segments names =>
    if names.getLast? = some "" then .segments names else .segments (names ++ [""])

/-- The URL under which relative ones are looked up: all of its path counts as a directory. -/
def asDirectory (u : Url) : Url := { u with path := u.path.asDirectory }

@[simp] theorem Path.asDirectory_segments_append (names : List String) :
    (Path.segments (names ++ [""])).asDirectory = .segments (names ++ [""]) := by
  simp [Path.asDirectory]

end Url

end Telemetry
