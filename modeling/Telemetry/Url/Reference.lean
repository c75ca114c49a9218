import Telemetry.Text.Split
import Telemetry.Url.Basic
import Telemetry.Url.Segments

/-!
Reading URLs.

A text is first taken apart without looking at what its parts say: the scheme
before the first colon, the query behind the first question mark, the fragment
behind the first number sign. What is left, the *body*, holds an authority or a
path and is read by the rules of the scheme. A text without a scheme is relative:
it is looked up in a base, from which it takes over whatever it does not say
itself.
-/

namespace Telemetry.Url

/-- The largest parts of a text. -/
structure Reference where
  scheme? : Option String
  body : List Char
  query? : Option (List Char)
  fragment? : Option (List Char)
  deriving DecidableEq, Repr

/-! ### Taking a text apart -/

/-- Characters that are cut off at both ends. -/
def isMargin (c : Char) : Bool := c.toNat ≤ 0x20

/-- Characters that are passed over wherever they stand. -/
def isIgnored (c : Char) : Bool := c = '\t' || c = '\n' || c = '\r'

/-- The characters of a text that count. -/
def significant (text : String) : List Char :=
  let trimmed := ((text.toList.dropWhile isMargin).reverse.dropWhile isMargin).reverse
  trimmed.filter (!isIgnored ·)

def isSchemeChar (c : Char) : Bool := c.isAlphanum || c = '+' || c = '-' || c = '.'

/-- The scheme in lower case and what stands behind its colon. -/
def splitScheme (cs : List Char) : Option (String × List Char) :=
  match Text.splitFirst ':' cs with
  | (c :: name, some rest) =>
    if c.isAlpha && name.all isSchemeChar then
      some (String.ofList ((c :: name).map Char.toLower), rest)
    else none
  | _ => none

def Reference.ofText (text : String) : Reference :=
  let (front, fragment?) := Text.splitFirst '#' (significant text)
  let (front, query?) := Text.splitFirst '?' front
  match splitScheme front with
  | some (scheme, body) => ⟨some scheme, body, query?, fragment?⟩
  | none => ⟨none, front, query?, fragment?⟩

/-! ### Authorities -/

variable [DomainRule]

/-- Host and port, separated by the first colon outside brackets. -/
def splitPort (inside : Bool) : List Char → List Char × Option (List Char)
  | [] => ([], none)
  | c :: cs =>
    if c = ':' && !inside then ([], some cs)
    else
      let (host, port?) := splitPort (c = '[' || (inside && c ≠ ']')) cs
      (c :: host, port?)

/-- Reads a port; the default port of the scheme is none, and so is an empty one. -/
def parsePort (scheme : String) (digits : List Char) : Except Fault (Option Nat) :=
  if !digits.all Char.isDigit || 65535 < digitsValue 10 digits then .error .invalidPort
  else if digits.isEmpty || defaultPort? scheme = some (digitsValue 10 digits) then .ok none
  else .ok (some (digitsValue 10 digits))

def escapeUserinfo (cs : List Char) : String := String.ofList (percentEncode escapedInUserinfo cs)

/-- Reads a host; an empty one is none. -/
def parseHost (special : Bool) (cs : List Char) : Except Fault (Option Host) :=
  if cs.isEmpty then .ok none
  else (if special then parseSpecialHost cs else parsePlainHost cs).map some

/-- Reads an authority. -/
def parseAuthority (scheme : String) (cs : List Char) : Except Fault Authority := do
  let (user?, site) := Text.splitLast '@' cs
  let (name, port?) := splitPort false site
  if name.isEmpty && (isSpecial scheme || user?.isSome || port?.isSome) then throw .emptyHost
  let (username, password?) := Text.splitFirst ':' (user?.getD [])
  let host? ← parseHost (isSpecial scheme) name
  let port? ← parsePort scheme (port?.getD [])
  return ⟨escapeUserinfo username, escapeUserinfo (password?.getD []), host?, port?⟩

/-! ### Bodies -/

/-- The parts of a URL in front of its query. -/
structure Front where
  authority? : Option Authority
  path : Path

/-- The path behind an authority. -/
def rootPath (special : Bool) : List Char → Path
  | [] => .segments (if special then [""] else [])
  | c :: cs => .segments (followText special false [] (if isSlash special c then cs else c :: cs))

/-- Reads an authority and the path behind it. -/
def parseFront (scheme : String) (cs : List Char) : Except Fault Front := do
  let special := isSpecial scheme
  let site := cs.takeWhile (!isSlash special ·)
  return ⟨some (← parseAuthority scheme site), rootPath special (cs.drop site.length)⟩

/-- The body without the slashes in front, in either direction. -/
def dropSlashes (cs : List Char) : List Char := cs.dropWhile (isSlash true)

/-- How many slashes, in either direction, stand in front. -/
def leadingSlashes (cs : List Char) : Nat := (cs.takeWhile (isSlash true)).length

/-- Reads a body that is relative to a hierarchical base. -/
def parseRelative (base : Url) (place : List String) (body : List Char) : Except Fault Front :=
  let special := isSpecial base.scheme
  match body with
  | [] => .ok ⟨base.authority?, base.path⟩
  | '/' :: '/' :: rest => parseFront base.scheme rest
  | c :: rest =>
    if 2 ≤ leadingSlashes (c :: rest) then parseFront base.scheme (dropSlashes rest)
    else if isSlash true c then .ok ⟨base.authority?, .segments (followText special false [] rest)⟩
    else .ok ⟨base.authority?, .segments (followText special false place.dropLast (c :: rest))⟩

/-- Reads the body of a URL that is not special. -/
def parsePlain (scheme : String) : List Char → Except Fault Front
  | '/' :: '/' :: rest => parseFront scheme rest
  | '/' :: rest => .ok ⟨none, .segments (followText false false [] rest)⟩
  | body => .ok ⟨none, .flat (String.ofList (percentEncode isNeverPlain body))⟩

/-! ### Files -/

/-- The host of a file; the machine itself is none. -/
def parseFileHost (cs : List Char) : Except Fault (Option Host) := do
  match ← parseHost true cs with
  | some (.name "localhost") => return none
  | host? => return host?

/-- A path without empty segments in front. -/
def dropEmptyFront : List String → List String
  | "" :: name :: names => dropEmptyFront (name :: names)
  | names => names

/-- The place of a file on a host; a drive belongs to no host. -/
def fileFront (host? : Option Host) (place : List String) (cs : List Char) : Front :=
  let names := dropEmptyFront (followText true true place cs)
  let host? := if (names.head?.map fun name => isDrive name.toList).getD false then none else host?
  ⟨some ⟨"", "", host?, none⟩, .segments names⟩

/-- Whether a text begins with a drive. -/
def startsWithDrive (cs : List Char) : Bool := isDrive (cs.takeWhile (!isSlash true ·))

/-- The host and the segments of a file. -/
def filePlace (u : Url) : Option Host × List String :=
  (u.authority?.bind (·.host?), match u.path with
    | .segments names => names
    | .flat _ => [])

/-- Reads the body of a file URL. -/
def parseFile (base? : Option Url) (body : List Char) : Except Fault Front :=
  let (baseHost?, baseNames) := (base?.map filePlace).getD (none, [])
  match body with
  | [] => .ok (fileFront baseHost? baseNames.dropLast (baseNames.getLast?.getD "").toList)
  | c :: rest =>
    if 2 ≤ leadingSlashes (c :: rest) then do
      let rest := rest.drop 1
      let name := rest.takeWhile (!isSlash true ·)
      if isDrive name then return fileFront none [] rest
      return fileFront (← parseFileHost name) [] (rest.drop (name.length + 1))
    else if isSlash true c then
      if startsWithDrive rest then .ok (fileFront none [] rest)
      else .ok (fileFront baseHost? (baseNames.take 1 |>.filter (isDrive ·.toList)) rest)
    else if startsWithDrive (c :: rest) then .ok (fileFront none [] (c :: rest))
    else .ok (fileFront baseHost? (parentOf baseNames) (c :: rest))

/-! ### Whole texts -/

/-- Adds query and fragment to what stands before them. -/
def Front.finish (front : Front) (scheme : String) (query? : Option String)
    (fragment? : Option (List Char)) : Url where
  scheme := scheme
  authority? := front.authority?
  path := front.path
  query? := query?
  fragment? := fragment?.map fun cs => String.ofList (percentEncode escapedInFragment cs)

def escapeQuery (scheme : String) (cs : List Char) : String :=
  String.ofList (percentEncode (escapedInQuery (isSpecial scheme)) cs)

/-- Looks up a reference without a scheme, or with the scheme of its base, in the base. -/
def Reference.lookUp (r : Reference) (base : Url) : Except Fault Url :=
  match base.path with
  | .flat _ =>
    if r.body.isEmpty && r.query?.isNone && r.fragment?.isSome then
      .ok (Front.finish ⟨base.authority?, base.path⟩ base.scheme base.query? r.fragment?)
    else .error .relativeToFlat
  | .segments names => do
    let front ←
      if base.scheme = "file" then parseFile (some base) r.body
      else parseRelative base names r.body
    let query? := r.query?.map (escapeQuery base.scheme)
    let query? := if r.body.isEmpty then query? <|> base.query? else query?
    return front.finish base.scheme query? r.fragment?

/-- Reads a reference with a scheme. -/
def Reference.absolute (r : Reference) (scheme : String) : Except Fault Url := do
  let front ←
    if scheme = "file" then parseFile none r.body
    else if isSpecial scheme then parseFront scheme (dropSlashes r.body)
    else parsePlain scheme r.body
  return front.finish scheme (r.query?.map (escapeQuery scheme)) r.fragment?

/-- Whether a reference with a scheme is nevertheless looked up in the base: it has the same
scheme, and no authority. -/
def Reference.staysIn (r : Reference) (scheme : String) (base : Url) : Bool :=
  scheme = base.scheme && isSpecial scheme && (scheme = "file" || leadingSlashes r.body < 2)

/-- Reads a URL. -/
def parse (text : String) : Except Fault Url :=
  let r := Reference.ofText text
  match r.scheme? with
  | some scheme => r.absolute scheme
  | none => .error .relativeWithoutBase

/-- Reads a URL that may be relative to a base. -/
def resolve (base : Url) (text : String) : Except Fault Url :=
  let r := Reference.ofText text
  match r.scheme? with
  | some scheme => if r.staysIn scheme base then r.lookUp base else r.absolute scheme
  | none => r.lookUp base

end Telemetry.Url
