import Telemetry.Text.Split
import Telemetry.Url.Percent

/-!
Paths as lists of segments.

A path is followed segment by segment from where one stands. A single dot stays
there and two dots lead up; at the end of the path either leads to a directory,
which the empty last segment stands for. A dot may be written as an escape. A
segment that looks like a drive letter is never left.
-/

namespace Telemetry.Url

def isSlash (special : Bool) (c : Char) : Bool := c = '/' || (special && c = '\\')

/-- A text with the escapes of dots replaced by dots. -/
def plainDots : List Char → List Char
  | '%' :: '2' :: 'e' :: cs | '%' :: '2' :: 'E' :: cs => '.' :: plainDots cs
  | c :: cs => c :: plainDots cs
  | [] => []

def isHere (segment : List Char) : Bool := plainDots segment = ['.']

def isParent (segment : List Char) : Bool := plainDots segment = ['.', '.']

/-- Whether a segment is a letter with a colon or a bar behind it. -/
def isDrive : List Char → Bool
  | [c, ':'] | [c, '|'] => c.isAlpha
  | _ => false

/-- The directory above. -/
def parentOf (place : List String) : List String :=
  match place.getLast? with
  | some last => if isDrive last.toList then place else place.dropLast
  | none => []

def escapeSegment (segment : List Char) : String :=
  String.ofList (percentEncode escapedInPath segment)

/-- The segment as it is appended; a drive at the root of a file path has a colon. -/
def segmentText (file : Bool) (place : List String) (segment : List Char) : String :=
  match segment with
  | [c, '|'] =>
    if file && place.isEmpty && c.isAlpha then String.ofList [c, ':'] else escapeSegment segment
  | _ => escapeSegment segment

/-- Where the segments lead from a place. -/
def follow (file : Bool) (place : List String) : List (List Char) → List String
  | [] => place
  | [last] =>
    if isHere last then place ++ [""]
    else if isParent last then parentOf place ++ [""]
    else place ++ [segmentText file place last]
  | segment :: segments =>
    if isHere segment then follow file place segments
    else if isParent segment then follow file (parentOf place) segments
    else follow file (place ++ [segmentText file place segment]) segments

/-- Where a text leads from a place. -/
def followText (special file : Bool) (place : List String) (cs : List Char) : List String :=
  follow file place (Text.splitOn (isSlash special) cs)

/-- Following at least one segment never leads to the place without any. -/
theorem follow_ne_nil (file : Bool) (place : List String) {segments : List (List Char)}
    (h : segments ≠ []) : follow file place segments ≠ [] := by
  induction segments generalizing place with
  | nil => contradiction
  | cons segment segments ih =>
    cases segments with
    | nil =>
      unfold follow
      split
      · simp
      · split <;> simp
    | cons next rest =>
      unfold follow
      split
      · exact ih _ (by simp)
      · split <;> exact ih _ (by simp)

theorem followText_ne_nil (special file : Bool) (place : List String) (cs : List Char) :
    followText special file place cs ≠ [] :=
  follow_ne_nil file place (Text.splitOn_ne_nil _ cs)

end Telemetry.Url
