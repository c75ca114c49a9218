/-!
Lengths and cuts of text.

Positions in messages count UTF-8 bytes, and an elided address counts characters.
-/

namespace Telemetry.Text

/-- How many bytes a text takes in UTF-8. -/
def byteLength : List Char → Nat
  | [] => 0
  | c :: cs => c.utf8Size + byteLength cs

/-- At most `limit` characters of a text, both ends kept and the middle replaced by
three dots; a limit below three still gives the three dots. -/
def elideMiddle (limit : Nat) (s : String) : String :=
  let cs := s.toList
  if cs.length ≤ limit then s
  else
    let keep := limit - 3
    let head := keep / 2
    let tail := keep - head
    String.ofList (cs.take head ++ ['.', '.', '.'] ++ cs.drop (cs.length - tail))

end Telemetry.Text
