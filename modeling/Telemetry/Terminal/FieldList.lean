import Telemetry.Screen.Basic
import Telemetry.Terminal.Border

/-!
Lists of captions and values.

The captions are padded to the longest one, whose length is counted in bytes. A
field that was never written shows a dash.
-/

namespace Telemetry.Terminal

/-- The width of the captions. -/
def captionWidth (entries : List (String × String)) : Nat :=
  (entries.map (·.1.utf8ByteSize)).foldl max 0

def padRight (width : Nat) (s : String) : String :=
  s ++ String.ofList (List.replicate (width - s.length) ' ')

/-- The line of a field. -/
def fieldLine (width : Nat) (caption : String) (value? : Option String) : StyledText :=
  styled (Style.withForeground .cyan) (padRight width caption ++ "  ") ++
    match value? with
    | some value => styled Style.withBold value
    | none => styled (Style.withForeground .darkGray) "-"

/-- Fields below each other; an entry is a caption and the slot of its field. -/
def Canvas.fieldList (c : Canvas) (a : Area) (title : String) (entries : List (String × String))
    (s : Screen) : Canvas :=
  let width := captionWidth entries
  let lines := entries.map fun (caption, slot) => fieldLine width caption (s.field? slot)
  (lines.take a.inner.height).zipIdx.foldl (fun c (line, i) => c.writeIn (a.inner.row i) line)
    (c.border a title)

end Telemetry.Terminal
