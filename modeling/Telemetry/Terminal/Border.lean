import Telemetry.Terminal.Canvas

/-!
Borders with a title.

A border takes the outermost cells of an area. Where an area is so small that two
corners fall into one cell, the upper one wins, and of two upper or lower ones
the left one.
-/

namespace Telemetry.Terminal

/-- The places of a row of an area. -/
def rowPlaces (a : Area) (y : Nat) : List (Nat × Nat) := (List.range a.width).map (a.x + ·, y)

/-- The places of a column of an area. -/
def columnPlaces (a : Area) (x : Nat) : List (Nat × Nat) := (List.range a.height).map (x, a.y + ·)

/-- The lines and corners around an area. -/
def Canvas.outline (c : Canvas) (a : Area) : Canvas :=
  if a.isEmpty then c
  else
    let c := c.stroke (columnPlaces a a.x ++ columnPlaces a (a.right - 1)) '│' id
    let c := c.stroke (rowPlaces a a.y ++ rowPlaces a (a.bottom - 1)) '─' id
    let c := c.put (a.right - 1) (a.bottom - 1) '┘' id
    let c := c.put (a.right - 1) a.y '┐' id
    let c := c.put a.x (a.bottom - 1) '└' id
    c.put a.x a.y '┌' id

/-- A border with a title in its upper line. -/
def Canvas.border (c : Canvas) (a : Area) (title : String) : Canvas :=
  (c.outline a).writeIn ⟨a.x + 1, a.y, a.width - 2, min 1 a.height⟩ (styled id title)

end Telemetry.Terminal
