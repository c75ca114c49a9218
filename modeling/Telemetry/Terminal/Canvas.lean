import Telemetry.Chart.Basic
import Telemetry.Text.Width

/-!
The cells of a terminal.

A canvas is a rectangle of cells, each a character in a style. Drawing outside of
it changes nothing. A character that takes two columns is kept in the first of
its cells, and what the second one holds cannot be seen; only `Canvas.visible`
knows about that.
-/

namespace Telemetry.Terminal

/-- Colors and weight of a cell. -/
structure Style where
  foreground : Color
  background : Color
  bold : Bool
  deriving DecidableEq, Repr

namespace Style

def plain : Style := ⟨.reset, .reset, false⟩

def withForeground (color : Color) (s : Style) : Style := { s with foreground := color }

def withBackground (color : Color) (s : Style) : Style := { s with background := color }

def withBold (s : Style) : Style := { s with bold := true }

end Style

structure Cell where
  symbol : Char
  style : Style
  deriving DecidableEq, Repr

def Cell.blank : Cell := ⟨' ', .plain⟩

/-- A rectangle of columns and rows. -/
structure Area where
  x : Nat
  y : Nat
  width : Nat
  height : Nat
  deriving DecidableEq, Repr

namespace Area

/-- The first column behind an area. -/
def right (a : Area) : Nat := a.x + a.width

/-- The first row below an area. -/
def bottom (a : Area) : Nat := a.y + a.height

def isEmpty (a : Area) : Bool := a.width = 0 || a.height = 0

/-- What a border leaves free. -/
def inner (a : Area) : Area := ⟨a.x + 1, a.y + 1, a.width - 2, a.height - 2⟩

/-- One row of an area, counted from its top. -/
def row (a : Area) (i : Nat) : Area := ⟨a.x, a.y + i, a.width, 1⟩

/-- The places of an area, row by row. -/
def places (a : Area) : List (Nat × Nat) :=
  (List.range a.height).flatMap fun j => (List.range a.width).map fun i => (a.x + i, a.y + j)

end Area

/-- The cells of a terminal, row by row. -/
structure Canvas where
  width : Nat
  height : Nat
  cells : Array Cell
  deriving Repr

/-- A text of which every character has been given a style, as a change to what is there. -/
abbrev StyledText := List (Char × (Style → Style))

def styled (change : Style → Style) (s : String) : StyledText := s.toList.map (·, change)

/-- The front of a text that fits into a width, without characters that take no column. -/
def clip {α : Type} (charOf : α → Char) (width : Nat) : List α → List α
  | [] => []
  | a :: as =>
    let w := Text.charWidth (charOf a)
    if w = 0 then clip charOf width as
    else if w ≤ width then a :: clip charOf (width - w) as
    else []

/-- The end of a text that fits into a width. -/
def clipFront (width : Nat) (cs : List Char) : List Char :=
  (clip id width cs.reverse).reverse

namespace Canvas

def blank (width height : Nat) : Canvas := ⟨width, height, Array.replicate (width * height) .blank⟩

def whole (c : Canvas) : Area := ⟨0, 0, c.width, c.height⟩

/-- The cell at a place; blank outside of the canvas. -/
def get (c : Canvas) (x y : Nat) : Cell :=
  if x < c.width then c.cells.getD (y * c.width + x) .blank else .blank

/-- Changes the cell at a place. -/
def modify (c : Canvas) (x y : Nat) (f : Cell → Cell) : Canvas :=
  if x < c.width then { c with cells := c.cells.modify (y * c.width + x) f } else c

/-- Writes a character and changes the style beneath it. -/
def put (c : Canvas) (x y : Nat) (symbol : Char) (change : Style → Style) : Canvas :=
  c.modify x y fun cell => ⟨symbol, change cell.style⟩

/-- Changes the style of an area. -/
def paint (c : Canvas) (a : Area) (change : Style → Style) : Canvas :=
  a.places.foldl
    (fun c (x, y) => c.modify x y fun cell => { cell with style := change cell.style }) c

/-- Writes a text from a place on. -/
def write (c : Canvas) (x y : Nat) : StyledText → Canvas
  | [] => c
  | (symbol, change) :: rest =>
    (c.put x y symbol change).write (x + Text.charWidth symbol) y rest

/-- Writes as much of a text as fits into the first row of an area. -/
def writeIn (c : Canvas) (a : Area) (text : StyledText) : Canvas :=
  if a.isEmpty then c else c.write a.x a.y (clip (·.1) a.width text)

/-- Writes as much of a text as fits, at the right end of the first row of an area. -/
def writeRight (c : Canvas) (a : Area) (text : StyledText) : Canvas :=
  let clipped := clip (·.1) a.width text
  if a.isEmpty then c
  else c.write (a.right - Text.width (clipped.map (·.1))) a.y clipped

/-- Writes the same character to several places. -/
def stroke (c : Canvas) (places : List (Nat × Nat)) (symbol : Char) (change : Style → Style) :
    Canvas :=
  places.foldl (fun c (x, y) => c.put x y symbol change) c

/-- The cells of a row as they can be seen: behind a character of two columns, a blank. -/
def uncovered : (covered : Bool) → List Cell → List Cell
  | _, [] => []
  | covered, cell :: cells =>
    (if covered then .blank else cell) :: uncovered (Text.charWidth cell.symbol = 2) cells

/-- The rows of the canvas as they can be seen. -/
def visible (c : Canvas) : List (List Cell) :=
  (List.range c.height).map fun y => uncovered false ((List.range c.width).map fun x => c.get x y)

end Canvas

end Telemetry.Terminal
