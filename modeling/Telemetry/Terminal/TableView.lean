import Telemetry.Screen.Basic
import Telemetry.Terminal.Border
import Telemetry.Text.Measure

/-!
Tables.

The columns of a table share the width of its area: columns of fixed width keep
theirs, and the address columns have the rest between them up to a share of the
whole. An address is shortened to a budget of its own before it is drawn, and
whatever is wider than its column is cut off at the right.
-/

namespace Telemetry.Terminal

/-- Where a column lies within the area of a table. -/
structure Column where
  start : Nat
  width : Nat
  deriving DecidableEq, Repr

/-- A share of a width in hundredths, rounded to nearest. -/
def share (hundredths width : Nat) : Nat := (hundredths * width + 50) / 100

/-- The columns of a table of the given inner width, one apart. -/
def columns : Table → (width : Nat) → List Column
  | .connections, width =>
    if width ≤ 85 then
      let addresses := width - 34
      let first := (addresses + 1) / 2
      [⟨0, first⟩, ⟨first + 1, addresses / 2⟩, ⟨width - 32, 8⟩, ⟨width - 23, 12⟩, ⟨width - 10, 10⟩]
    else
      let first := share 30 width
      let second := share 60 width + 1
      [⟨0, first⟩, ⟨first + 1, second - (first + 1)⟩, ⟨second + 1, 8⟩, ⟨second + 10, 12⟩,
       ⟨second + 23, 10⟩]
  | .hosts, width =>
    let first := if width < 38 then width - 15 else share 60 width
    [⟨0, first⟩, ⟨first + 1, 14⟩]

/-- The titles of the columns. -/
def columnTitles : Table → List String
  | .connections => ["Source", "Destination", "Proto", "Bytes", "Packets"]
  | .hosts => ["IP", "Bytes"]

/-- How many columns, from the left, hold addresses. -/
def addressColumns : Table → Nat
  | .connections => 2
  | .hosts => 1

/-- How many characters of an address are shown in a table of the given inner width. -/
def addressBudget (width : Nat) : Nat := max 8 (width * 30 / 100)

/-- The cells of a row as they are drawn. -/
def shownCells (t : Table) (width : Nat) (cells : Cells) : Cells :=
  cells.zipIdx.map fun (text, i) =>
    if i < addressColumns t then Text.elideMiddle (addressBudget width) text else text

/-- The first line of a text. -/
def firstLine (s : String) : String := String.ofList (s.toList.takeWhile (· ≠ '\n'))

def tableTitle : Table → String
  | .connections => "Top Connections"
  | .hosts => "Top Hosts"

/-- The background of every second row. -/
def stripe : Color := .rgb 30 30 38

/-- How a row looks: the titles stand out, and every second row has a background. -/
def rowStyle (index : Nat) : Style → Style :=
  if index % 2 = 1 then Style.withBackground stripe else id

def titleStyle (s : Style) : Style := (s.withForeground .cyan).withBold

/-- The area of a column in a row. -/
def Column.area (column : Column) (row : Area) : Area :=
  ⟨row.x + column.start, row.y, min column.width (row.width - column.start), row.height⟩

/-- Cells side by side in a row. -/
def Canvas.tableRow (c : Canvas) (row : Area) (columns : List Column) (cells : Cells)
    (style : Style → Style) : Canvas :=
  (columns.zip cells).foldl
    (fun c (column, text) => c.writeIn (column.area row) (styled id (firstLine text)))
    (c.paint row style)

/-- A table with a border, its title saying how many rows there are. -/
def Canvas.table (c : Canvas) (a : Area) (t : Table) (rows : List Cells) : Canvas :=
  let c := c.border a (tableTitle t ++ s!" ({rows.length})")
  let body := a.inner
  if body.isEmpty then c
  else
    let columns := columns t body.width
    let c := c.tableRow (body.row 0) columns (columnTitles t) titleStyle
    (rows.take (body.height - 1)).zipIdx.foldl
      (fun c (cells, i) =>
        c.tableRow (body.row (i + 1)) columns (shownCells t body.width cells) (rowStyle i)) c

end Telemetry.Terminal
