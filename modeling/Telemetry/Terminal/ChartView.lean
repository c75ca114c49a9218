import Telemetry.Chart.Plot
import Telemetry.Terminal.Border
import Telemetry.Terminal.Braille

/-!
Charts.

The texts of the axes are given room first, up to a third of the width; the axes
take a column and a row, and the graph has the rest. Each line is drawn with
Braille dots, one after the other, and the legend comes last, in the upper right
corner if it takes at most a quarter of the graph either way.
-/

namespace Telemetry.Terminal

/-- How the area of a chart is divided. -/
structure ChartLayout where
  graph : Area
  labelRow? : Option Nat
  axisRow? : Option Nat
  axisColumn? : Option Nat
  deriving DecidableEq, Repr

/-- The room left of the graph for the texts of the axes. -/
def sideWidth (width : Nat) (p : Plot) : Nat :=
  let texts := max (Text.width p.bottomText.toList) (Text.width p.topText.toList)
  min (max texts (Text.width p.firstLabel.toList - 1)) (width / 3)

/-- Divides the area of a chart: a row for labels and one for the axis are set aside at the
bottom, and a column for the axis at the left, as long as something is left over. -/
def chartLayout (a : Area) (p : Plot) : ChartLayout :=
  let labelRows := if 1 < a.height then 1 else 0
  let axisRows := if 1 < a.height - labelRows then 1 else 0
  let side := sideWidth a.width p
  let axisColumns := if side + 1 < a.width then 1 else 0
  let height := a.height - labelRows - axisRows
  let left := side + axisColumns
  { graph := ⟨a.x + left, a.y, a.width - left, height⟩
    labelRow? := if labelRows = 1 then some (a.bottom - 1) else none
    axisRow? := if axisRows = 1 then some (a.y + height) else none
    axisColumn? := if axisColumns = 1 then some (a.x + side) else none }

/-! ### Axes -/

/-- A text at the right end of an area, cut off at its left if it is too long. -/
def Canvas.writeEnd (c : Canvas) (a : Area) (text : String) : Canvas :=
  let clipped := clipFront a.width text.toList
  if a.isEmpty then c
  else c.write (a.right - Text.width clipped) a.y (clipped.map (·, id))

/-- The first and the last label below the graph. -/
def Canvas.labels (c : Canvas) (a : Area) (l : ChartLayout) (p : Plot) : Canvas :=
  match l.labelRow? with
  | none => c
  | some y =>
    let half := l.graph.width / 2
    let c := c.writeEnd ⟨a.x, y, l.graph.x - a.x, 1⟩ p.firstLabel
    c.writeEnd ⟨l.graph.right - half, y, half, 1⟩ p.lastLabel

/-- The texts at both ends of the vertical axis. -/
def Canvas.scale (c : Canvas) (a : Area) (l : ChartLayout) (p : Plot) : Canvas :=
  let width := l.graph.x - a.x - 1
  let c := c.writeIn ⟨a.x, l.graph.bottom - 1, width, 1⟩ (styled id p.bottomText)
  c.writeIn ⟨a.x, l.graph.y, width, 1⟩ (styled id p.topText)

def axisStyle : Style → Style := Style.withForeground .darkGray

/-- The lines of the axes and the corner between them. -/
def Canvas.axes (c : Canvas) (l : ChartLayout) : Canvas :=
  let c := match l.axisRow? with
    | some y => c.stroke (rowPlaces l.graph y) '─' axisStyle
    | none => c
  let c := match l.axisColumn? with
    | some x => c.stroke (columnPlaces l.graph x) '│' axisStyle
    | none => c
  match l.axisRow?, l.axisColumn? with
  | some y, some x => c.put x y '└' axisStyle
  | _, _ => c

/-! ### Lines -/

/-- The dot of a point on a grid of the given size, unless the point lies outside. -/
def dotOf (columns rows : Nat) (p : Plot) (point : Nat × Binary64) : Option Dot :=
  let (i, value) := point
  if value.lt .zero || p.top.lt value || p.right < i then none
  else
    let depth := (p.top - value) * .ofNat (rows - 1) / p.top
    some (i * (columns - 1) / p.right, depth.truncate (2 ^ 64 - 1))

/-- The lines between neighbouring dots. -/
def joined : List (Option Dot) → List Dot
  | some p :: some q :: rest => line p q ++ joined (some q :: rest)
  | _ :: rest => joined rest
  | [] => []

/-- The dots of a line of the plot. -/
def lineDots (columns rows : Nat) (p : Plot) (l : PlotLine) : List Dot :=
  let dots := l.points.map (dotOf columns rows p)
  dots.filterMap id ++ joined dots

def Canvas.lines (c : Canvas) (graph : Area) (p : Plot) : Canvas :=
  p.lines.foldl
    (fun c l => c.dots graph (lineDots (2 * graph.width) (4 * graph.height) p l) l.series.color) c

/-! ### Legend -/

/-- A quarter, rounded to nearest. -/
def quarter (n : Nat) : Nat := (n + 2) / 4

/-- Where the legend goes, if it fits. -/
def legendArea? (graph : Area) (p : Plot) : Option Area :=
  match (p.lines.map fun l => Text.width l.series.caption.toList).max? with
  | none => none
  | some longest =>
    let width := longest + 2
    let height := p.lines.length + 2
    if width ≤ quarter graph.width ∧ height ≤ quarter graph.height then
      some ⟨graph.right - width, graph.y, width, height⟩
    else none

/-- The names of the lines, each in its color, between borders. What is drawn below stays
visible where no name covers it. -/
def Canvas.legend (c : Canvas) (graph : Area) (p : Plot) : Canvas :=
  match legendArea? graph p with
  | none => c
  | some a =>
    let c := (c.paint a fun _ => .plain).outline a
    p.lines.zipIdx.foldl
      (fun c (l, i) =>
        let row := a.inner.row i
        (c.paint row (Style.withForeground l.series.color)).writeIn row
          (styled id l.series.caption)) c

/-! ### Whole charts -/

/-- A plot inside an area. -/
def Canvas.plot (c : Canvas) (a : Area) (p : Plot) : Canvas :=
  if a.isEmpty then c
  else
    let l := chartLayout a p
    let c := ((c.labels a l p).scale a l p).axes l
    (c.lines l.graph p).legend l.graph p

/-- A chart with a border; without data it says that it is waiting. -/
def Canvas.chart (c : Canvas) (a : Area) (chart : Chart) (data? : Option ChartData) : Canvas :=
  match data?.filter (!·.labels.isEmpty) with
  | none =>
    let c := (c.paint a axisStyle).border a chart.title
    c.writeIn a.inner (styled id "waiting for data...")
  | some data =>
    let p := chart.plot data
    (c.border a p.title).plot a.inner p

end Telemetry.Terminal
