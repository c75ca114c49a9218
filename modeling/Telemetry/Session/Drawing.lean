import Telemetry.Session.Basic
import Telemetry.Terminal.ChartView
import Telemetry.Terminal.FieldList
import Telemetry.Terminal.Header
import Telemetry.Terminal.TableView

/-!
How a session is drawn.

The header has the first row and the active panel the rest. The overview stands
in two columns, the metrics at the left and the charts below each other at the
right; the two tables stand above each other.
-/

namespace Telemetry

open Terminal

namespace Session

/-- The rows of the header and of the panel. -/
def rootAreas (a : Area) : Area × Area :=
  (⟨a.x, a.y, a.width, min 1 a.height⟩, ⟨a.x, a.y + 1, a.width, a.height - 1⟩)

/-- The columns of the overview, for the metrics and for the charts. -/
def overviewAreas (a : Area) : Area × Area :=
  let left := if 56 ≤ a.width then 36 else a.width - 20
  (⟨a.x, a.y, left, a.height⟩, ⟨a.x + left, a.y, a.width - left, a.height⟩)

/-- The row in which the band with the given number begins, of three bands of a height. -/
def bandStart (height number : Nat) : Nat := (2 * number * height + 3) / 6

/-- The areas of the charts. -/
def chartAreas (a : Area) : List Area :=
  (List.range 3).map fun i =>
    ⟨a.x, a.y + bandStart a.height i, a.width, bandStart a.height (i + 1) - bandStart a.height i⟩

/-- The areas of the two tables. -/
def tableAreas (a : Area) : Area × Area :=
  let upper := share 60 a.height
  (⟨a.x, a.y, a.width, upper⟩, ⟨a.x, a.y + upper, a.width, a.height - upper⟩)

/-- The captions of the overview with the slots of their fields. -/
def metricEntries : List (String × String) :=
  overviewMetrics.map fun (caption, name) => (caption, Readout.metricSlot name)

/-- A panel of a session. -/
def drawPanel (s : Session) (c : Canvas) (a : Area) : Panel → Canvas
  | .overview =>
    let (left, right) := overviewAreas a
    let c := c.fieldList left "Metrics" metricEntries s.screen
    (Chart.all.zip (chartAreas right)).foldl
      (fun c (chart, area) => c.chart area chart (s.screen.chart? chart)) c
  | .network =>
    let (upper, lower) := tableAreas a
    let c := c.table upper .connections (s.screen.rows .connections)
    c.table lower .hosts (s.screen.rows .hosts)
  | .system => c.fieldList a "System" systemFields s.screen

/-- The session on a terminal of the given size. -/
def draw (s : Session) (width height : Nat) : Canvas :=
  let c := Canvas.blank width height
  let (header, body) := rootAreas c.whole
  s.drawPanel (c.header header s.dashboard.active s.target) body s.dashboard.active

end Session

end Telemetry
