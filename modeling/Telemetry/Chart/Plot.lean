import Telemetry.Binary64.Arithmetic
import Telemetry.Chart.Basic
import Telemetry.Readout.ByteSize
import Telemetry.Screen.Basic

/-!
What a chart draws.

A `Plot` is a chart's data made ready for drawing: one line per series, a point
per label with the number of the label as its horizontal place, the two ends of
both axes, and a title that names the newest values.
-/

namespace Telemetry

/-- A line of a plot. -/
structure PlotLine where
  series : Series
  points : List (Nat × Binary64)
  deriving DecidableEq, Repr

structure Plot where
  title : String
  lines : List PlotLine
  /-- The horizontal place of the right end; the left end is zero. -/
  right : Nat
  /-- The value at the upper end; the lower end is zero. -/
  top : Binary64
  firstLabel : String
  lastLabel : String
  /-- The texts at the lower and the upper end. -/
  bottomText : String
  topText : String
  deriving DecidableEq, Repr

namespace Chart

/-- The rate of a number of bytes. -/
def rateText (x : Binary64) : String :=
  Readout.byteSize (UInt64.ofNat (x.truncate (2 ^ 64 - 1))) ++ "/s"

/-- A value as it is written at an axis or in a title. -/
def valueText : Chart → Binary64 → String
  | .network, x => rateText x
  | _, x => Decimal.fixed 0 x

/-- The newest value of each series, named. -/
def newest (c : Chart) (series : List (List Binary64)) : List String :=
  (series.zip c.series).filterMap fun (values, s) =>
    values.getLast?.map fun x => s.caption ++ ": " ++ c.valueText x

/-- The title of a chart with the newest values. -/
def titleOf (c : Chart) (series : List (List Binary64)) : String :=
  match c.newest series with
  | [] => c.title
  | texts => c.title ++ " (now: " ++ " | ".intercalate texts ++ ")"

/-- The greatest value of all series, zero included. -/
def peak (series : List (List Binary64)) : Binary64 := series.flatten.foldl Binary64.max .zero

/-- The double nearest to one and a tenth. -/
def headroom : Binary64 := ⟨0x3FF199999999999A⟩

/-- The upper end of the vertical axis. -/
def topOf (c : Chart) (series : List (List Binary64)) : Binary64 :=
  c.ceiling?.getD ((peak series * headroom).max .one)

/-- The values of a series with the number of each as its horizontal place. -/
def pointsOf (values : List Binary64) : List (Nat × Binary64) :=
  values.zipIdx.map fun (x, i) => (i, x)

/-- The lines of a chart; values beyond its series are not drawn. -/
def linesOf (c : Chart) (series : List (List Binary64)) : List PlotLine :=
  (series.zip c.series).map fun (values, s) => ⟨s, pointsOf values⟩

def plot (c : Chart) (data : ChartData) : Plot where
  title := c.titleOf data.series
  lines := c.linesOf data.series
  right := max (data.labels.length - 1) 1
  top := c.topOf data.series
  firstLabel := data.labels.head?.getD ""
  lastLabel := data.labels.getLast?.getD ""
  bottomText := c.valueText .zero
  topText := c.valueText (c.topOf data.series)

end Chart

end Telemetry
