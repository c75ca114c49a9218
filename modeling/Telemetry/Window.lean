import Telemetry.Binary64.Basic

/-!
Sliding windows over measurements.

A `Window` keeps the newest points of a chart, each a label with one value per
series. Labels and values enter and leave together because they are one point,
so the series of a window can never drift apart.
-/

namespace Telemetry

/-- Appends an item, dropping the first one if the list already holds `capacity` items. At
capacity zero the new item is still kept. -/
def pushCapped {α : Type} (capacity : Nat) (items : List α) (item : α) : List α :=
  (if capacity ≤ items.length then items.drop 1 else items) ++ [item]

/-- A label with one value per series. -/
structure Point where
  label : String
  values : List Binary64
  deriving DecidableEq, Repr

/-- The newest points of a number of series. -/
structure Window where
  seriesCount : Nat
  capacity : Nat
  points : List Point
  deriving DecidableEq, Repr

/-- A point with the wrong number of values. -/
structure ArityError where
  expected : Nat
  got : Nat
  deriving DecidableEq, Repr

def ArityError.message (e : ArityError) : String :=
  s!"expected {e.expected} series values, got {e.got}"

namespace Window

/-- A window without points. It has at least one series and room for at least one point. -/
def empty (seriesCount capacity : Nat) : Window := ⟨max seriesCount 1, max capacity 1, []⟩

/-- Appends a point if it has one value per series. -/
def push (w : Window) (label : String) (values : List Binary64) : Except ArityError Window :=
  if values.length = w.seriesCount then
    .ok { w with points := pushCapped w.capacity w.points ⟨label, values⟩ }
  else .error ⟨w.seriesCount, values.length⟩

def size (w : Window) : Nat := w.points.length

def isEmpty (w : Window) : Bool := w.points.isEmpty

def labels (w : Window) : List String := w.points.map (·.label)

/-- The values of one series, oldest first. -/
def series? (w : Window) (i : Nat) : Option (List Binary64) :=
  if i < w.seriesCount then some (w.points.filterMap (·.values[i]?)) else none

/-- The values of every series. -/
def allSeries (w : Window) : List (List Binary64) :=
  (List.range w.seriesCount).map fun i => w.points.filterMap (·.values[i]?)

/-- The newest value of one series. -/
def latest? (w : Window) (i : Nat) : Option Binary64 :=
  (w.series? i).bind (·.getLast?)

/-- The labels of the window paired with the values of one series. -/
def pointsOf (w : Window) (i : Nat) : List (String × Binary64) :=
  match w.series? i with
  | none => []
  | some values => w.labels.zip values

@[simp] theorem seriesCount_empty (n c : Nat) : (empty n c).seriesCount = max n 1 := rfl

@[simp] theorem capacity_empty (n c : Nat) : (empty n c).capacity = max c 1 := rfl

@[simp] theorem points_empty (n c : Nat) : (empty n c).points = [] := rfl

end Window

end Telemetry
