import Telemetry.Proofs.Window.Pushes

/-!
A window by columns.

A window keeps a label and its values together. Here they are kept apart: one
queue of labels and one of values for each series, every one of which drops its
oldest item by itself. They stay in step all the same, since a point is appended
to all of them or to none: whatever is pushed, the columns are those of the window
(`Columns.pushAll_columns`). So all that can be read off a window is known from the
points that were taken (`Window.holds_newest_taken`).
-/

namespace Telemetry

/-- Labels and values in queues of their own. -/
structure Columns where
  labels : List String
  series : List (List Binary64)
  capacity : Nat
  deriving DecidableEq

/-- The columns of a window. -/
def Window.columns (w : Window) : Columns := ⟨w.labels, w.allSeries, w.capacity⟩

/-- What pushing a point answers: nothing, if it has one value per series. -/
def Point.answer (seriesCount : Nat) (p : Point) : Option ArityError :=
  if p.values.length = seriesCount then none else some ⟨seriesCount, p.values.length⟩

namespace Columns

/-- Columns without items. There is at least one series, and room for at least one item. -/
def empty (seriesCount capacity : Nat) : Columns :=
  ⟨[], List.replicate (max seriesCount 1) [], max capacity 1⟩

/-- Appends a point to every queue if it has one value per series. -/
def push (b : Columns) (p : Point) : Option ArityError × Columns :=
  if p.values.length = b.series.length then
    (none, { b with
      labels := pushCapped b.capacity b.labels p.label
      series := List.zipWith (pushCapped b.capacity) b.series p.values })
  else (some ⟨b.series.length, p.values.length⟩, b)

/-- The answers to pushes one after the other, and the columns behind them. -/
def pushAll (b : Columns) : List Point → List (Option ArityError) × Columns
  | [] => ([], b)
  | p :: ps =>
    let (answer, behind) := b.push p
    let (answers, last) := behind.pushAll ps
    (answer :: answers, last)

theorem columns_empty (n c : Nat) : (Window.empty n c).columns = empty n c := by
  simp [Window.columns, Window.labels, Window.allSeries, empty, List.map_const']

variable {w : Window}

theorem allSeries_pushed (h : w.Filled) {p : Point} (hp : p.values.length = w.seriesCount) :
    (w.pushed p).allSeries = List.zipWith (pushCapped w.capacity) w.allSeries p.values := by
  have hcount : (w.pushed p).seriesCount = w.seriesCount := Window.seriesCount_pushed w p
  refine List.ext_getElem (by simp [Window.allSeries, hp]) fun i h₁ _ => ?_
  have hi : i < w.seriesCount := by simpa [Window.allSeries, hcount] using h₁
  have hlength : i < p.values.length := hp ▸ hi
  have hvalue : p.values[i]? = some p.values[i] := List.getElem?_eq_getElem hlength
  have hpoints : (w.pushed p).points = pushCapped w.capacity w.points p := by
    rw [Window.pushed_of_length hp]
  simp only [Window.allSeries, List.getElem_map, List.getElem_range, List.getElem_zipWith, hpoints]
  exact filterMap_pushCapped (fun q hq => h.getElem? hq hi) hvalue

/-- A push does to the columns of a window what it does to the window. -/
theorem push_columns (h : w.Filled) (p : Point) :
    w.columns.push p = (p.answer w.seriesCount, (w.pushed p).columns) := by
  have hcount : w.columns.series.length = w.seriesCount := by
    simp [Window.columns, Window.allSeries]
  rw [push, hcount, Point.answer]
  by_cases hp : p.values.length = w.seriesCount
  · rw [if_pos hp, if_pos hp, Window.columns, Window.columns, allSeries_pushed h hp,
      Window.capacity_pushed, Window.labels, Window.labels, Window.pushed_of_length hp,
      map_pushCapped]
  · rw [if_neg hp, if_neg hp, Window.pushed_of_length_ne hp]

/-- **The queues stay in step.** -/
theorem pushAll_columns (h : w.Filled) (ps : List Point) :
    w.columns.pushAll ps = (ps.map (Point.answer w.seriesCount), (w.pushAll ps).columns) := by
  induction ps generalizing w with
  | nil => rfl
  | cons p ps ih =>
      simp only [pushAll, push_columns h p, ih (h.pushed p), Window.seriesCount_pushed,
        Window.pushAll_cons, List.map_cons]

end Columns

/-- **A window slides over the points that were taken.** A push is refused if and only if it has
not one value per series, and changes nothing then. Of the points that were taken the window holds
the newest, as many as its capacity allows: their labels in order, and for each series the values
that were pushed together with them. There is nothing to be read of a series that does not exist.
Labels and series that are kept in queues of their own give the same answers and the same
contents. -/
theorem Window.holds_newest_taken (n c : Nat) (ps : List Point) :
    let count := max n 1
    let capacity := max c 1
    let w := (empty n c).pushAll ps
    let accepted := taken count ps
    let kept := accepted.rtake (min accepted.length capacity)
    ((∀ label values e, w.push label values = .error e ↔
        values.length ≠ count ∧ e = ⟨count, values.length⟩) ∧
      ∀ p : Point, p.values.length ≠ count → (empty n c).pushAll (ps ++ [p]) = w) ∧
    w.size = min accepted.length capacity ∧
    w.labels = kept.map (·.label) ∧
    (∀ i < count,
      (w.series? i).map (List.map some) = some (kept.map (·.values[i]?)) ∧
      w.latest? i = accepted.getLast?.bind (·.values[i]?) ∧
      (w.pointsOf i).map (fun x => (x.1, some x.2)) =
        kept.map fun p => (p.label, p.values[i]?)) ∧
    (∀ i, count ≤ i → w.series? i = none ∧ w.latest? i = none ∧ w.pointsOf i = []) ∧
    (w.capacity = capacity ∧ w.seriesCount = count) ∧
    (Columns.empty n c).pushAll ps = (ps.map (Point.answer count), w.columns) := by
  intro count capacity w accepted kept
  have hfilled : w.Filled := (filled_empty n c).pushAll ps
  have hcount : w.seriesCount = count := seriesCount_pushAll _ ps
  have hcapacity : w.capacity = capacity := capacity_pushAll _ ps
  have hpos : 0 < capacity := Nat.le_max_right c 1
  have hpoints : w.points = kept := by
    rw [points_pushAll_empty]
    exact (rtake_min_length _ _).symm
  have hlast : w.points.getLast? = accepted.getLast? := by
    rw [points_pushAll_empty, getLast?_rtake hpos]
  refine ⟨⟨?_, ?_⟩, ?_, ?_, ?_, ?_, ⟨hcapacity, hcount⟩, ?_⟩
  · intro label values e
    rw [push_eq_error_iff, hcount]
  · intro p hp
    rw [pushAll_append]
    exact pushed_of_length_ne (hcount ▸ hp)
  · rw [size, points_pushAll_empty, length_rtake]
  · rw [labels, hpoints]
  · intro i hi
    have hi : i < w.seriesCount := hcount ▸ hi
    exact ⟨hpoints ▸ hfilled.map_series? hi, hlast ▸ hfilled.latest? hi,
      hpoints ▸ hfilled.map_pointsOf hi⟩
  · intro i hi
    have hnone : w.series? i = none := series?_of_le (hcount ▸ hi)
    simp [latest?, pointsOf, hnone]
  · rw [← Columns.columns_empty]
    exact Columns.pushAll_columns (filled_empty n c) ps

/-- There is one series with room for one point where none was asked for. -/
example : ((Window.empty 0 0).pushAll [⟨"a", [⟨1⟩]⟩, ⟨"b", [⟨2⟩]⟩, ⟨"c", []⟩]).points =
    [⟨"b", [⟨2⟩]⟩] := by decide

end Telemetry
