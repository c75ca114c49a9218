import Telemetry.Proofs.Window.Capped

/-!
A window behind any pushes.

A point with one value per series is taken and any other is refused, so that what
a window holds is decided by the points that were taken: it is the newest of them
(`Window.points_pushAll_empty`). Since every point of the window then has a value
for every series, nothing is passed over when it is read series by series
(`Window.Filled.map_series?`, `Window.Filled.map_pointsOf`).
-/

namespace Telemetry

namespace Window

variable {w : Window} {p : Point} {ps : List Point} {i : Nat}

/-! ### One push -/

/-- The window behind a push. A point that is refused leaves it as it is. -/
def pushed (w : Window) (p : Point) : Window :=
  match w.push p.label p.values with
  | .ok w' => w'
  | .error _ => w

theorem push_eq_error_iff {label : String} {values : List Binary64} {e : ArityError} :
    w.push label values = .error e ↔
      values.length ≠ w.seriesCount ∧ e = ⟨w.seriesCount, values.length⟩ := by
  rw [push]
  by_cases hlength : values.length = w.seriesCount
  · rw [if_pos hlength]
    exact iff_of_false nofun fun h => h.1 hlength
  · rw [if_neg hlength, Except.error.injEq, eq_comm]
    exact (and_iff_right hlength).symm

theorem pushed_of_length (h : p.values.length = w.seriesCount) :
    w.pushed p = { w with points := pushCapped w.capacity w.points p } := by
  rw [pushed, push, if_pos h]

theorem pushed_of_length_ne (h : p.values.length ≠ w.seriesCount) : w.pushed p = w := by
  rw [pushed, push, if_neg h]

@[simp] theorem seriesCount_pushed (w : Window) (p : Point) :
    (w.pushed p).seriesCount = w.seriesCount := by
  by_cases h : p.values.length = w.seriesCount
  · rw [pushed_of_length h]
  · rw [pushed_of_length_ne h]

@[simp] theorem capacity_pushed (w : Window) (p : Point) :
    (w.pushed p).capacity = w.capacity := by
  by_cases h : p.values.length = w.seriesCount
  · rw [pushed_of_length h]
  · rw [pushed_of_length_ne h]

/-! ### Pushes one after the other -/

/-- The window behind pushes, the first one first. -/
def pushAll (w : Window) (ps : List Point) : Window := ps.foldl pushed w

@[simp] theorem pushAll_nil (w : Window) : w.pushAll [] = w := rfl

@[simp] theorem pushAll_cons (w : Window) (p : Point) (ps : List Point) :
    w.pushAll (p :: ps) = (w.pushed p).pushAll ps := rfl

theorem pushAll_append (w : Window) (ps qs : List Point) :
    w.pushAll (ps ++ qs) = (w.pushAll ps).pushAll qs :=
  List.foldl_append

@[simp] theorem seriesCount_pushAll (w : Window) (ps : List Point) :
    (w.pushAll ps).seriesCount = w.seriesCount := by
  induction ps generalizing w with
  | nil => rfl
  | cons p ps ih => rw [pushAll_cons, ih, seriesCount_pushed]

@[simp] theorem capacity_pushAll (w : Window) (ps : List Point) :
    (w.pushAll ps).capacity = w.capacity := by
  induction ps generalizing w with
  | nil => rfl
  | cons p ps ih => rw [pushAll_cons, ih, capacity_pushed]

/-- The points with one value for each of a number of series. -/
def taken (seriesCount : Nat) (ps : List Point) : List Point :=
  ps.filter fun p => p.values.length = seriesCount

/-- A window that holds the newest of some points holds, behind any pushes, the newest of them
and of those taken since. -/
theorem points_pushAll {older : List Point} (hpos : 0 < w.capacity)
    (hpoints : w.points = older.rtake w.capacity) (ps : List Point) :
    (w.pushAll ps).points = (older ++ taken w.seriesCount ps).rtake w.capacity := by
  induction ps generalizing w older with
  | nil => simpa [taken] using hpoints
  | cons p ps ih =>
      rw [pushAll_cons]
      by_cases hp : p.values.length = w.seriesCount
      · have hpushed : (w.pushed p).points = (older ++ [p]).rtake (w.pushed p).capacity := by
          rw [capacity_pushed, pushed_of_length hp, hpoints, pushCapped_rtake hpos]
        rw [ih (by simpa using hpos) hpushed]
        simp [taken, hp]
      · rw [pushed_of_length_ne hp, ih hpos hpoints]
        simp [taken, hp]

theorem points_pushAll_empty (n c : Nat) (ps : List Point) :
    ((empty n c).pushAll ps).points = (taken (max n 1) ps).rtake (max c 1) := by
  have hpos : 0 < (empty n c).capacity := Nat.le_max_right c 1
  have hpoints : (empty n c).points = [].rtake (empty n c).capacity := by simp
  rw [points_pushAll hpos hpoints, List.nil_append, seriesCount_empty, capacity_empty]

/-! ### Reading series by series -/

/-- Every point of the window has one value per series. -/
def Filled (w : Window) : Prop := ∀ p ∈ w.points, p.values.length = w.seriesCount

theorem filled_empty (n c : Nat) : (empty n c).Filled := by simp [Filled]

theorem Filled.pushed (h : w.Filled) (p : Point) : (w.pushed p).Filled := by
  by_cases hp : p.values.length = w.seriesCount
  · rw [pushed_of_length hp]
    intro q hq
    rcases mem_pushCapped hq with hq | rfl
    · exact h q hq
    · exact hp
  · rwa [pushed_of_length_ne hp]

theorem Filled.pushAll (h : w.Filled) (ps : List Point) : (w.pushAll ps).Filled := by
  induction ps generalizing w with
  | nil => exact h
  | cons p ps ih => exact ih (h.pushed p)

theorem Filled.getElem? (h : w.Filled) (hp : p ∈ w.points) (hi : i < w.seriesCount) :
    ∃ v, p.values[i]? = some v :=
  ⟨_, List.getElem?_eq_getElem (h p hp ▸ hi)⟩

theorem series?_of_le (hi : w.seriesCount ≤ i) : w.series? i = none := by
  rw [series?, if_neg (by omega)]

theorem Filled.map_series? (h : w.Filled) (hi : i < w.seriesCount) :
    (w.series? i).map (List.map some) = some (w.points.map (·.values[i]?)) := by
  rw [series?, if_pos hi, Option.map_some, map_some_filterMap fun p hp => h.getElem? hp hi]

theorem Filled.latest? (h : w.Filled) (hi : i < w.seriesCount) :
    w.latest? i = w.points.getLast?.bind (·.values[i]?) := by
  have hvalues := map_some_filterMap fun p hp => h.getElem? (p := p) hp hi
  have hlast : (w.points.filterMap (·.values[i]?)).getLast?.map some =
      w.points.getLast?.map (·.values[i]?) := by
    rw [← List.getLast?_map, hvalues, List.getLast?_map]
  rw [Window.latest?, series?, if_pos hi, Option.bind_some]
  cases hp : w.points.getLast? with
  | none =>
      rw [hp] at hlast
      exact Option.map_eq_none_iff.1 hlast
  | some p =>
      rw [hp, Option.map_some] at hlast
      obtain ⟨v, hv, hsome⟩ := Option.map_eq_some_iff.1 hlast
      rw [hv, hsome]
      rfl

theorem Filled.map_pointsOf (h : w.Filled) (hi : i < w.seriesCount) :
    (w.pointsOf i).map (fun x => (x.1, some x.2)) =
      w.points.map fun p => (p.label, p.values[i]?) := by
  have hvalues := map_some_filterMap fun p hp => h.getElem? (p := p) hp hi
  have hpoints : w.pointsOf i = w.labels.zip (w.points.filterMap (·.values[i]?)) := by
    rw [pointsOf, series?, if_pos hi]
  calc (w.pointsOf i).map (fun x => (x.1, some x.2))
      = w.labels.zip ((w.points.filterMap (·.values[i]?)).map some) := by
        rw [hpoints, List.zip_map_right]
        rfl
    _ = (w.points.map (·.label)).zip (w.points.map (·.values[i]?)) := by rw [hvalues, labels]
    _ = w.points.map fun p => (p.label, p.values[i]?) := List.zip_map' ..

end Window

end Telemetry
