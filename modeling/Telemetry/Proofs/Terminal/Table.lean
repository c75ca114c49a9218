import Mathlib.Data.List.TakeWhile
import Telemetry.Proofs.Terminal.Canvas
import Telemetry.Terminal.TableView

/-!
What a table shows of its cells.

The columns of a table lie side by side and its rows lie below each other, so every cell
keeps what was drawn for it: the text of the cell, cut off where its column ends.
-/

namespace Telemetry.Terminal

variable {c c' : Canvas} {a row : Area} {t : Table} {rows : List Cells} {cells : Cells}
  {column : Column} {layout : List Column} {text : String} {i j : Nat}
  {style : Style → Style}

/-- Every character takes one column. -/
def OneWide (s : String) : Prop := ∀ ch ∈ s.toList, Text.charWidth ch = 1

instance (s : String) : Decidable (OneWide s) := List.decidableBAll _ s.toList

theorem firstLine_eq (h : OneWide text) : firstLine text = text := by
  have hline : text.toList.takeWhile (· ≠ '\n') = text.toList := by
    refine List.takeWhile_eq_self_iff.mpr fun ch hch => ?_
    have hne : ch ≠ '\n' := by
      rintro rfl
      exact absurd (h '\n' hch) (by decide)
    simpa using hne
  rw [firstLine, hline, String.ofList_toList]

/-! ### Rows -/

/-- Columns lie side by side. -/
def Apart (layout : List Column) : Prop := layout.Pairwise fun p q => p.start + p.width ≤ q.start

theorem Apart.le_start (h : Apart layout) (hcolumn : layout[j]? = some column)
    {p : Column × String} (hp : p ∈ (layout.zip cells).drop (j + 1)) :
    column.start + column.width ≤ p.1.start := by
  obtain ⟨k, hk⟩ := List.mem_iff_getElem?.mp hp
  rw [List.getElem?_drop, List.getElem?_zip_eq_some] at hk
  obtain ⟨hj, rfl⟩ := List.getElem?_eq_some_iff.mp hcolumn
  obtain ⟨hk', hpk⟩ := List.getElem?_eq_some_iff.mp hk.1
  rw [← hpk]
  exact List.pairwise_iff_getElem.mp h j (j + 1 + k) hj hk' (by omega)

theorem Canvas.changesOnly_tableRow (hheight : row.height = 1) (layout : List Column)
    (cells : Cells) (style : Style → Style) (c : Canvas) :
    ChangesOnly (fun _ y => y = row.y) c (c.tableRow row layout cells style) := by
  refine ((changesOnly_paint c row style).mono ?_).trans (.foldl (fun p _ c => ?_) _)
  · intro x y hxy
    simp only [Area.places, hheight, List.range_one, List.flatMap_singleton, List.mem_map,
      Prod.mk.injEq] at hxy
    obtain ⟨k, -, -, rfl⟩ := hxy
    rfl
  · exact (changesOnly_writeIn c _ _).mono fun x y hxy => hxy.2.2

/-- A cell of a row shows its text up to the end of its column. -/
theorem Canvas.textAt_tableRow (hheight : row.height = 1)
    (hc : ∀ k < row.width, c.Has (row.x + k) row.y) (hlayout : Apart layout)
    (hcolumn : layout[j]? = some column) (hfits : column.start + column.width ≤ row.width)
    (htext : cells[j]? = some text) (hwide : OneWide text) :
    let shown := text.toList.take column.width
    (c.tableRow row layout cells style).textAt (row.x + column.start) row.y shown.length =
      shown := by
  intro shown
  have hwidth : (column.area row).width = column.width := Nat.min_eq_left (by omega)
  have hitem : (layout.zip cells)[j]? = some (column, text) :=
    List.getElem?_zip_eq_some.mpr ⟨hcolumn, htext⟩
  refine textAt_foldl (R := fun _ _ => True) hitem
    (fun p _ c => (changesOnly_writeIn c _ _).mono fun _ _ _ => trivial) ?_ ?_
  · intro c' hc'
    have hpaint := changesOnly_paint c row style
    have hchars : (styled id (firstLine text)).map (·.1) = text.toList := by
      rw [firstLine_eq hwide]
      simp [styled, Function.comp_def]
    have hstyled : ∀ ch ∈ (styled id (firstLine text)).map (·.1), Text.charWidth ch = 1 := by
      rwa [hchars]
    have hheight' : 0 < (column.area row).height := by
      rw [Column.area, hheight]
      exact Nat.one_pos
    have hwritten := textAt_writeIn (c := c') (a := column.area row) hstyled hheight' fun k hk =>
      hc'.has (hpaint.has ?_)
    · rw [hchars, hwidth] at hwritten
      exact hwritten
    · rw [hwidth] at hk
      show c.Has (row.x + column.start + k) row.y
      rw [Nat.add_assoc]
      exact hc _ (by omega)
  · intro p hp c
    refine ⟨(p.1.area row).FirstRow, changesOnly_writeIn c _ _, fun k hk hin => ?_⟩
    have hstart := hlayout.le_start hcolumn hp
    have hleft : row.x + p.1.start ≤ row.x + column.start + k := hin.1
    have hshown : shown.length ≤ column.width := List.length_take_le _ _
    omega

/-- Beside its columns a row keeps the characters that were there. -/
theorem Canvas.symbol_tableRow {x y : Nat}
    (hgap : ∀ column ∈ layout, x < row.x + column.start ∨ row.x + column.start + column.width ≤ x)
    (c : Canvas) (cells : Cells) (style : Style → Style) :
    ((c.tableRow row layout cells style).get x y).symbol = (c.get x y).symbol := by
  have hcells : ChangesOnly (fun x' _ => x' ≠ x) (c.paint row style)
      (c.tableRow row layout cells style) := by
    refine .foldl (fun p hp c => (changesOnly_writeIn c _ _).mono ?_) _
    rintro x' y' ⟨hleft, hright, -⟩ rfl
    have hleft : row.x + p.1.start ≤ x' := hleft
    have hright : x' < row.x + p.1.start + min p.1.width (row.width - p.1.start) := hright
    have hcolumn := hgap p.1 (List.of_mem_zip hp).1
    omega
  rw [hcells.frame x y (fun hne => hne rfl), symbol_paint]

/-! ### Tables -/

/-- A canvas has all its cells, and an area lies within it. -/
structure Canvas.Holds (c : Canvas) (a : Area) : Prop where
  size : c.cells.size = c.width * c.height
  right : a.right ≤ c.width
  bottom : a.bottom ≤ c.height

theorem Canvas.holds_blank (width height : Nat) :
    (blank width height).Holds (blank width height).whole where
  size := Array.size_replicate
  right := Nat.le_of_eq (Nat.zero_add width)
  bottom := Nat.le_of_eq (Nat.zero_add height)

theorem Canvas.Holds.has (h : c.Holds a) {x y : Nat} (hx : x < a.right) (hy : y < a.bottom) :
    c.Has x y := by
  refine ⟨hx.trans_le h.right, ?_⟩
  rw [h.size]
  calc
    y * c.width + x < y * c.width + c.width := Nat.add_lt_add_left (hx.trans_le h.right) _
    _ = c.width * (y + 1) := by rw [Nat.mul_succ, Nat.mul_comm]
    _ ≤ c.width * c.height := Nat.mul_le_mul_left _ (hy.trans_le h.bottom)

/-- Every row of a table that there is room for shows its cells. -/
theorem Canvas.textAt_table (hc : c.Holds a) (hwidth : 2 < a.width) (hrow : rows[i]? = some cells)
    (hi : i + 3 < a.height) (hlayout : Apart (columns t (a.width - 2)))
    (hcolumn : (columns t (a.width - 2))[j]? = some column)
    (hfits : column.start + column.width ≤ a.width - 2)
    (htext : (shownCells t (a.width - 2) cells)[j]? = some text) (hwide : OneWide text) :
    let shown := text.toList.take column.width
    (c.table a t rows).textAt (a.x + 1 + column.start) (a.y + 2 + i) shown.length = shown := by
  intro shown
  have hbody : a.inner.isEmpty = false := by
    rw [Area.isEmpty, Bool.or_eq_false_iff, decide_eq_false_iff_not, decide_eq_false_iff_not]
    show ¬ a.width - 2 = 0 ∧ ¬ a.height - 2 = 0
    omega
  have hplace : a.y + 2 + i = (a.inner.row (i + 1)).y := by
    simp only [Area.row, Area.inner]
    omega
  have hitem : ((rows.take (a.inner.height - 1)).zipIdx)[i]? = some (cells, i) := by
    have htake : i < a.inner.height - 1 := by
      simp only [Area.inner]
      omega
    rw [List.getElem?_zipIdx, List.getElem?_take_of_lt htake, hrow]
    simp
  have hstart : ChangesOnly (fun _ _ => True) c
      ((c.border a (tableTitle t ++ s!" ({rows.length})")).tableRow (a.inner.row 0)
        (columns t a.inner.width) (columnTitles t) titleStyle) :=
    ((changesOnly_border c a _).mono fun _ _ _ => trivial).trans
      ((changesOnly_tableRow rfl _ _ _ _).mono fun _ _ _ => trivial)
  rw [table]
  simp only [hbody, Bool.false_eq_true, if_false]
  rw [hplace]
  refine textAt_foldl (R := fun _ _ => True) hitem
    (fun p _ c => (changesOnly_tableRow rfl _ _ _ c).mono fun _ _ _ => trivial) ?_ ?_
  · intro c' hc'
    have hheight : (a.inner.row (i + 1)).height = 1 := rfl
    refine textAt_tableRow hheight (fun k hk => ?_) hlayout hcolumn hfits htext hwide
    refine (hstart.trans hc').has (hc.has ?_ ?_)
    · simp only [Area.row, Area.inner] at hk
      simp only [Area.row, Area.inner, Area.right]
      omega
    · simp only [Area.row, Area.inner, Area.bottom]
      omega
  · intro p hp c
    refine ⟨_, changesOnly_tableRow rfl _ _ _ c, fun k _ hin => ?_⟩
    -- a later row lies further down
    obtain ⟨m, hm⟩ := List.mem_iff_getElem?.mp hp
    rw [List.getElem?_drop, List.getElem?_zipIdx] at hm
    obtain ⟨cells', -, rfl⟩ := Option.map_eq_some_iff.mp hm
    simp only [Area.row] at hin
    omega

/-- Between its columns a table keeps the characters that were there. -/
theorem Canvas.symbol_table {x y : Nat} (hx : a.x < x ∧ x + 1 < a.right)
    (hy : a.y < y ∧ y + 1 < a.bottom)
    (hgap : ∀ column ∈ columns t (a.width - 2),
      x < a.x + 1 + column.start ∨ a.x + 1 + column.start + column.width ≤ x)
    (c : Canvas) (rows : List Cells) :
    ((c.table a t rows).get x y).symbol = (c.get x y).symbol := by
  have hedge : ¬ a.Edge x y := by
    rw [Area.Edge]
    omega
  have hborder (title : String) : (c.border a title).get x y = c.get x y :=
    (changesOnly_border c a title).frame x y hedge
  rw [table]
  split
  · rw [hborder]
  · refine (symbol_foldl (fun p _ c => symbol_tableRow hgap c _ _) _).trans ?_
    rw [symbol_tableRow hgap, hborder]

end Telemetry.Terminal
