import Telemetry.Proofs.Terminal.Table
import Telemetry.Proofs.Text.Elision

/-!
Addresses in the table of connections.

An address is elided to a budget before it is drawn. The budget is a share of the width of
the table and knows nothing of the columns. At a width of 82 and more there is room for both
budgets beside the fixed columns and the gaps, and elided addresses are shown whole. In a
narrower table the address columns give way to the fixed ones while the budget does not, and
what is beyond the column is cut off: the end of the address, which eliding was to keep.
-/

namespace Telemetry.Terminal

variable {c : Canvas} {a : Area} {rows : List Cells} {cells : Cells} {column : Column}
  {text s : String} {i j limit width : Nat}

/-! ### Elided texts -/

theorem oneWide_elideMiddle (h : OneWide s) (limit : Nat) :
    OneWide (Text.elideMiddle limit s) := by
  rcases Nat.lt_or_ge limit s.length with hlong | hshort
  · intro ch hch
    rw [Text.toList_elideMiddle hlong, List.mem_append, List.mem_append] at hch
    rcases hch with (hhead | hdots) | htail
    · exact h ch (List.mem_of_mem_take hhead)
    · have hdot : ch = '.' := by simpa using hdots
      rw [hdot]
      decide
    · exact h ch (List.mem_of_mem_drop htail)
  · rwa [Text.elideMiddle_of_le hshort]

theorem length_elideMiddle_le (hlimit : 3 ≤ limit) (s : String) :
    (Text.elideMiddle limit s).toList.length ≤ limit := by
  rw [String.length_toList]
  rcases Nat.lt_or_ge limit s.length with hlong | hshort
  · rw [Text.length_elideMiddle hlong]
    omega
  · rwa [Text.elideMiddle_of_le hshort]

/-! ### Columns and budgets -/

/-- The columns of connections: two for addresses, whatever their widths, and three that keep
theirs. -/
def connectionColumns (first second : Nat) : List Column :=
  [⟨0, first⟩, ⟨first + 1, second⟩, ⟨first + second + 2, 8⟩, ⟨first + second + 11, 12⟩,
    ⟨first + second + 24, 10⟩]

theorem apart_connectionColumns (first second : Nat) :
    Apart (connectionColumns first second) := by
  simp only [Apart, connectionColumns, List.pairwise_cons, List.forall_mem_cons, List.not_mem_nil,
    false_implies, implies_true, List.Pairwise.nil, and_true]
  omega

theorem end_le_of_connectionColumns {first second : Nat} (h : first + second + 34 ≤ width)
    (hcolumn : (connectionColumns first second)[j]? = some column) :
    column.start + column.width ≤ width := by
  have hmem := List.mem_of_getElem? hcolumn
  simp only [connectionColumns, List.mem_cons, List.not_mem_nil, or_false] at hmem
  rcases hmem with rfl | rfl | rfl | rfl | rfl <;> simp only <;> omega

theorem eq_of_connectionColumns_of_lt_two {first second : Nat} (hj : j < 2)
    (hcolumn : (connectionColumns first second)[j]? = some column) :
    column = ⟨0, first⟩ ∨ column = ⟨first + 1, second⟩ := by
  obtain rfl | rfl : j = 0 ∨ j = 1 := by omega
  · exact .inl (Option.some.inj hcolumn).symm
  · exact .inr (Option.some.inj hcolumn).symm

/-- Both budgets have room beside the fixed columns and the gaps. -/
theorem addressBudget_fits_iff (h : 50 ≤ width) :
    2 * addressBudget width + 34 ≤ width ↔ 82 ≤ width := by
  obtain hnarrow | rfl | rfl | hwide : width < 81 ∨ width = 81 ∨ width = 82 ∨ 82 < width := by omega
  · rw [addressBudget]
    omega
  · decide
  · decide
  · rw [addressBudget]
    omega

theorem budget_add_share_le (width : Nat) : width * 30 / 100 + share 30 width ≤ share 60 width := by
  rw [share, share]
  omega

theorem columns_connections (h : 50 ≤ width) :
    ∃ first second, columns .connections width = connectionColumns first second ∧
      first + second + 34 ≤ width ∧
      (addressBudget width ≤ first ∧ addressBudget width ≤ second ↔ 82 ≤ width) := by
  by_cases hnarrow : width ≤ 85
  · refine ⟨(width - 34 + 1) / 2, (width - 34) / 2, ?_, by omega, ?_⟩
    · rw [columns, if_pos hnarrow, connectionColumns]
      simp only [List.cons.injEq, Column.mk.injEq, true_and, and_true]
      omega
    · rw [← addressBudget_fits_iff h]
      omega
  · have hshare := budget_add_share_le width
    refine ⟨share 30 width, share 60 width - share 30 width, ?_, ?_, ?_⟩
    · rw [columns, if_neg hnarrow, connectionColumns]
      simp only [List.cons.injEq, Column.mk.injEq, true_and, and_true]
      omega
    · rw [share, share]
      omega
    · have hfirst : addressBudget width ≤ share 30 width := by
        rw [addressBudget, share]
        omega
      rw [addressBudget] at hfirst ⊢
      omega

theorem shownCells_connections (htext : cells[j]? = some text) (width : Nat) :
    (shownCells .connections width cells)[j]? =
      some (if j < 2 then Text.elideMiddle (addressBudget width) text else text) := by
  rw [shownCells, List.getElem?_map, List.getElem?_zipIdx, htext, Option.map_some, Option.map_some,
    Nat.zero_add]
  rfl

/-! ### What is drawn -/

/-- Each cell of a connection is shown up to the end of its column. -/
theorem textAt_connections (hc : c.Holds a) (hwidth : 52 ≤ a.width) (hrow : rows[i]? = some cells)
    (hi : i + 3 < a.height) (hcells : ∀ text ∈ cells, OneWide text)
    (hcolumn : (columns .connections (a.width - 2))[j]? = some column)
    (htext : cells[j]? = some text) :
    let cell := if j < 2 then Text.elideMiddle (addressBudget (a.width - 2)) text else text
    let shown := cell.toList.take column.width
    (c.table a .connections rows).textAt (a.x + 1 + column.start) (a.y + 2 + i) shown.length =
      shown := by
  intro cell
  have hinner : 50 ≤ a.width - 2 := by omega
  obtain ⟨first, second, hcolumns, hroom, -⟩ := columns_connections hinner
  have hapart : Apart (columns .connections (a.width - 2)) := by
    rw [hcolumns]
    exact apart_connectionColumns first second
  have hfits : column.start + column.width ≤ a.width - 2 := by
    rw [hcolumns] at hcolumn
    exact end_le_of_connectionColumns hroom hcolumn
  have hwide : OneWide cell := by
    have htext' := hcells text (List.mem_of_getElem? htext)
    simp only [cell]
    split
    · exact oneWide_elideMiddle htext' _
    · exact htext'
  exact Canvas.textAt_table hc (by omega) hrow hi hapart hcolumn hfits
    (shownCells_connections htext _) hwide

/-- On a blank canvas a text without blanks that is longer than the column of its address is not
shown whole: a gap follows the column. -/
theorem textAt_ne_of_width_lt {height : Nat} {shown : List Char} (h : 50 ≤ width)
    (hi : i + 3 < height) (hj : j < 2) (hcolumn : (columns .connections width)[j]? = some column)
    (hlong : column.width < shown.length) (hblank : ' ' ∉ shown) (rows : List Cells) :
    let c := Canvas.blank (width + 2) height
    (c.table c.whole .connections rows).textAt (1 + column.start) (2 + i) shown.length ≠ shown := by
  intro c hwhole
  obtain ⟨first, second, hcolumns, hroom, -⟩ := columns_connections h
  have hplace : column.start + column.width = first ∨
      column.start + column.width = first + second + 1 := by
    rw [hcolumns] at hcolumn
    rcases eq_of_connectionColumns_of_lt_two hj hcolumn with rfl | rfl
    · exact .inl (Nat.zero_add first)
    · exact .inr (by simp only; omega)
  have hgap : ∀ column' ∈ columns .connections (c.whole.width - 2),
      1 + column.start + column.width < c.whole.x + 1 + column'.start ∨
        c.whole.x + 1 + column'.start + column'.width ≤ 1 + column.start + column.width := by
    show ∀ column' ∈ columns .connections width, _ < 0 + 1 + column'.start ∨
      0 + 1 + column'.start + column'.width ≤ _
    rw [hcolumns]
    simp only [connectionColumns, List.forall_mem_cons, List.not_mem_nil, false_implies,
      implies_true, and_true]
    omega
  have hx : c.whole.x < 1 + column.start + column.width ∧
      1 + column.start + column.width + 1 < c.whole.right := by
    show 0 < _ ∧ _ < 0 + (width + 2)
    omega
  have hy : c.whole.y < 2 + i ∧ 2 + i + 1 < c.whole.bottom := by
    show 0 < _ ∧ _ < 0 + height
    omega
  have hsymbol := Canvas.symbol_table hx hy hgap c rows
  rw [Canvas.get_blank] at hsymbol
  have hmem := Canvas.symbol_mem_textAt hlong (c.table c.whole .connections rows)
    (1 + column.start) (2 + i)
  rw [hwhole, hsymbol] at hmem
  exact hblank hmem

/-- **What is shown of a connection.** Each cell is shown up to the end of its column, addresses
after they were elided to their budget, and the three columns behind them have their full widths.
The budgets fit their columns if and only if the table is at least 82 columns wide inside, and then
elided addresses are shown whole. -/
theorem connections_shown (hc : c.Holds a) (hwidth : 52 ≤ a.width) (hrow : rows[i]? = some cells)
    (hi : i + 3 < a.height) (hcells : ∀ text ∈ cells, OneWide text) :
    let width := a.width - 2
    let drawn := c.table a .connections rows
    ∃ first second, columns .connections width = connectionColumns first second ∧
      first + second + 34 ≤ width ∧
      (addressBudget width ≤ first ∧ addressBudget width ≤ second ↔ 82 ≤ width) ∧
      (2 * addressBudget width + 34 ≤ width ↔ 82 ≤ width) ∧
      (∀ j column text, (columns .connections width)[j]? = some column → cells[j]? = some text →
        let cell := if j < 2 then Text.elideMiddle (addressBudget width) text else text
        let shown := cell.toList.take column.width
        drawn.textAt (a.x + 1 + column.start) (a.y + 2 + i) shown.length = shown) ∧
      (82 ≤ width → ∀ j column text, j < 2 → (columns .connections width)[j]? = some column →
        cells[j]? = some text →
        let elided := (Text.elideMiddle (addressBudget width) text).toList
        drawn.textAt (a.x + 1 + column.start) (a.y + 2 + i) elided.length = elided) := by
  intro width drawn
  have hinner : 50 ≤ width := Nat.le_sub_of_add_le hwidth
  obtain ⟨first, second, hcolumns, hroom, hbudgets⟩ := columns_connections hinner
  refine ⟨first, second, hcolumns, hroom, hbudgets, addressBudget_fits_iff hinner,
    fun j column text => textAt_connections hc hwidth hrow hi hcells, ?_⟩
  intro hwide j column text hj hcolumn htext elided
  have hcell := textAt_connections hc hwidth hrow hi hcells hcolumn htext
  have hfits : elided.length ≤ column.width := by
    have hbudget : elided.length ≤ addressBudget width :=
      length_elideMiddle_le (Nat.le_trans (by decide) (Nat.le_max_left 8 _)) text
    obtain ⟨hfirst, hsecond⟩ := hbudgets.mpr hwide
    rw [hcolumns] at hcolumn
    rcases eq_of_connectionColumns_of_lt_two hj hcolumn with rfl | rfl
    · exact Nat.le_trans hbudget hfirst
    · exact Nat.le_trans hbudget hsecond
  simp only [if_pos hj] at hcell
  rwa [List.take_of_length_le hfits] at hcell

/-- At a width of 82 an address of 24 characters is shown whole, and a longer one with its port. -/
theorem connections_shown_whole :
    let c := Canvas.blank 84 4
    let source := "[2001:db8:11:2::7]:51515"
    let destination := "[2001:db8:1:2:3:4:5:6]:443"
    let cells := [source, destination, "TCP", "1.00 KB", "7"]
    let drawn := c.table c.whole .connections [cells]
    let elided (text : String) := (Text.elideMiddle (addressBudget (c.whole.width - 2)) text).toList
    c.Holds c.whole ∧ 52 ≤ c.whole.width ∧ 0 + 3 < c.whole.height ∧
      (∀ text ∈ cells, OneWide text) ∧
      elided source = source.toList ∧ elided destination = "[2001:db8:...:4:5:6]:443".toList ∧
      drawn.textAt 1 2 (elided source).length = elided source ∧
      drawn.textAt 26 2 (elided destination).length = elided destination := by
  intro c source destination cells drawn elided
  have hc : c.Holds c.whole := Canvas.holds_blank 84 4
  have hcells : ∀ text ∈ cells, OneWide text := by decide
  have hrow : [cells][0]? = some cells := rfl
  obtain ⟨-, -, -, -, -, -, -, hwhole⟩ :=
    connections_shown hc (by decide) hrow (by decide) hcells
  refine ⟨hc, by decide, by decide, hcells, by decide, by decide, ?_, ?_⟩
  · exact hwhole (by decide) 0 ⟨0, 24⟩ source (by decide) (by decide) rfl
  · exact hwhole (by decide) 1 ⟨25, 24⟩ destination (by decide) (by decide) rfl

/-- **The end of an address is cut off.** At a width of 78 the budgets do not fit, and an address of
23 characters, which the budget lets pass, loses the last digit of its port. -/
theorem connections_cut :
    let c := Canvas.blank 80 4
    let source := "[2001:db8:1:2::7]:51515"
    let cells := [source, "10.0.0.1:443", "TCP", "1.00 KB", "7"]
    let drawn := c.table c.whole .connections [cells]
    let elided := (Text.elideMiddle (addressBudget (c.whole.width - 2)) source).toList
    c.Holds c.whole ∧ 50 ≤ c.whole.width - 2 ∧ (∀ text ∈ cells, OneWide text) ∧
      ¬ 2 * addressBudget (c.whole.width - 2) + 34 ≤ c.whole.width - 2 ∧
      (columns .connections (c.whole.width - 2))[0]? = some ⟨0, 22⟩ ∧ elided = source.toList ∧
      drawn.textAt 1 2 22 = "[2001:db8:1:2::7]:5151".toList ∧
      drawn.textAt 1 2 elided.length ≠ elided := by
  intro c source cells drawn elided
  have hc : c.Holds c.whole := Canvas.holds_blank 80 4
  have hcells : ∀ text ∈ cells, OneWide text := by decide
  have hrow : [cells][0]? = some cells := rfl
  have htext : cells[0]? = some source := rfl
  have hcolumn : (columns .connections 78)[0]? = some ⟨0, 22⟩ := by decide
  have htaken : elided.take 22 = "[2001:db8:1:2::7]:5151".toList := by decide
  have hshown := textAt_connections hc (by decide) hrow (by decide) hcells hcolumn htext
  simp only [if_pos Nat.zero_lt_two] at hshown
  change drawn.textAt 1 2 (elided.take 22).length = elided.take 22 at hshown
  rw [htaken] at hshown
  have hlast : 0 + 3 < 4 := by decide
  have hblank : ' ' ∉ elided := by decide
  have hcut :=
    textAt_ne_of_width_lt (by decide) hlast (by decide) hcolumn (by decide) hblank [cells]
  exact ⟨hc, by decide, hcells, by decide, hcolumn, by decide, hshown, hcut⟩

end Telemetry.Terminal
