import Telemetry.Terminal.Border

/-!
What drawing changes.

Every way of drawing keeps the shape of the canvas and changes cells of some region only.
`ChangesOnly` says so, and it composes: drawings one after the other change what lies in one
of their regions. What stays in a cell is therefore what was drawn there last, and a text of
characters one column wide stays as it was written, one character to a cell, until something
is drawn over it.
-/

namespace Telemetry.Terminal

/-- The first row of an area. -/
def Area.FirstRow (a : Area) (x y : Nat) : Prop := a.x ≤ x ∧ x < a.right ∧ y = a.y

/-- The outermost columns and rows of an area, as far as they reach. -/
def Area.Edge (a : Area) (x y : Nat) : Prop :=
  (x = a.x ∨ x = a.right - 1) ∨ y = a.y ∨ y = a.bottom - 1

namespace Canvas

variable {c c' c'' : Canvas} {R S : Nat → Nat → Prop} {x y x' y' n : Nat} {a : Area}

/-- The places of a canvas that hold a cell. -/
def Has (c : Canvas) (x y : Nat) : Prop := x < c.width ∧ y * c.width + x < c.cells.size

/-- From one canvas to the other only cells of a region have changed. -/
structure ChangesOnly (R : Nat → Nat → Prop) (c c' : Canvas) : Prop where
  width : c'.width = c.width
  size : c'.cells.size = c.cells.size
  frame : ∀ x y, ¬ R x y → c'.get x y = c.get x y

namespace ChangesOnly

theorem refl (R : Nat → Nat → Prop) (c : Canvas) : ChangesOnly R c c := ⟨rfl, rfl, fun _ _ _ => rfl⟩

theorem trans (h : ChangesOnly R c c') (h' : ChangesOnly R c' c'') : ChangesOnly R c c'' :=
  ⟨h'.width.trans h.width, h'.size.trans h.size,
    fun x y hxy => (h'.frame x y hxy).trans (h.frame x y hxy)⟩

theorem mono (h : ChangesOnly R c c') (hRS : ∀ x y, R x y → S x y) : ChangesOnly S c c' :=
  ⟨h.width, h.size, fun x y hxy => h.frame x y (mt (hRS x y) hxy)⟩

theorem foldl {β : Type} {f : Canvas → β → Canvas} {items : List β}
    (h : ∀ b ∈ items, ∀ c, ChangesOnly R c (f c b)) (c : Canvas) :
    ChangesOnly R c (items.foldl f c) := by
  induction items generalizing c with
  | nil => exact refl R c
  | cons b items ih =>
      obtain ⟨hb, hitems⟩ := List.forall_mem_cons.mp h
      exact (hb c).trans (ih hitems (f c b))

theorem has (h : ChangesOnly R c c') (hxy : c.Has x y) : c'.Has x y := by
  rw [Has, h.width, h.size]
  exact hxy

end ChangesOnly

/-! ### One cell -/

theorem getD_modify {α : Type} (items : Array α) (i j : Nat) (f : α → α) (default : α) :
    (items.modify i f).getD j default =
      if i = j ∧ j < items.size then f (items.getD j default) else items.getD j default := by
  simp only [Array.getD_eq_getD_getElem?, Array.getElem?_modify]
  by_cases hj : j < items.size
  · by_cases hij : i = j <;> simp [hij, hj]
  · simp [hj]

/-- Two places of one canvas are the same if they are the same index. -/
theorem index_inj {width : Nat} (hx : x < width) (hx' : x' < width) :
    y * width + x = y' * width + x' ↔ x = x' ∧ y = y' := by
  constructor
  · intro h
    have hpos : 0 < width := Nat.zero_lt_of_lt hx
    have hy : y = y' := by
      have hdiv := congrArg (· / width) h
      simpa only [Nat.mul_comm _ width, Nat.mul_add_div hpos, Nat.div_eq_of_lt hx,
        Nat.div_eq_of_lt hx', Nat.add_zero] using hdiv
    subst hy
    exact ⟨Nat.add_left_cancel h, rfl⟩
  · rintro ⟨rfl, rfl⟩
    rfl

theorem get_blank (width height x y : Nat) : (blank width height).get x y = .blank := by
  rw [get]
  split
  · rw [blank, Array.getD_eq_getD_getElem?, Array.getElem?_replicate]
    split <;> rfl
  · rfl

theorem changesOnly_modify (c : Canvas) (x y : Nat) (f : Cell → Cell) :
    ChangesOnly (fun x' y' => x' = x ∧ y' = y) c (c.modify x y f) := by
  rw [modify]
  split
  · next hx =>
      refine ⟨rfl, Array.size_modify, fun x' y' hne => ?_⟩
      simp only [get]
      split
      · next hx' =>
          rw [getD_modify, if_neg]
          rintro ⟨hindex, -⟩
          obtain ⟨rfl, rfl⟩ := (index_inj hx hx').mp hindex
          exact hne ⟨rfl, rfl⟩
      · rfl
  · exact .refl _ c

theorem get_modify (h : c.Has x y) (f : Cell → Cell) : (c.modify x y f).get x y = f (c.get x y) := by
  rw [modify, if_pos h.1]
  simp only [get, if_pos h.1]
  rw [getD_modify, if_pos ⟨rfl, h.2⟩]

theorem symbol_modify {f : Cell → Cell} (hf : ∀ cell, (f cell).symbol = cell.symbol) (c : Canvas)
    (x y x' y' : Nat) : ((c.modify x y f).get x' y').symbol = (c.get x' y').symbol := by
  rw [modify]
  split
  · simp only [get]
    split
    · rw [getD_modify]
      split
      · exact hf _
      · rfl
    · rfl
  · rfl

theorem changesOnly_put (c : Canvas) (x y : Nat) (symbol : Char) (change : Style → Style) :
    ChangesOnly (fun x' y' => x' = x ∧ y' = y) c (c.put x y symbol change) :=
  changesOnly_modify c x y _

theorem symbol_put (h : c.Has x y) (symbol : Char) (change : Style → Style) :
    ((c.put x y symbol change).get x y).symbol = symbol := by
  rw [put, get_modify h]

theorem changesOnly_stroke (c : Canvas) (places : List (Nat × Nat)) (symbol : Char)
    (change : Style → Style) :
    ChangesOnly (fun x y => (x, y) ∈ places) c (c.stroke places symbol change) := by
  refine ChangesOnly.foldl (fun p hp c => ?_) c
  exact (changesOnly_put c p.1 p.2 symbol change).mono fun x y ⟨hx, hy⟩ => hx ▸ hy ▸ hp

theorem changesOnly_paint (c : Canvas) (a : Area) (change : Style → Style) :
    ChangesOnly (fun x y => (x, y) ∈ a.places) c (c.paint a change) := by
  refine ChangesOnly.foldl (fun p hp c => ?_) c
  exact (changesOnly_modify c p.1 p.2 _).mono fun x y ⟨hx, hy⟩ => hx ▸ hy ▸ hp

theorem symbol_foldl {β : Type} {f : Canvas → β → Canvas} {items : List β}
    (h : ∀ b ∈ items, ∀ c, ((f c b).get x y).symbol = (c.get x y).symbol) (c : Canvas) :
    ((items.foldl f c).get x y).symbol = (c.get x y).symbol := by
  induction items generalizing c with
  | nil => rfl
  | cons b items ih =>
      obtain ⟨hb, hitems⟩ := List.forall_mem_cons.mp h
      exact (ih hitems (f c b)).trans (hb c)

/-- Painting keeps every character. -/
theorem symbol_paint (c : Canvas) (a : Area) (change : Style → Style) (x y : Nat) :
    ((c.paint a change).get x y).symbol = (c.get x y).symbol := by
  have hcell : ∀ cell : Cell, { cell with style := change cell.style }.symbol = cell.symbol :=
    fun _ => rfl
  exact symbol_foldl (fun p _ c => symbol_modify hcell c p.1 p.2 x y) c

/-! ### Texts -/

theorem width_clip_le {α : Type} (charOf : α → Char) (width : Nat) (as : List α) :
    Text.width ((clip charOf width as).map charOf) ≤ width := by
  induction as generalizing width with
  | nil => exact Nat.zero_le _
  | cons a as ih =>
      rw [clip]
      split
      · exact ih width
      split
      · next hfits =>
          have hrest := ih (width - Text.charWidth (charOf a))
          rw [List.map_cons, Text.width_cons]
          omega
      · exact Nat.zero_le _

theorem charWidth_ne_zero_of_mem_clip {α : Type} {charOf : α → Char} {width : Nat} {as : List α} :
    ∀ a ∈ clip charOf width as, Text.charWidth (charOf a) ≠ 0 := by
  induction as generalizing width with
  | nil => simp [clip]
  | cons a as ih =>
      rw [clip]
      split
      · exact ih
      split
      · next hwidth _ => exact List.forall_mem_cons.mpr ⟨hwidth, ih⟩
      · simp

theorem clip_eq_take {α : Type} {charOf : α → Char} {as : List α}
    (h : ∀ a ∈ as, Text.charWidth (charOf a) = 1) (width : Nat) :
    clip charOf width as = as.take width := by
  induction as generalizing width with
  | nil => simp [clip]
  | cons a as ih =>
      obtain ⟨ha, has⟩ := List.forall_mem_cons.mp h
      cases width with
      | zero => simp [clip, ha]
      | succ width => simp [clip, ha, ih has]

theorem changesOnly_write {text : StyledText} (h : ∀ p ∈ text, Text.charWidth p.1 ≠ 0) (c : Canvas)
    (x y : Nat) :
    ChangesOnly (fun x' y' => x ≤ x' ∧ x' < x + Text.width (text.map (·.1)) ∧ y' = y) c
      (c.write x y text) := by
  induction text generalizing c x with
  | nil => exact .refl _ c
  | cons p text ih =>
      obtain ⟨hp, htext⟩ := List.forall_mem_cons.mp h
      rw [write, List.map_cons, Text.width_cons]
      refine ((changesOnly_put c x y p.1 p.2).mono ?_).trans ((ih htext _ _).mono ?_)
      · rintro x' y' ⟨rfl, rfl⟩
        exact ⟨Nat.le_refl _, by omega, rfl⟩
      · rintro x' y' ⟨hleft, hright, rfl⟩
        exact ⟨by omega, by omega, rfl⟩

theorem changesOnly_writeIn (c : Canvas) (a : Area) (text : StyledText) :
    ChangesOnly a.FirstRow c (c.writeIn a text) := by
  rw [writeIn]
  split
  · exact .refl _ c
  · refine (changesOnly_write charWidth_ne_zero_of_mem_clip c a.x a.y).mono ?_
    rintro x y ⟨hleft, hright, rfl⟩
    have hclip := width_clip_le (α := Char × (Style → Style)) (·.1) a.width text
    exact ⟨hleft, Nat.lt_of_lt_of_le hright (Nat.add_le_add_left hclip _), rfl⟩

theorem changesOnly_outline (c : Canvas) (a : Area) : ChangesOnly a.Edge c (c.outline a) := by
  have hcorner (c : Canvas) {x : Nat} (hx : x = a.x ∨ x = a.right - 1) (y : Nat) (symbol : Char) :
      ChangesOnly a.Edge c (c.put x y symbol id) := by
    refine (changesOnly_put c x y symbol id).mono ?_
    rintro x' y' ⟨rfl, rfl⟩
    exact .inl hx
  rw [outline]
  split
  · exact .refl _ c
  · -- the corners are drawn last, over the ends of the lines
    refine ChangesOnly.trans ?_ (hcorner _ (.inl rfl) a.y '┌')
    refine ChangesOnly.trans ?_ (hcorner _ (.inl rfl) (a.bottom - 1) '└')
    refine ChangesOnly.trans ?_ (hcorner _ (.inr rfl) a.y '┐')
    refine ChangesOnly.trans ?_ (hcorner _ (.inr rfl) (a.bottom - 1) '┘')
    refine ((changesOnly_stroke c _ '│' id).mono ?_).trans
      ((changesOnly_stroke _ _ '─' id).mono ?_)
    · intro x y hxy
      simp only [columnPlaces, List.mem_append, List.mem_map, Prod.mk.injEq] at hxy
      obtain ⟨_, -, rfl, -⟩ | ⟨_, -, rfl, -⟩ := hxy
      · exact .inl (.inl rfl)
      · exact .inl (.inr rfl)
    · intro x y hxy
      simp only [rowPlaces, List.mem_append, List.mem_map, Prod.mk.injEq] at hxy
      obtain ⟨_, -, -, rfl⟩ | ⟨_, -, -, rfl⟩ := hxy
      · exact .inr (.inl rfl)
      · exact .inr (.inr rfl)

theorem changesOnly_border (c : Canvas) (a : Area) (title : String) :
    ChangesOnly a.Edge c (c.border a title) :=
  (changesOnly_outline c a).trans
    ((changesOnly_writeIn _ _ _).mono fun _ _ hxy => .inr (.inl hxy.2.2))

/-! ### Reading texts -/

/-- The characters that stand side by side from a place on. -/
def textAt (c : Canvas) (x y n : Nat) : List Char :=
  (List.range n).map fun k => (c.get (x + k) y).symbol

theorem textAt_succ (c : Canvas) (x y n : Nat) :
    c.textAt x y (n + 1) = (c.get x y).symbol :: c.textAt (x + 1) y n := by
  rw [textAt, List.range_succ_eq_map, List.map_cons, List.map_map]
  refine congrArg _ (List.map_congr_left fun k _ => ?_)
  show (c.get (x + (k + 1)) y).symbol = (c.get (x + 1 + k) y).symbol
  rw [Nat.add_assoc, Nat.add_comm 1 k]

theorem symbol_mem_textAt {k : Nat} (hk : k < n) (c : Canvas) (x y : Nat) :
    (c.get (x + k) y).symbol ∈ c.textAt x y n :=
  List.mem_map.mpr ⟨k, List.mem_range.mpr hk, rfl⟩

/-- A text stays where nothing is drawn over it. -/
theorem ChangesOnly.textAt_eq (h : ChangesOnly R c c') (hR : ∀ k < n, ¬ R (x + k) y) :
    c'.textAt x y n = c.textAt x y n := by
  refine List.map_congr_left fun k hk => ?_
  rw [h.frame (x + k) y (hR k (List.mem_range.mp hk))]

theorem textAt_write {text : StyledText} (h : ∀ p ∈ text, Text.charWidth p.1 = 1)
    (hc : ∀ k < text.length, c.Has (x + k) y) :
    (c.write x y text).textAt x y text.length = text.map (·.1) := by
  induction text generalizing c x with
  | nil => rfl
  | cons p text ih =>
      obtain ⟨hp, htext⟩ := List.forall_mem_cons.mp h
      have hput := changesOnly_put c x y p.1 p.2
      have hvisible : ∀ q ∈ text, Text.charWidth q.1 ≠ 0 := fun q hq => by simp [htext q hq]
      have hrest := changesOnly_write hvisible (c.put x y p.1 p.2) (x + 1) y
      have hhead : ((c.put x y p.1 p.2).write (x + 1) y text).get x y =
          (c.put x y p.1 p.2).get x y := hrest.frame x y (by omega)
      have hx : c.Has x y := hc 0 (Nat.zero_lt_succ _)
      rw [List.length_cons, textAt_succ, write, hp, hhead, symbol_put hx, ih htext, List.map_cons]
      intro k hk
      refine hput.has ?_
      rw [Nat.add_assoc, Nat.add_comm 1 k]
      exact hc (k + 1) (Nat.succ_lt_succ hk)

/-- A text of characters one column wide is written up to the right end of an area. -/
theorem textAt_writeIn {text : StyledText}
    (h : ∀ ch ∈ text.map (·.1), Text.charWidth ch = 1) (ha : 0 < a.height)
    (hc : ∀ k < a.width, c.Has (a.x + k) a.y) :
    let shown := (text.map (·.1)).take a.width
    (c.writeIn a text).textAt a.x a.y shown.length = shown := by
  intro shown
  have htext : ∀ p ∈ text, Text.charWidth p.1 = 1 := List.forall_mem_map.mp h
  rw [writeIn]
  split
  · next hempty =>
      have hwidth : a.width = 0 := by
        simp only [Area.isEmpty, Bool.or_eq_true, decide_eq_true_eq] at hempty
        omega
      simp only [shown, hwidth, List.take_zero]
      rfl
  · have hclip := clip_eq_take htext a.width
    have htake : ∀ p ∈ text.take a.width, Text.charWidth p.1 = 1 := fun p hp =>
      htext p (List.mem_of_mem_take hp)
    have hwritten := textAt_write (c := c) (x := a.x) (y := a.y) htake fun k hk =>
      hc k (Nat.lt_of_lt_of_le hk (List.length_take_le _ _))
    rw [← List.length_map (fun p => p.1), List.map_take, ← hclip] at hwritten
    exact hwritten

/-- Of several drawings, a text stays as the one drew it that wrote it if the later ones leave its
place alone. -/
theorem textAt_foldl {β : Type} {f : Canvas → β → Canvas} {items : List β} {b : β} {i : Nat}
    {cs : List Char} (hb : items[i]? = some b)
    (hbefore : ∀ b' ∈ items, ∀ c, ChangesOnly R c (f c b'))
    (hat : ∀ c', ChangesOnly R c c' → (f c' b).textAt x y cs.length = cs)
    (hafter : ∀ b' ∈ items.drop (i + 1), ∀ c, ∃ S,
      ChangesOnly S c (f c b') ∧ ∀ k < cs.length, ¬ S (x + k) y) :
    (items.foldl f c).textAt x y cs.length = cs := by
  obtain ⟨hi, rfl⟩ := List.getElem?_eq_some_iff.mp hb
  rw [← List.take_append_drop i items, List.drop_eq_getElem_cons hi, List.foldl_append,
    List.foldl_cons]
  have hshape : ChangesOnly R c ((items.take i).foldl f c) :=
    .foldl (fun b' hb' => hbefore b' (List.mem_of_mem_take hb')) c
  have hdrawn := hat _ hshape
  refine (ChangesOnly.textAt_eq (R := fun x' y' => ¬ ∃ k < cs.length, x' = x + k ∧ y' = y)
    (.foldl (fun b' hb' c => ?_) _) ?_).trans hdrawn
  · obtain ⟨S, hS, hfree⟩ := hafter b' hb' c
    refine hS.mono ?_
    rintro x' y' hxy ⟨k, hk, rfl, rfl⟩
    exact hfree k hk hxy
  · exact fun k hk hnot => hnot ⟨k, hk, rfl, rfl⟩

end Canvas

end Telemetry.Terminal
