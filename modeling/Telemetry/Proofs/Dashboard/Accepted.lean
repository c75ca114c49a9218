import Telemetry.Proofs.Dashboard.Run

/-!
The updates that a run shows.

Of the updates of a run only those that are shown, `Dashboard.accepted`, leave a
trace. They determine what every field and every table holds (`read_run`) and
what is remembered of the cycles (`lastCycle?_run`); a place then shows what the
last of them that comes from its owner has written there.
-/

namespace Telemetry

/-- The updates of one source, with their labels. -/
def Source.updatesIn (s : Source) (us : List (Update × String)) : List (Update × String) :=
  us.filter fun x => x.1.source = s

theorem Source.updatesIn_cons (s : Source) (x : Update × String) (us : List (Update × String)) :
    s.updatesIn (x :: us) = if x.1.source = s then x :: s.updatesIn us else s.updatesIn us := by
  simp [updatesIn, List.filter_cons]

/-- The last update of a source, with its label. -/
def Source.lastIn (s : Source) (us : List (Update × String)) : Option (Update × String) :=
  us.reverse.find? fun x => x.1.source = s

@[simp] theorem Source.lastIn_nil (s : Source) : s.lastIn [] = none := rfl

theorem Source.lastIn_cons (s : Source) (x : Update × String) (us : List (Update × String)) :
    s.lastIn (x :: us) = (s.lastIn us).or (if x.1.source = s then some x else none) := by
  simp [lastIn, List.find?_append, List.find?_singleton]

theorem Source.lastIn_eq_getLast? (s : Source) (us : List (Update × String)) :
    s.lastIn us = (s.updatesIn us).getLast? := by
  rw [updatesIn, List.getLast?_filter]
  rfl

theorem Source.source_of_lastIn {s : Source} {us : List (Update × String)}
    {x : Update × String} (h : s.lastIn us = some x) : x.1.source = s := by
  simpa using List.find?_some h

theorem Source.mem_of_lastIn {s : Source} {us : List (Update × String)}
    {x : Update × String} (h : s.lastIn us = some x) : x ∈ us :=
  List.mem_reverse.1 (List.mem_of_find?_eq_some h)

theorem Source.lastIn_eq_none {s : Source} {us : List (Update × String)} :
    s.lastIn us = none ↔ ∀ x ∈ us, x.1.source ≠ s := by
  simp [lastIn]

/-- A search that can only end at items of a kind ends at the first item of that kind, if
there is something to be found at it. -/
theorem findSome?_eq_of_find? {α β : Type} {f : α → Option β} {q : α → Bool} {l : List α}
    {a : α} {b : β} (hf : ∀ x ∈ l, q x = false → f x = none) (ha : l.find? q = some a)
    (hb : f a = some b) : l.findSome? f = some b := by
  obtain ⟨-, front, back, rfl, hfront⟩ := List.find?_eq_some_iff_append.1 ha
  have hnone : front.findSome? f = none := by
    rw [List.findSome?_eq_none_iff]
    intro x hx
    exact hf x (List.mem_append_left _ hx) (by simpa using hfront x hx)
  simp [List.findSome?_append, hnone, hb]

namespace Dashboard

variable {d : Dashboard} {screen : Screen} {s : Source} {p : Place}

/-- The updates that a run shows, with their labels. -/
def accepted (d : Dashboard) (screen : Screen) (us : List (Update × String)) :
    List (Update × String) :=
  ((us.zip (d.run screen us).shown).filter fun x => x.2).map fun x => x.1

@[simp] theorem accepted_nil : d.accepted screen [] = [] := rfl

theorem accepted_cons (x : Update × String) (us : List (Update × String)) :
    d.accepted screen (x :: us) =
      (if d.isStale x.1 then [] else [x]) ++
        (d.apply screen x.1 x.2).dashboard.accepted (d.apply screen x.1 x.2).screen us := by
  cases h : d.isStale x.1 <;> simp [accepted, run_cons, h]

theorem accepted_sublist (us : List (Update × String)) : (d.accepted screen us).Sublist us := by
  induction us generalizing d screen with
  | nil => exact .refl _
  | cons x us ih =>
      rw [accepted_cons]
      split
      · exact .cons x ih
      · exact .cons_cons x ih

/-! ### The order of what is shown -/

theorem le_of_mem_accepted {us : List (Update × String)} {x : Update × String} {c : UInt64}
    (hlast : d.lastCycle? x.1.source = some c) (hx : x ∈ d.accepted screen us) :
    c ≤ x.1.cycle := by
  induction us generalizing d screen c with
  | nil => exact nomatch hx
  | cons y us ih =>
      rw [accepted_cons] at hx
      cases hs : d.isStale y.1 with
      | true =>
          simp only [hs, if_true, List.nil_append, apply_of_isStale hs] at hx
          exact ih hlast hx
      | false =>
          simp only [hs, Bool.false_eq_true, if_false, List.singleton_append, List.mem_cons,
            apply_of_not_isStale hs] at hx
          -- an update of the same source raises the memory, which bounds all that follows
          have hfresh (hy : x.1.source = y.1.source) : c ≤ y.1.cycle := by
            refine UInt64.not_lt.1 fun hlt => ?_
            rw [isStale_iff.2 ⟨c, hy ▸ hlast, hlt⟩] at hs
            exact nomatch hs
          rcases hx with rfl | hx
          · exact hfresh rfl
          · by_cases hy : x.1.source = y.1.source
            · exact UInt64.le_trans (hfresh hy) (ih (by simp [hy]) hx)
            · exact ih (by simp [hy, hlast]) hx

theorem pairwise_le_accepted (us : List (Update × String)) :
    (s.updatesIn (d.accepted screen us)).Pairwise fun x y => x.1.cycle ≤ y.1.cycle := by
  induction us generalizing d screen with
  | nil => exact .nil
  | cons x us ih =>
      rw [accepted_cons]
      cases hs : d.isStale x.1 with
      | true => simpa [hs, apply_of_isStale hs] using ih
      | false =>
          simp only [Bool.false_eq_true, if_false, List.singleton_append,
            Source.updatesIn_cons, apply_of_not_isStale hs]
          split
          · next hx =>
              refine .cons ?_ ih
              intro y hy
              obtain ⟨hmem, hsource⟩ := List.mem_filter.1 hy
              refine le_of_mem_accepted ?_ hmem
              simp [of_decide_eq_true hsource, hx]
          · exact ih

/-! ### What a run leaves behind -/

theorem mem_writes_run {us : List (Update × String)} {w : Write}
    (h : w ∈ (d.run screen us).writes) :
    screen.hasSlot w.slot ∧ ∃ x ∈ d.accepted screen us, w.place.owner? = some x.1.source := by
  induction us generalizing d screen with
  | nil => simp at h
  | cons x us ih =>
      rw [run_cons] at h
      rw [accepted_cons]
      rcases List.mem_append.1 h with h | h
      · cases hs : d.isStale x.1 with
        | true => simp [apply_of_isStale hs] at h
        | false =>
            rw [apply_of_not_isStale hs] at h
            obtain ⟨hw, hslot⟩ := List.mem_filter.1 h
            exact ⟨hslot, x, by simp, owner?_of_mem_writesOf hw⟩
      · obtain ⟨hslot, y, hy, howner⟩ := ih h
        refine ⟨?_, y, List.mem_append_right _ hy, howner⟩
        simpa [Screen.hasSlot] using hslot

theorem lastCycle?_run (us : List (Update × String)) :
    (d.run screen us).dashboard.lastCycle? s =
      ((s.lastIn (d.accepted screen us)).map fun x => x.1.cycle).or (d.lastCycle? s) := by
  induction us generalizing d screen with
  | nil => simp
  | cons x us ih =>
      rw [run_cons]
      cases h : d.isStale x.1 with
      | true => simp [accepted_cons, apply_of_isStale h, h, ih]
      | false =>
          rw [accepted_cons, h, apply_of_not_isStale h]
          simp only [Bool.false_eq_true, if_false, List.singleton_append, Source.lastIn_cons, ih,
            lastCycle?_accept, Option.map_or, Option.or_assoc]
          by_cases hs : x.1.source = s
          · simp [hs]
          · simp [hs, Ne.symm hs]

theorem lastWritten?_writesOf (hp : ∀ c, p ≠ .chart c) (label : String) (snapshot : Snapshot) :
    p.lastWritten? (d.writesOf label snapshot) = p.lastWritten? snapshot.writes := by
  cases snapshot with
  | metrics samples =>
      have hcharts : p.lastWritten? (d.history.writes samples label) = none := by
        refine Place.lastWritten?_eq_none fun w hw hplace => ?_
        obtain ⟨c, hc⟩ := ChartHistory.place_of_mem_writes hw
        exact hp c (hplace.symm.trans hc)
      rw [writesOf, Place.lastWritten?_append, hcharts, Option.none_or]
  | connections rows => rfl
  | hosts rows => rfl
  | systemInfo info => rfl

/-- **What a run leaves in a field or a table.** A declared place holds what the last of the
updates that were shown and that write to it has written there. -/
theorem read_run (hp : ∀ c, p ≠ .chart c) (us : List (Update × String)) :
    (d.run screen us).screen.read p =
      if screen.hasSlot p.slot then
        ((d.accepted screen us).reverse.findSome? fun x =>
          p.lastWritten? x.1.snapshot.writes).getD (screen.read p)
      else screen.read p := by
  induction us generalizing d screen with
  | nil => simp
  | cons x us ih =>
      rw [run_cons]
      cases h : d.isStale x.1 with
      | true => simp [accepted_cons, apply_of_isStale h, h, ih]
      | false =>
          rw [accepted_cons, h, apply_of_not_isStale h]
          simp only [ih, Bool.false_eq_true, if_false, Screen.read_writeAll, Screen.hasSlot,
            Screen.slots_writeAll, lastWritten?_writesOf hp, List.singleton_append,
            List.reverse_cons, List.findSome?_append]
          split
          · rw [Option.getD_or, List.findSome?_singleton]
          · rfl

/-- A field or a table shows the last update of its owner, if that writes to it. -/
theorem read_run_of_lastIn {us : List (Update × String)} {x : Update × String} {v : p.Content}
    (hp : ∀ c, p ≠ .chart c) (howner : p.owner? = some s)
    (hlast : s.lastIn (d.accepted screen us) = some x) (hslot : screen.hasSlot p.slot = true)
    (hv : p.lastWritten? x.1.snapshot.writes = some v) : (d.run screen us).screen.read p = v := by
  rw [read_run hp, if_pos hslot, findSome?_eq_of_find? ?_ hlast hv, Option.getD_some]
  -- an update of another source does not write to this place
  rintro y - hy
  refine Place.lastWritten?_eq_none fun w hw hplace => ?_
  have hsource : some y.1.snapshot.source = some s := by
    rw [← Snapshot.owner?_of_mem_writes hw, hplace, howner]
  exact of_decide_eq_false hy (Option.some.inj hsource)

theorem read_run_of_lastIn_eq_none {us : List (Update × String)} (howner : p.owner? = some s)
    (hlast : s.lastIn (d.accepted screen us) = none) :
    (d.run screen us).screen.read p = screen.read p := by
  induction us generalizing d screen with
  | nil => rfl
  | cons x us ih =>
      rw [accepted_cons, Source.lastIn_eq_none] at hlast
      have hlater := ih (Source.lastIn_eq_none.2 fun y hy => hlast y (List.mem_append_right _ hy))
      refine hlater.trans ?_
      cases h : d.isStale x.1 with
      | true => rw [apply_of_isStale h]
      | false =>
          have hne : x.1.source ≠ s := hlast x (by simp [h])
          exact read_apply_of_ne (by simpa [howner] using hne.symm)

end Dashboard

end Telemetry
