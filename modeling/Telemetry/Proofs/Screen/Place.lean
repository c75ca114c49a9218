import Telemetry.Screen.Projection

/-!
Places of the screen, and what a list of writes leaves in each of them.

Fields, tables and charts differ in what they hold, but everything that is said
about writing to them is the same: a place keeps the last thing written to it,
provided that its slot is declared, and every other place is left alone. So the
three are gathered into one type `Place`, and `Screen.read_writeAll` says this
once for all of them. A screen is nothing but its slots and what is read at its
places (`Screen.ext_read`).
-/

namespace Telemetry

/-- What a write goes to, and what a screen is read at. -/
inductive Place where
  | field (slot : String)
  | table (t : Table)
  | chart (c : Chart)
  deriving DecidableEq

namespace Place

/-- What a place holds. A field or a chart that was never written holds nothing;
a table that was never written has no rows. -/
abbrev Content : Place → Type
  | field _ => Option String
  | table _ => List Cells
  | chart _ => Option ChartData

/-- The slot under which a place is declared. -/
def slot : Place → String
  | field slot => slot
  | table t => t.slot
  | chart c => c.slot

/-- What a write leaves in a place, if it goes there. -/
def written? : (p : Place) → Write → Option p.Content
  | field slot, .field slot' text => if slot = slot' then some (some text) else none
  | table t, .rows t' cells => if t = t' then some cells else none
  | chart c, .chart c' data => if c = c' then some (some data) else none
  | _, _ => none

/-- What the last of the writes to a place leaves there. -/
def lastWritten? (p : Place) (ws : List Write) : Option p.Content :=
  ws.reverse.findSome? p.written?

end Place

/-- The place that a write goes to. -/
def Write.place : Write → Place
  | .field slot _ => .field slot
  | .rows t _ => .table t
  | .chart c _ => .chart c

@[simp] theorem Write.slot_place (w : Write) : w.place.slot = w.slot := by
  cases w <;> rfl

namespace Place

theorem written?_eq_none {p : Place} {w : Write} (h : w.place ≠ p) : p.written? w = none := by
  cases p <;> cases w <;> simp_all [written?, Write.place, eq_comm]

@[simp] theorem lastWritten?_nil (p : Place) : p.lastWritten? [] = none := rfl

@[simp] theorem lastWritten?_cons (p : Place) (w : Write) (ws : List Write) :
    p.lastWritten? (w :: ws) = (p.lastWritten? ws).or (p.written? w) := by
  simp [lastWritten?, List.findSome?_append]

theorem lastWritten?_append (p : Place) (ws vs : List Write) :
    p.lastWritten? (ws ++ vs) = (p.lastWritten? vs).or (p.lastWritten? ws) := by
  simp [lastWritten?, List.findSome?_append]

theorem lastWritten?_eq_none {p : Place} {ws : List Write} (h : ∀ w ∈ ws, w.place ≠ p) :
    p.lastWritten? ws = none := by
  simp only [lastWritten?, List.findSome?_eq_none_iff, List.mem_reverse]
  exact fun w hw => written?_eq_none (h w hw)

end Place

namespace Screen

/-- What a screen shows at a place. -/
def read (s : Screen) : (p : Place) → p.Content
  | .field slot => s.field? slot
  | .table t => s.rows t
  | .chart c => s.chart? c

@[simp] theorem read_field (s : Screen) (slot : String) : s.read (.field slot) = s.field? slot :=
  rfl

@[simp] theorem read_table (s : Screen) (t : Table) : s.read (.table t) = s.rows t := rfl

@[simp] theorem read_chart (s : Screen) (c : Chart) : s.read (.chart c) = s.chart? c := rfl

@[simp] theorem hasSlot_withSlots (slots : List String) (slot : String) :
    (withSlots slots).hasSlot slot = true ↔ slot ∈ slots := by
  simp [hasSlot, withSlots]

theorem hasSlot_withSlots_of_notMem {slots : List String} {slot : String} (h : slot ∉ slots) :
    (withSlots slots).hasSlot slot = false := by
  rw [← Bool.not_eq_true, hasSlot_withSlots]
  exact h

theorem ext_read {s t : Screen} (hslots : s.slots = t.slots) (hread : ∀ p, s.read p = t.read p) :
    s = t := by
  have hfield : s.field? = t.field? := funext fun slot => hread (.field slot)
  have hrows : s.rows = t.rows := funext fun table => hread (.table table)
  have hchart : s.chart? = t.chart? := funext fun c => hread (.chart c)
  cases s
  cases t
  simp_all

theorem read_put (s : Screen) (w : Write) (p : Place) :
    (s.put w).read p = (p.written? w).getD (s.read p) := by
  cases p <;> cases w <;> simp only [put, read, Place.written?] <;> first | rfl | (split <;> rfl)

theorem read_write (s : Screen) (w : Write) (p : Place) :
    (s.write w).read p = if s.hasSlot p.slot then (p.written? w).getD (s.read p) else s.read p := by
  by_cases hplace : w.place = p
  · subst hplace
    rw [write, Write.slot_place]
    split
    · exact read_put s w _
    · rfl
  · rw [Place.written?_eq_none hplace, write]
    split <;> simp [read_put, Place.written?_eq_none hplace]

/-- **Read over write.** A declared place shows the last thing written to it, any other place
what it showed before. -/
theorem read_writeAll (s : Screen) (ws : List Write) (p : Place) :
    (s.writeAll ws).read p =
      if s.hasSlot p.slot then (p.lastWritten? ws).getD (s.read p) else s.read p := by
  induction ws generalizing s with
  | nil => simp
  | cons w ws ih =>
      rw [writeAll_cons, ih, hasSlot_write, read_write]
      split <;> simp [Option.getD_or]

theorem read_writeAll_of_forall_ne {s : Screen} {ws : List Write} {p : Place}
    (h : ∀ w ∈ ws, w.place ≠ p) : (s.writeAll ws).read p = s.read p := by
  simp [read_writeAll, Place.lastWritten?_eq_none h]

end Screen

end Telemetry
