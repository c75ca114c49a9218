/-!
The panels of the dashboard, of which exactly one is active.
-/

namespace Telemetry

inductive Panel where
  | overview
  | network
  | system
  deriving DecidableEq, Repr, Inhabited

namespace Panel

/-- Every panel, in the order of the tab bar. The first one is active at the start. -/
def all : List Panel := [.overview, .network, .system]

theorem mem_all (p : Panel) : p ∈ all := by
  cases p <;> simp [all]

def name : Panel → String
  | .overview => "overview"
  | .network => "network"
  | .system => "system"

def title : Panel → String
  | .overview => "Overview"
  | .network => "Network"
  | .system => "System"

/-- The panel to the right, the last one being followed by the first. -/
def next : Panel → Panel
  | .overview => .network
  | .network => .system
  | .system => .overview

/-- The panel to the left, the first one being preceded by the last. -/
def previous : Panel → Panel
  | .overview => .system
  | .network => .overview
  | .system => .network

@[simp] theorem previous_next (p : Panel) : p.next.previous = p := by
  cases p <;> rfl

@[simp] theorem next_previous (p : Panel) : p.previous.next = p := by
  cases p <;> rfl

/-- The panel that a digit selects, counted from one. -/
def ofDigit? : Char → Option Panel
  | '1' => some .overview
  | '2' => some .network
  | '3' => some .system
  | _ => none

/-- Which panels are visible while `active` is. -/
def visibility (active : Panel) : List (Panel × Bool) := all.map fun p => (p, p == active)

end Panel

end Telemetry
