import Telemetry.Panel
import Telemetry.Terminal.Canvas

/-!
The header: the tab bar and the backend that is polled.
-/

namespace Telemetry.Terminal

/-- The part of the header for the tabs, and the part for the backend. -/
def headerAreas (a : Area) : Area × Area :=
  let tabs := if 78 ≤ a.width then a.width - 48 else min 30 a.width
  (⟨a.x, a.y, tabs, a.height⟩, ⟨a.x + tabs, a.y, a.width - tabs, a.height⟩)

/-- A tab: the number of the panel and its title. -/
def tabText (index : Nat) (p : Panel) : String := s!"{index + 1} " ++ p.title

def activeTab (s : Style) : Style := (s.withForeground .cyan).withBold

/-- The tabs, separated by bars; the active one stands out. -/
def tabBar (active : Panel) : StyledText :=
  let tab (entry : Panel × Nat) :=
    styled id " " ++ styled (if entry.1 = active then activeTab else id) (tabText entry.2 entry.1) ++
      styled id " "
  (styled id "|").intercalate (Panel.all.zipIdx.map tab)

def Canvas.header (c : Canvas) (a : Area) (active : Panel) (target : String) : Canvas :=
  let (left, right) := headerAreas a
  let c := c.paint a (Style.withForeground .darkGray)
  let c := c.writeIn left (tabBar active)
  c.writeRight right (styled id ("sentrytop: " ++ target ++ "  (q to quit)"))

end Telemetry.Terminal
