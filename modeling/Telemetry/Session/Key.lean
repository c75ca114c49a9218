import Telemetry.Panel

/-!
What the keys do.

Only pressing a key counts; that it is held down or released does not. A key asks
for one thing at most: to end the session, or to show a panel.
-/

namespace Telemetry

/-- The keys that are told apart. -/
inductive Key where
  | tab
  | backTab
  | left
  | right
  | escape
  | character (c : Char)
  | other
  deriving DecidableEq, Repr

/-- What happened to a key. -/
inductive KeyAction where
  | pressed
  | held
  | released
  deriving DecidableEq, Repr

structure KeyEvent where
  key : Key
  control : Bool
  action : KeyAction
  deriving DecidableEq, Repr

/-- What a key asks for. -/
inductive Command where
  | quit
  | select (p : Panel)
  deriving DecidableEq, Repr

/-- What pressing a key asks for while a panel is active. -/
def Key.command? (active : Panel) (control : Bool) : Key → Option Command
  | .escape => some .quit
  | .tab | .right => some (.select active.next)
  | .backTab | .left => some (.select active.previous)
  | .character c =>
    if c = 'q' ∨ c = 'Q' ∨ (c = 'c' ∧ control) then some .quit
    else (Panel.ofDigit? c).map .select
  | .other => none

def KeyEvent.command? (active : Panel) (e : KeyEvent) : Option Command :=
  match e.action with
  | .pressed => e.key.command? active e.control
  | .held | .released => none

end Telemetry
