import Telemetry.Backend.Refresh
import Telemetry.Session.Key

/-!
A session at the terminal.

A session holds the dashboard, the screen and whether its end was asked for. Keys
and updates arrive in any order: keys touch only the active panel and the end of
the session, updates all the rest.
-/

namespace Telemetry

structure Session where
  dashboard : Dashboard
  screen : Screen
  /-- The backend as it is shown in the header. -/
  target : String
  quitting : Bool

namespace Session

def start (target : String) : Session := ⟨.default, .default, target, false⟩

/-- Does what a key asks for. -/
def obey (s : Session) : Command → Session
  | .quit => { s with quitting := true }
  | .select p => { s with dashboard := s.dashboard.select p }

def handleKey (s : Session) (e : KeyEvent) : Session :=
  match e.command? s.dashboard.active with
  | some command => s.obey command
  | none => s

/-- Shows the updates that have arrived, each under its label, and counts those that were not
stale. -/
def receive (s : Session) (updates : List (Update × String)) : Session × Nat :=
  let run := s.dashboard.run s.screen updates
  ({ s with dashboard := run.dashboard, screen := run.screen }, run.shown.count true)

end Session

end Telemetry
