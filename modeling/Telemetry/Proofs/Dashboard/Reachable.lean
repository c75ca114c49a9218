import Telemetry.Proofs.Chart.Advance

/-!
States that can come about.

A dashboard and its screen start empty, the charts with any capacity and the
screen with any slots. From then on updates are applied, stale or not, and the
user chooses panels, in any order.
-/

namespace Telemetry.Dashboard

variable {d : Dashboard} {screen : Screen}

/-- The dashboards that can come about, each with its screen. -/
inductive Reachable : Dashboard → Screen → Prop
  | start (capacity : Nat) (slots : List String) :
      Reachable (.empty capacity) (.withSlots slots)
  | select {d : Dashboard} {screen : Screen} (panel : Panel) (h : Reachable d screen) :
      Reachable (d.select panel) screen
  | apply {d : Dashboard} {screen : Screen} (u : Update) (label : String)
      (h : Reachable d screen) :
      Reachable (d.apply screen u label).dashboard (d.apply screen u label).screen

/-- Every window is as wide as its chart draws series. -/
theorem Reachable.fits (h : Reachable d screen) : d.history.Fits := by
  induction h with
  | start capacity slots => exact ChartHistory.fits_empty capacity
  | select panel h ih => exact ih
  | apply u label h ih => exact fits_apply ih

end Telemetry.Dashboard
