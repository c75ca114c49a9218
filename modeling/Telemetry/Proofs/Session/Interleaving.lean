import Mathlib.Algebra.GroupWithZero.Nat
import Telemetry.Proofs.Dashboard.Run
import Telemetry.Proofs.Session.Navigation

/-!
Keys and responses in one session.

Keys and responses arrive in any order, and the responses that have arrived since
the last picture are shown together. A session is taken apart by what happened in
it: the keys alone decide which panel is active and whether the session ends, the
responses alone decide all the rest, and neither the order of keys among
responses nor the way in which the responses were gathered matters
(`Session.run_eq`).
-/

namespace Telemetry

/-- What happens in a session: a key, or a batch of updates, each with its label. -/
inductive Event where
  | key (e : KeyEvent)
  | arrival (us : List (Update × String))

namespace Event

def key? : Event → Option KeyEvent
  | key e => some e
  | arrival _ => none

def updates : Event → List (Update × String)
  | key _ => []
  | arrival us => us

end Event

/-- The keys among what happens. -/
def keysIn (events : List Event) : List KeyEvent := events.filterMap Event.key?

/-- The updates among what happens. -/
def arrivalsIn (events : List Event) : List (Update × String) := events.flatMap Event.updates

namespace Session

/-- A session in which things happen one after the other, with how many updates each batch
has shown. -/
def run (s : Session) : List Event → Session × List Nat
  | [] => (s, [])
  | .key e :: events => (s.handleKey e).run events
  | .arrival us :: events =>
    let (later, shown) := s.receive us
    let (last, counts) := later.run events
    (last, shown :: counts)

end Session

/-! ### The panel plays no part in what is shown -/

namespace Dashboard

variable {d : Dashboard} {screen : Screen}

theorem accept_select (p : Panel) (u : Update) (label : String) :
    (d.select p).accept u label = (d.accept u label).select p := by
  rcases u with ⟨cycle, _ | _ | _ | _⟩ <;> rfl

theorem apply_select (p : Panel) (u : Update) (label : String) :
    (d.select p).apply screen u label =
      let applied := d.apply screen u label
      ⟨applied.shown, applied.dashboard.select p, applied.writes, applied.screen⟩ := by
  have hstale : (d.select p).isStale u = d.isStale u := rfl
  cases h : d.isStale u with
  | true => rw [apply_of_isStale (hstale.trans h), apply_of_isStale h]
  | false =>
      rw [apply_of_not_isStale (hstale.trans h), apply_of_not_isStale h, accept_select]
      cases u.snapshot <;> rfl

theorem run_select (p : Panel) (us : List (Update × String)) :
    (d.select p).run screen us =
      let shown := d.run screen us
      ⟨shown.shown, shown.dashboard.select p, shown.writes, shown.screen⟩ := by
  induction us generalizing d screen with
  | nil => rfl
  | cons x us ih => simp only [run_cons, apply_select, ih]

end Dashboard

/-! ### Taking a session apart -/

namespace Session

variable {s : Session}

/-- A key changes nothing about what updates do, except for the panel that is active meanwhile. -/
theorem run_handleKey (e : KeyEvent) (us : List (Update × String)) :
    (s.handleKey e).dashboard.run (s.handleKey e).screen us =
      let shown := s.dashboard.run s.screen us
      ⟨shown.shown, shown.dashboard.select (e.lead s.dashboard.active), shown.writes,
        shown.screen⟩ := by
  rw [handleKey_eq]
  exact Dashboard.run_select _ us

/-- Updates change nothing about what keys do. -/
theorem handleKeys_receive (us : List (Update × String)) (keys : List KeyEvent) :
    ((s.receive us).1.handleKeys keys).dashboard.active = (s.handleKeys keys).dashboard.active ∧
      ((s.receive us).1.handleKeys keys).quitting = (s.handleKeys keys).quitting := by
  have hactive : (s.receive us).1.dashboard.active = s.dashboard.active := Dashboard.active_run us
  simp only [handleKeys_eq, Dashboard.active_select, hactive, true_and]
  rfl

/-- What the keys decide and what the updates decide, each from its own part of what happens. -/
theorem run_eq (s : Session) (events : List Event) :
    let shown := s.dashboard.run s.screen (arrivalsIn events)
    let keyed := s.handleKeys (keysIn events)
    (s.run events).1 =
        ⟨shown.dashboard.select keyed.dashboard.active, shown.screen, s.target, keyed.quitting⟩ ∧
      (s.run events).2.sum = shown.shown.count true := by
  induction events generalizing s with
  | nil => exact ⟨rfl, rfl⟩
  | cons event events ih =>
      cases event with
      | key e =>
          obtain ⟨hsession, hcounts⟩ := ih (s.handleKey e)
          have htarget : (s.handleKey e).target = s.target := by rw [handleKey_eq]
          rw [run_handleKey, htarget] at hsession
          rw [run_handleKey] at hcounts
          exact ⟨hsession, hcounts⟩
      | arrival us =>
          obtain ⟨hsession, hcounts⟩ := ih (s.receive us).1
          obtain ⟨hactive, hquitting⟩ := handleKeys_receive (s := s) us (keysIn events)
          have harrivals : arrivalsIn (.arrival us :: events) = us ++ arrivalsIn events := rfl
          have hkeys : keysIn (.arrival us :: events) = keysIn events := rfl
          rw [harrivals, hkeys, Dashboard.run_append]
          refine ⟨hsession.trans ?_, ?_⟩
          · rw [hactive, hquitting]
            rfl
          · rw [List.count_append]
            exact congrArg (List.count true (s.dashboard.run s.screen us).shown + ·) hcounts

/-- **Keys and responses do not interfere.** In every session the screen, the charts and the
memory of cycles are those of the updates alone, and the counts add up to the updates that were
shown; the active panel and the end of the session are those of the keys alone. The number of the
panel is that of the last digit, changed by the keys after it; the end is asked for by one of four
keys, and for good. A key that is held or released does nothing. -/
theorem run_start (target : String) (events : List Event) :
    let last := ((start target).run events).1
    let shown := Dashboard.default.run .default (arrivalsIn events)
    let keys := keysIn events
    let keyed := (start target).handleKeys keys
    let later := keys.rtakeWhile fun e => e.digit? = none
    (last.screen = shown.screen ∧ last.dashboard.history = shown.dashboard.history ∧
      last.dashboard.lastCycle? = shown.dashboard.lastCycle? ∧
      ((start target).run events).2.sum = shown.shown.count true) ∧
    (last.dashboard.active = keyed.dashboard.active ∧ last.quitting = keyed.quitting) ∧
    (last.dashboard.active.index : Int) =
      (((keys.reverse.findSome? KeyEvent.digit?).getD .overview).index +
        later.countP KeyEvent.isForward - later.countP KeyEvent.isBackward) % 3 ∧
    (last.quitting = true ↔ ∃ e ∈ keys, e.isQuit) ∧
    (last.quitting = true →
      ∀ more : List Event, ((start target).run (events ++ more)).1.quitting = true) ∧
    ∀ (s : Session) (e : KeyEvent), e.action ≠ .pressed → s.handleKey e = s := by
  intro last shown keys keyed later
  have hquitting (happened : List Event) :
      ((start target).run happened).1.quitting = true ↔ ∃ e ∈ keysIn happened, e.isQuit := by
    rw [(run_eq (start target) happened).1, quitting_handleKeys]
    simp [start]
  obtain ⟨hlast, hcounts⟩ := run_eq (start target) events
  have hlast : last = ⟨shown.dashboard.select keyed.dashboard.active, shown.screen, target,
    keyed.quitting⟩ := hlast
  refine ⟨?_, ?_, ?_, hquitting events, ?_, fun s e => handleKey_of_not_pressed⟩
  · rw [hlast]
    exact ⟨rfl, rfl, rfl, hcounts⟩
  · rw [hlast]
    exact ⟨rfl, rfl⟩
  · rw [hlast]
    exact index_handleKeys keys
  · intro hend more
    obtain ⟨e, he, hquit⟩ := (hquitting events).1 hend
    refine (hquitting (events ++ more)).2 ⟨e, ?_, hquit⟩
    rw [keysIn, List.filterMap_append]
    exact List.mem_append_left _ he

/-- A digit between two tabs, a tab that is only held, a stale response, and a key that ends the
session before the last response. -/
theorem run_start_mixed :
    let events : List Event :=
      [.key ⟨.tab, false, .pressed⟩, .arrival [(⟨2, .hosts []⟩, "12:00:01")],
        .key ⟨.character '3', false, .pressed⟩, .key ⟨.tab, false, .held⟩,
        .key ⟨.tab, false, .pressed⟩, .key ⟨.character 'c', true, .pressed⟩,
        .arrival [(⟨1, .hosts []⟩, "12:00:02"), (⟨3, .hosts []⟩, "12:00:03")]]
    let last := ((start "").run events).1
    last.dashboard.active = .overview ∧ last.quitting = true ∧
      ((start "").run (events ++ [.key ⟨.tab, false, .pressed⟩])).1.quitting = true ∧
      ((start "").run events).2 = [1, 1] ∧
      (start "").handleKey ⟨.tab, false, .held⟩ = start "" := by
  intro events last
  obtain ⟨-, -, -, hend, hforever, hheld⟩ := run_start "" events
  have hquit : last.quitting = true := hend.2 ⟨⟨.character 'c', true, .pressed⟩, by decide, rfl⟩
  exact ⟨rfl, hquit, hforever hquit _, rfl, hheld _ _ (by decide)⟩

end Session

end Telemetry
