import Mathlib.Logic.Relation
import Telemetry.Proofs.Dashboard.Run
import Telemetry.Proofs.Polling.Answers

/-!
Refreshing a dashboard while the answers come in whenever they like.

The refresh cycles make their requests one after the other and wait for none of
them. A request in flight ends at any time: it delivers its update into the
queue of the dashboard, or nothing if it fails. The dashboard takes updates from
the queue in order and applies them, each under the label of that moment. A
`Step` is one of these three moves, so the steps of a run interleave in every
way in which the program's can.

`Invariant` accounts for every update that will ever be sent, wherever it is;
when nothing is left to happen, exactly these updates have been received
(`received_perm_sent`). Conversely they may be received in any order whatever
(`reaches_of_perm`).
-/

namespace Telemetry

/-- A dashboard and its screen, with the requests and the updates on their way to it. -/
structure Polling where
  /-- The requests that are still to be made. -/
  pending : List (UInt64 × Source)
  inFlight : List (UInt64 × Source)
  /-- The queue of the dashboard. -/
  arrived : List Update
  /-- What was applied, in order, with the labels. -/
  received : List (Update × String)
  dashboard : Dashboard
  screen : Screen

namespace Polling

variable {answers : Answers} {cycles : UInt64} {screen : Screen} {p q : Polling}

/-- Before the first of a number of cycles. -/
def start (cycles : UInt64) (screen : Screen) : Polling :=
  ⟨requests cycles.toNat, [], [], [], .default, screen⟩

def receive (p : Polling) (u : Update) (later : List Update) (label : String) : Polling :=
  let applied := p.dashboard.apply p.screen u label
  { p with
    arrived := later
    received := p.received ++ [(u, label)]
    dashboard := applied.dashboard
    screen := applied.screen }

inductive Step (answers : Answers) : Polling → Polling → Prop where
  | dispatch {p : Polling} {request : UInt64 × Source} {later : List (UInt64 × Source)}
      (h : p.pending = request :: later) :
      Step answers p { p with pending := later, inFlight := p.inFlight ++ [request] }
  | finish {p : Polling} {request : UInt64 × Source} (h : request ∈ p.inFlight) :
      Step answers p
        { p with
          inFlight := p.inFlight.erase request
          arrived := p.arrived ++ (answers.update? request).toList }
  | take {p : Polling} {u : Update} {later : List Update} (label : String)
      (h : p.arrived = u :: later) : Step answers p (p.receive u later label)

abbrev Reaches (answers : Answers) : Polling → Polling → Prop :=
  Relation.ReflTransGen (Step answers)

/-- Nothing is left to happen. -/
def IsDone (p : Polling) : Prop := p.pending = [] ∧ p.inFlight = [] ∧ p.arrived = []

/-- The updates that have not been received, be they in the queue or still to be delivered. -/
def outstanding (answers : Answers) (p : Polling) : List Update :=
  p.arrived ++ (p.inFlight ++ p.pending).filterMap answers.update?

/-- The dashboard and the screen are what the updates received so far have made of them, and
together with the outstanding ones these are the updates of all cycles, each once. -/
structure Invariant (answers : Answers) (cycles : UInt64) (screen : Screen) (p : Polling) :
    Prop where
  dashboard_eq : p.dashboard = (Dashboard.default.run screen p.received).dashboard
  screen_eq : p.screen = (Dashboard.default.run screen p.received).screen
  perm : (p.received.map Prod.fst ++ p.outstanding answers).Perm (answers.sent cycles)

theorem invariant_start : (start cycles screen).Invariant answers cycles screen where
  dashboard_eq := rfl
  screen_eq := rfl
  perm := .refl _

theorem outstanding_dispatch {request : UInt64 × Source} {later : List (UInt64 × Source)}
    (h : p.pending = request :: later) :
    outstanding answers { p with pending := later, inFlight := p.inFlight ++ [request] } =
      p.outstanding answers := by
  simp [outstanding, h]

theorem filterMap_update?_erase {requests : List (UInt64 × Source)} {request : UInt64 × Source}
    (h : request ∈ requests) :
    (requests.filterMap answers.update?).Perm
      ((answers.update? request).toList ++ (requests.erase request).filterMap answers.update?) := by
  have hperm := (List.perm_cons_erase h).filterMap answers.update?
  cases hu : answers.update? request with
  | none => simpa [List.filterMap_cons, hu] using hperm
  | some u => simpa [List.filterMap_cons, hu] using hperm

theorem outstanding_finish {request : UInt64 × Source} (h : request ∈ p.inFlight) :
    (outstanding answers
      { p with
        inFlight := p.inFlight.erase request
        arrived := p.arrived ++ (answers.update? request).toList }).Perm
      (p.outstanding answers) := by
  simp only [outstanding, List.filterMap_append, List.append_assoc]
  rw [← List.append_assoc (answers.update? request).toList]
  exact ((filterMap_update?_erase h).symm.append_right _).append_left _

theorem outstanding_receive {u : Update} {later : List Update} (h : p.arrived = u :: later)
    (label : String) :
    p.outstanding answers = u :: (p.receive u later label).outstanding answers := by
  simp [outstanding, receive, h]

/-- **One step preserves the invariant.** -/
theorem Invariant.step (h : p.Invariant answers cycles screen) (hstep : Step answers p q) :
    q.Invariant answers cycles screen := by
  cases hstep with
  | dispatch hpending =>
      refine ⟨h.dashboard_eq, h.screen_eq, ?_⟩
      rw [outstanding_dispatch hpending]
      exact h.perm
  | finish hmem =>
      refine ⟨h.dashboard_eq, h.screen_eq, ?_⟩
      exact ((outstanding_finish hmem).append_left _).trans h.perm
  | take label harrived =>
      -- an update leaves the queue and is received
      refine ⟨?_, ?_, ?_⟩
      · simp [receive, Dashboard.run_append, Dashboard.run_cons, ← h.dashboard_eq, ← h.screen_eq]
      · simp [receive, Dashboard.run_append, Dashboard.run_cons, ← h.dashboard_eq, ← h.screen_eq]
      · have hperm := h.perm
        rw [outstanding_receive harrived label] at hperm
        simpa [receive] using hperm

theorem invariant_of_reaches (h : Reaches answers (start cycles screen) p) :
    p.Invariant answers cycles screen := by
  induction h with
  | refl => exact invariant_start
  | tail _ hstep ih => exact ih.step hstep

/-- When all is done, every update has been received exactly once. -/
theorem Invariant.received_perm_sent (h : p.Invariant answers cycles screen) (hdone : p.IsDone) :
    (p.received.map Prod.fst).Perm (answers.sent cycles) := by
  obtain ⟨hpending, hflight, harrived⟩ := hdone
  simpa [outstanding, hpending, hflight, harrived] using h.perm

/-! ### Every order is possible -/

theorem reaches_dispatched (p : Polling) :
    Reaches answers p { p with pending := [], inFlight := p.inFlight ++ p.pending } := by
  rcases p with ⟨pending, inFlight, arrived, received, d, s⟩
  induction pending generalizing inFlight with
  | nil => simpa using Relation.ReflTransGen.refl
  | cons request later ih =>
      refine .head (.dispatch rfl) ?_
      simpa using ih (inFlight ++ [request])

theorem reaches_of_inFlight {inFlight : List (UInt64 × Source)} {us : List (Update × String)}
    (h : (inFlight.filterMap answers.update?).Perm (us.map Prod.fst))
    (received : List (Update × String)) (d : Dashboard) (s : Screen) :
    Reaches answers ⟨[], inFlight, [], received, d, s⟩
      ⟨[], [], [], received ++ us, (d.run s us).dashboard, (d.run s us).screen⟩ := by
  induction us generalizing inFlight received d s with
  | nil =>
      -- what is left in flight fails
      induction inFlight with
      | nil => simpa using Relation.ReflTransGen.refl
      | cons request later ih =>
          have hfails : answers.update? request = none ∧ later.filterMap answers.update? = [] := by
            simpa [List.filterMap_eq_nil_iff] using h
          refine .head (.finish (List.mem_cons_self ..)) ?_
          simpa [hfails.1] using ih (by simp [hfails.2])
  | cons x us ih =>
      rcases x with ⟨u, label⟩
      obtain ⟨request, hmem, hu⟩ := List.mem_filterMap.1 (h.mem_iff.2 (List.mem_cons_self ..))
      have hperm := (filterMap_update?_erase hmem).symm.trans h
      rw [hu] at hperm
      have harrived : [] ++ (answers.update? request).toList = [u] := by simp [hu]
      refine .head (.finish hmem) (.head (.take label harrived) ?_)
      simpa [receive, Dashboard.run_cons] using
        ih hperm.cons_inv (received ++ [(u, label)]) (d.apply s u label).dashboard
          (d.apply s u label).screen

/-- **Updates may be received in any order.** -/
theorem reaches_of_perm {us : List (Update × String)}
    (h : (us.map Prod.fst).Perm (answers.sent cycles)) (screen : Screen) :
    Reaches answers (start cycles screen)
      ⟨[], [], [], us, (Dashboard.default.run screen us).dashboard,
        (Dashboard.default.run screen us).screen⟩ :=
  (reaches_dispatched _).trans (reaches_of_inFlight h.symm [] _ _)

end Polling

end Telemetry
