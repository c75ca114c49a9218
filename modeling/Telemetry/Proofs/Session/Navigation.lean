import Mathlib.Data.List.DropRight
import Telemetry.Session.Input

/-!
What a sequence of keys does.

A key moves the active panel or asks for the end of the session, and it looks at
nothing but the active panel. With the panels counted from zero, a digit sets the
number of the active panel and the other keys change it by one, modulo the number
of panels; so what a sequence of keys leads to is known from the last digit and
from how often the panel was changed after it (`Session.index_handleKeys`). The
end is asked for as soon as one of the keys asks for it, and for good
(`Session.quitting_handleKeys`).
-/

namespace Telemetry

/-- The number of a panel, in the order of the tab bar. -/
def Panel.index : Panel → Nat
  | overview => 0
  | network => 1
  | system => 2

theorem Panel.index_next (p : Panel) : (p.next.index : Int) = (p.index + 1) % 3 := by
  cases p <;> rfl

theorem Panel.index_previous (p : Panel) : (p.previous.index : Int) = (p.index - 1) % 3 := by
  cases p <;> rfl

theorem Panel.index_mod (p : Panel) : (p.index : Int) % 3 = p.index := by
  cases p <;> rfl

namespace KeyEvent

/-! ### What a key asks for, whatever the active panel -/

/-- The panel that a pressed digit selects. -/
def digit? (e : KeyEvent) : Option Panel :=
  match e.action, e.key with
  | .pressed, .character '1' => some .overview
  | .pressed, .character '2' => some .network
  | .pressed, .character '3' => some .system
  | _, _ => none

/-- Whether the tab key or the right arrow was pressed. -/
def isForward (e : KeyEvent) : Bool := e.action = .pressed && (e.key = .tab || e.key = .right)

/-- Whether the back tab or the left arrow was pressed. -/
def isBackward (e : KeyEvent) : Bool := e.action = .pressed && (e.key = .backTab || e.key = .left)

/-- Whether a key was pressed that ends the session. -/
def isQuit (e : KeyEvent) : Bool :=
  e.action = .pressed &&
    (e.key = .character 'q' || e.key = .character 'Q' || e.key = .escape ||
      (e.key = .character 'c' && e.control))

/-- The panel that is active once the key has been handled. -/
def lead (e : KeyEvent) (active : Panel) : Panel :=
  match e.command? active with
  | some (.select p) => p
  | _ => active

theorem command?_of_not_pressed {e : KeyEvent} (h : e.action ≠ .pressed) (active : Panel) :
    e.command? active = none := by
  rcases e with ⟨key, control, _ | _ | _⟩
  · exact absurd rfl h
  · rfl
  · rfl

theorem command?_eq_quit_iff (e : KeyEvent) (active : Panel) :
    e.command? active = some .quit ↔ e.isQuit = true := by
  rcases e with ⟨key, control, _ | _ | _⟩
  · cases key with
    | character c =>
        by_cases h : c = 'q' ∨ c = 'Q' ∨ (c = 'c' ∧ control)
        · simp [command?, Key.command?, isQuit, h, or_assoc]
        · simp [command?, Key.command?, isQuit, h, or_assoc]
    | _ => simp [command?, Key.command?, isQuit]
  · simp [command?, isQuit]
  · simp [command?, isQuit]

theorem digit?_character (c : Char) (control : Bool) :
    digit? ⟨.character c, control, .pressed⟩ = Panel.ofDigit? c := by
  unfold Panel.ofDigit?
  split <;> simp_all [digit?]

theorem lead_character (c : Char) (control : Bool) (active : Panel) :
    lead ⟨.character c, control, .pressed⟩ active = (Panel.ofDigit? c).getD active := by
  rw [lead, command?, Key.command?]
  by_cases hquit : c = 'q' ∨ c = 'Q' ∨ (c = 'c' ∧ control)
  · rw [if_pos hquit]
    rcases hquit with rfl | rfl | ⟨rfl, -⟩ <;> rfl
  · rw [if_neg hquit]
    cases Panel.ofDigit? c <;> rfl

/-- A digit sets the number of the active panel, any other key changes it by one at most. -/
theorem index_lead (e : KeyEvent) (active : Panel) :
    ((e.lead active).index : Int) =
      match e.digit? with
      | some p => (p.index : Int)
      | none => (active.index + e.isForward.toNat - e.isBackward.toNat) % 3 := by
  have hstay : (active.index : Int) = (active.index + false.toNat - false.toNat) % 3 := by
    simp [Panel.index_mod]
  rcases e with ⟨key, control, _ | _ | _⟩
  · cases key with
    | tab => simp [lead, command?, Key.command?, digit?, isForward, isBackward, Panel.index_next]
    | right => simp [lead, command?, Key.command?, digit?, isForward, isBackward, Panel.index_next]
    | backTab =>
        simp [lead, command?, Key.command?, digit?, isForward, isBackward, Panel.index_previous]
    | left =>
        simp [lead, command?, Key.command?, digit?, isForward, isBackward, Panel.index_previous]
    | escape => exact hstay
    | other => exact hstay
    | character c =>
        rw [lead_character, digit?_character]
        cases Panel.ofDigit? c with
        | some p => rfl
        | none => exact hstay
  · exact hstay
  · exact hstay

end KeyEvent

namespace Session

variable {s : Session}

@[simp] theorem handleKeys_nil : s.handleKeys [] = s := rfl

/-- All that a key does. -/
theorem handleKey_eq (e : KeyEvent) :
    s.handleKey e =
      { s with
        dashboard := s.dashboard.select (e.lead s.dashboard.active)
        quitting := s.quitting || e.isQuit } := by
  have hquit := e.command?_eq_quit_iff s.dashboard.active
  have hself : s.dashboard.select s.dashboard.active = s.dashboard := rfl
  rw [handleKey, KeyEvent.lead]
  cases hcommand : e.command? s.dashboard.active with
  | none =>
      have hno : e.isQuit = false := by simpa [hcommand] using hquit
      simp [hno, hself]
  | some command =>
      cases command with
      | quit =>
          have hyes : e.isQuit = true := by simpa [hcommand] using hquit
          simp [obey, hyes, hself]
      | select p =>
          have hno : e.isQuit = false := by simpa [hcommand] using hquit
          simp [obey, hno]

/-- A key that was not pressed does nothing. -/
theorem handleKey_of_not_pressed {e : KeyEvent} (h : e.action ≠ .pressed) : s.handleKey e = s := by
  rw [handleKey, KeyEvent.command?_of_not_pressed h]

/-! ### Sequences of keys -/

/-- All that a sequence of keys does. -/
theorem handleKeys_eq (keys : List KeyEvent) :
    s.handleKeys keys =
      { s with
        dashboard := s.dashboard.select
          (keys.foldl (fun active e => e.lead active) s.dashboard.active)
        quitting := s.quitting || keys.any KeyEvent.isQuit } := by
  induction keys generalizing s with
  | nil =>
      rw [handleKeys_nil, List.any_nil, Bool.or_false]
      rfl
  | cons e keys ih =>
      show (s.handleKey e).handleKeys keys = _
      rw [ih, handleKey_eq, List.any_cons, ← Bool.or_assoc]
      rfl

theorem quitting_handleKeys (keys : List KeyEvent) :
    (s.handleKeys keys).quitting = (s.quitting || keys.any KeyEvent.isQuit) := by
  rw [handleKeys_eq]

/-- The panel that a sequence of keys leads to: the one of the last digit, changed by the keys
that come after it. -/
theorem index_handleKeys (keys : List KeyEvent) :
    let later := keys.rtakeWhile fun e => e.digit? = none
    ((s.handleKeys keys).dashboard.active.index : Int) =
      (((keys.reverse.findSome? KeyEvent.digit?).getD s.dashboard.active).index +
        later.countP KeyEvent.isForward - later.countP KeyEvent.isBackward) % 3 := by
  induction keys using List.reverseRecOn with
  | nil => simp [Panel.index_mod]
  | append_singleton keys e ih =>
      have hstep : (s.handleKeys (keys ++ [e])).dashboard.active =
          e.lead (s.handleKeys keys).dashboard.active := by
        simp only [handleKeys_eq, Dashboard.active_select, List.foldl_concat]
      rw [hstep, KeyEvent.index_lead, List.reverse_concat, List.findSome?_cons,
        List.rtakeWhile_concat]
      cases hdigit : e.digit? with
      | some p => simp [Panel.index_mod]
      | none =>
          simp only [decide_true, if_true, List.countP_append, List.countP_singleton, ih]
          cases e.isForward <;> cases e.isBackward <;>
            simp only [Bool.toNat_true, Bool.toNat_false, Bool.false_eq_true, if_true, if_false] <;>
            omega

end Session

end Telemetry
