import Telemetry.Session.Basic

/-!
Keys as a terminal sends them.

Most keys are a single character. The arrows and the back tab are sequences that
begin with an escape, and a character from one to twenty-six is a letter typed
with the control key.
-/

namespace Telemetry

def KeyEvent.press (key : Key) (control : Bool) : KeyEvent := ⟨key, control, .pressed⟩

/-- The key behind the last character of a sequence. -/
def sequenceKey : Char → Key
  | 'C' => .right
  | 'D' => .left
  | 'Z' => .backTab
  | _ => .other

/-- The key of a single character. -/
def characterKey (c : Char) : KeyEvent :=
  if c = '\x1b' then .press .escape false
  else if c = '\t' then .press .tab false
  else if c = '\r' ∨ c = '\n' ∨ c = '\x7f' then .press .other false
  else if 1 ≤ c.toNat ∧ c.toNat ≤ 26 then .press (.character (Char.ofNat (c.toNat + 96))) true
  else .press (.character c) false

/-- The keys that a text of the terminal stands for. -/
def keysOf : List Char → List KeyEvent
  | '\x1b' :: '[' :: c :: rest => .press (sequenceKey c) false :: keysOf rest
  | c :: rest => characterKey c :: keysOf rest
  | [] => []

/-- Handles keys one after the other. -/
def Session.handleKeys (s : Session) (keys : List KeyEvent) : Session := keys.foldl handleKey s

end Telemetry
