/-!
Taking texts apart at separators.
-/

namespace Telemetry.Text

/-- The parts of a text between separators, one more than there are separators. -/
def splitOn (separator : Char → Bool) : List Char → List (List Char)
  | [] => [[]]
  | c :: cs =>
    if separator c then [] :: splitOn separator cs
    else
      match splitOn separator cs with
      | part :: parts => (c :: part) :: parts
      | [] => [[c]]

theorem splitOn_ne_nil (separator : Char → Bool) (cs : List Char) : splitOn separator cs ≠ [] := by
  cases cs with
  | nil => simp [splitOn]
  | cons c cs =>
    unfold splitOn
    split
    · simp
    · split <;> simp

/-- What stands before the first separator, and what behind it if there is one. -/
def splitFirst (separator : Char) : List Char → List Char × Option (List Char)
  | [] => ([], none)
  | c :: cs =>
    if c = separator then ([], some cs)
    else
      let (front, back?) := splitFirst separator cs
      (c :: front, back?)

/-- What stands before the last separator if there is one, and what behind it. -/
def splitLast (separator : Char) (cs : List Char) : Option (List Char) × List Char :=
  match splitFirst separator cs.reverse with
  | (back, front?) => (front?.map List.reverse, back.reverse)

end Telemetry.Text
