/-!
How alike two names are.

Two characters match if they are equal and not farther apart than half the longer
name. The likeness of two names is the mean of three shares: of the characters of
either that match, and of the matches that stand in the same order. It is kept as
an exact fraction.
-/

namespace Telemetry.CommandLine

/-- A fraction. -/
structure Likeness where
  numerator : Nat
  denominator : Nat
  deriving DecidableEq, Repr

/-- Whether one fraction is less than another. -/
def Likeness.lt (a b : Likeness) : Bool :=
  a.numerator * b.denominator < b.numerator * a.denominator

/-- Marks the first free character from index `least` up to below `limit` that equals `c`. -/
def takeMatch (c : Char) (least limit : Nat) :
    (index : Nat) → List (Char × Bool) → Option (List (Char × Bool))
  | _, [] => none
  | index, (d, taken) :: rest =>
    if least ≤ index && index < limit && c = d && !taken then some ((d, true) :: rest)
    else (takeMatch c least limit (index + 1) rest).map ((d, taken) :: ·)

/-- The matching characters of the first name, and the second name with its matches marked. -/
def matchAll (reach : Nat) :
    (index : Nat) → List Char → List (Char × Bool) → List Char × List (Char × Bool)
  | _, [], marked => ([], marked)
  | index, c :: cs, marked =>
    match takeMatch c (index - reach) (index + reach + 1) 0 marked with
    | some marked =>
      let (matched, marked) := matchAll reach (index + 1) cs marked
      (c :: matched, marked)
    | none => matchAll reach (index + 1) cs marked

/-- How alike two names are, between zero and one. -/
def likeness (a b : List Char) : Likeness :=
  let reach := max a.length b.length / 2 - 1
  let (first, marked) := matchAll reach 0 a (b.map (·, false))
  let second := (marked.filter (·.2)).map (·.1)
  let m := first.length
  let swapped := ((first.zip second).filter fun (x, y) => x ≠ y).length / 2
  if m = 0 then ⟨0, 1⟩
  else
    ⟨m * m * b.length + m * m * a.length + (m - swapped) * a.length * b.length,
      3 * a.length * b.length * m⟩

/-- The likeness above which a name is worth proposing. -/
def worthProposing : Likeness := ⟨7, 10⟩

/-- The name that is most alike, the last one of several, if one is worth proposing. -/
def mostAlike {α : Type} (nameOf : α → String) (name : String) (candidates : List α) : Option α :=
  let step (best : Option (α × Likeness)) (a : α) : Option (α × Likeness) :=
    let l := likeness name.toList (nameOf a).toList
    if !worthProposing.lt l then best
    else
      match best with
      | some (_, l') => if l.lt l' then best else some (a, l)
      | none => some (a, l)
  (candidates.foldl step none).map (·.1)

end Telemetry.CommandLine
