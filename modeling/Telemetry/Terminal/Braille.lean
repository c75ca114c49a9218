import Telemetry.Terminal.Canvas

/-!
Drawing with dots.

Every cell of an area holds two columns and four rows of dots, which together are
one Braille character. A line between two dots steps along its longer side, one
dot a step, and along the shorter side whenever the error of doing so is the
smaller one.
-/

namespace Telemetry.Terminal

/-- A dot, counted in columns from the left and in rows from the top. -/
abbrev Dot := Nat × Nat

/-- The numbers from `a` to `b`, in either order. -/
def between (a b : Nat) : List Nat := (List.range (max a b - min a b + 1)).map (min a b + ·)

/-- Dots from a start, one for each step along the longer side `long`, with error `error`. -/
def slope (long short : Nat) (down : Bool) : (steps : Nat) → (error : Int) → (u v : Nat) → List Dot
  | 0, _, u, v => [(u, v)]
  | steps + 1, error, u, v =>
    if 0 < error then
      (u, v) :: slope long short down steps (error - 2 * long + 2 * short) (u + 1)
        (if down then v - 1 else v + 1)
    else (u, v) :: slope long short down steps (error + 2 * short) (u + 1) v

/-- A line that is longer along its first coordinate, from the smaller end on. -/
def gentle (p q : Dot) : List Dot :=
  let (a, b) := if q.1 < p.1 then (q, p) else (p, q)
  let long := b.1 - a.1
  let short := max a.2 b.2 - min a.2 b.2
  slope long short (b.2 < a.2) long (2 * short - long) a.1 a.2

def swap (p : Dot) : Dot := (p.2, p.1)

/-- The dots of a line. -/
def line (p q : Dot) : List Dot :=
  let dx := max p.1 q.1 - min p.1 q.1
  let dy := max p.2 q.2 - min p.2 q.2
  if dx = 0 then (between p.2 q.2).map (p.1, ·)
  else if dy = 0 then (between p.1 q.1).map (·, p.2)
  else if dy < dx then gentle p q
  else (gentle (swap p) (swap q)).map swap

/-- The bit of a dot within its cell. -/
def dotBit (d : Dot) : Nat :=
  match d.1 % 2, d.2 % 4 with
  | 0, 0 => 0x01
  | 0, 1 => 0x02
  | 0, 2 => 0x04
  | 0, _ => 0x40
  | _, 0 => 0x08
  | _, 1 => 0x10
  | _, 2 => 0x20
  | _, _ => 0x80

/-- The bits of every cell of an area, row by row. -/
def dotCells (width height : Nat) (dots : List Dot) : Array Nat :=
  dots.foldl
    (fun cells d =>
      if d.1 / 2 < width then cells.modify (d.2 / 4 * width + d.1 / 2) (· ||| dotBit d) else cells)
    (Array.replicate (width * height) 0)

/-- The Braille character with the given bits. -/
def brailleChar (bits : Nat) : Char := Char.ofNat (0x2800 + bits)

/-- Dots in a color. They replace what their cells hold; cells without dots are left alone. -/
def Canvas.dots (c : Canvas) (a : Area) (dots : List Dot) (color : Color) : Canvas :=
  let cells := dotCells a.width a.height dots
  (List.range (a.width * a.height)).foldl
    (fun c i =>
      let bits := cells.getD i 0
      if bits = 0 then c
      else c.put (a.x + i % a.width) (a.y + i / a.width) (brailleChar bits)
        (Style.withForeground color)) c

end Telemetry.Terminal
