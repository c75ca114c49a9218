import Telemetry.Terminal.Canvas

/-!
Canvases as control sequences.

A row is written cell by cell; the style is set anew only where it changes.
-/

namespace Telemetry.Terminal

/-- The escape character. -/
def escape : String := "\x1b["

/-- The numbers that select a color, `base` being 30 for the foreground and 40 for the background. -/
def colorCode (base : Nat) : Color → String
  | .reset => toString (base + 9)
  | .darkGray => toString (base + 60)
  | .cyan => toString (base + 6)
  | .rgb red green blue => s!"{base + 8};2;{red.toNat};{green.toNat};{blue.toNat}"

/-- The sequence that selects a style. -/
def styleCode (s : Style) : String :=
  escape ++ "0" ++ (if s.bold then ";1" else "") ++ ";" ++ colorCode 30 s.foreground ++ ";" ++
    colorCode 40 s.background ++ "m"

/-- Cells behind each other, the style before them being known or not. A cell that another one
covers is passed over. -/
def rowCode : (style? : Option Style) → (covered : Bool) → List Cell → String
  | _, _, [] => ""
  | style?, true, _ :: cells => rowCode style? false cells
  | style?, false, cell :: cells =>
    (if style? = some cell.style then "" else styleCode cell.style) ++ cell.symbol.toString ++
      rowCode (some cell.style) (Text.charWidth cell.symbol = 2) cells

/-- The sequences that show a canvas from the upper left corner on. -/
def Canvas.ansi (c : Canvas) : String :=
  escape ++ "H" ++ "\r\n".intercalate (c.visible.map (rowCode none false)) ++ escape ++ "0m"

/-- The sequence that switches to a screen of its own. -/
def enterScreen : String := escape ++ "?1049h"

/-- The sequence that switches back. -/
def leaveScreen : String := escape ++ "?1049l"

end Telemetry.Terminal
