import Chip8.Frame.Plane

set_option relaxedAutoImplicit false
set_option autoImplicit false

/-!
# The canvas

How a frame looks on a terminal: a cell for each pixel, with a border around and the machine's
name in it.

## Main definitions

* `Chip8.Canvas.top`, `Chip8.Canvas.bottom` — the border above and below.
* `Chip8.Canvas.lines` — the whole canvas.
-/

namespace Chip8.Canvas

/-- What is written into the border. -/
def title : List Char := "CHIP-8".toList

/-- The border above the picture. -/
def top : List Char :=
  '┌' :: title ++ List.replicate (Frame.width - title.length) '─' ++ ['┐']

/-- The border below the picture. -/
def bottom : List Char :=
  '└' :: List.replicate Frame.width '─' ++ ['┘']

/-- A row of the picture, with the border at its sides. -/
def row (f : Frame) (y : Nat) : List Char :=
  '│' :: (List.range Frame.width).map (fun x => if f.pixel x y then '█' else ' ') ++ ['│']

/-- The whole canvas, line by line. -/
def lines (f : Frame) : List (List Char) :=
  top :: (List.range Frame.height).map (row f) ++ [bottom]

end Chip8.Canvas
