import Chip8.Frame.Basic

set_option relaxedAutoImplicit false
set_option autoImplicit false

/-!
# Planes

The lit pixels of a frame, and the dark ones, as points of a canvas whose second coordinate
grows upwards: the pixel in column `x` and row `y` is the point `(x, -y)`. A plane lists its
points from the bottom right pixel to the top left one, all at once or one at each call.

## Main definitions

* `Chip8.Frame.plane` — the points of the lit or of the dark pixels.
* `Chip8.Frame.nextPoint` — one call of a listing, with the number of pixels it leaves to the next.
* `Chip8.Frame.pointAt` — what the calls of a listing answer, one after another.
* `Chip8.Frame.horizontalBounds`, `Chip8.Frame.verticalBounds` — the extent of the canvas.
-/

namespace Chip8.Frame

/-- The points of the pixels that are lit, or of those that are not. -/
def plane (f : Frame) (lit : Bool) : List (Int × Int) :=
  ((List.range (width * height)).reverse.filter fun k =>
    f.pixel (k % width) (k / width) == lit).map fun k =>
      (((k % width : Nat) : Int), -((k / width : Nat) : Int))

/-! ## One point at each call -/

/-- The next point of a plane if the first `left` pixels are still to be looked at, and how many of
them are left then. The pixels are numbered row by row, and the last one is looked at first. -/
def nextPoint (f : Frame) (lit : Bool) : (left : Nat) → Option (Int × Int) × Nat
  | 0 => (none, 0)
  | k + 1 =>
    if f.pixel (k % width) (k / width) == lit then
      (some (((k % width : Nat) : Int), -((k / width : Nat) : Int)), k)
    else
      f.nextPoint lit k

/-- How many pixels are still to be looked at after some calls. -/
def leftAfter (f : Frame) (lit : Bool) : (calls : Nat) → Nat
  | 0 => width * height
  | calls + 1 => (f.nextPoint lit (f.leftAfter lit calls)).2

/-- What the call is answered that comes after `calls` others. -/
def pointAt (f : Frame) (lit : Bool) (calls : Nat) : Option (Int × Int) :=
  (f.nextPoint lit (f.leftAfter lit calls)).1

/-! ## The canvas -/

/-- The least and the greatest first coordinate. -/
def horizontalBounds : Int × Int := (0, (width : Int) - 1)

/-- The least and the greatest second coordinate. -/
def verticalBounds : Int × Int := (-((height : Int) - 1), 0)

end Chip8.Frame
