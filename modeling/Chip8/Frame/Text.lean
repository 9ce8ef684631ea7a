import Chip8.Frame.Basic

set_option relaxedAutoImplicit false
set_option autoImplicit false

/-!
# Frames as text

A frame as 32 lines of 64 characters, a full square for a lit pixel and an empty one for the
rest.

## Main definitions

* `Chip8.Frame.text` — the lines one after another.
-/

namespace Chip8.Frame

/-- The character of a pixel. -/
def square (lit : Bool) : Char :=
  if lit then '■' else '□'

/-- Line `y`, with its end of line. -/
def textLine (f : Frame) (y : Fin 32) : List Char :=
  (List.finRange 64).map (fun x => square (f.pixel x.val y.val)) ++ ['\n']

/-- The frame as text. -/
def text (f : Frame) : List Char :=
  (List.finRange 32).flatMap f.textLine

end Chip8.Frame
