set_option relaxedAutoImplicit false
set_option autoImplicit false

/-!
# The frame

The picture: 32 rows of 64 pixels. A row is a bit vector with column 0 in the most significant
bit. Drawing flips the pixels that a sprite row covers; columns wrap around modulo 64 and rows
modulo 32.

## Main definitions

* `Chip8.Frame` — the rows.
* `Chip8.Frame.pixel` — whether a pixel is lit.
* `Chip8.Frame.draw` — flip the pixels of a sprite row, and tell whether a lit one was hit.
-/

namespace Chip8

/-- The picture, row by row. -/
structure Frame where
  /-- The rows, the top one first, with column 0 in the most significant bit. -/
  rows : Vector (BitVec 64) 32
  deriving DecidableEq

namespace Frame

/-- The number of columns. -/
def width : Nat := 64

/-- The number of rows. -/
def height : Nat := 32

/-- No pixel is lit. -/
def blank : Frame := ⟨Vector.replicate 32 0⟩

instance : Inhabited Frame := ⟨blank⟩

/-- The row that is meant by a number, which wraps around. -/
def rowIndex (y : Nat) : Fin 32 :=
  ⟨y % 32, Nat.mod_lt _ (by decide)⟩

/-- Whether the pixel in column `x` and row `y` is lit; both wrap around. -/
def pixel (f : Frame) (x y : Nat) : Bool :=
  f.rows[rowIndex y].getMsbD (x % 64)

/-- The pixels of a row that a sprite row covers if its left edge is in column `x`. -/
def cover (x sprite : UInt8) : BitVec 64 :=
  (sprite.toBitVec.setWidth 64 <<< 56).rotateRight (x.toNat % 64)

/-- Flip the pixels that a sprite row at `(x, y)` covers. The first part of the result tells
whether one of them was lit. -/
def draw (f : Frame) (x y sprite : UInt8) : Bool × Frame :=
  let k := rowIndex y.toNat
  let row := f.rows[k]
  let covered := cover x sprite
  (row &&& covered != 0, ⟨f.rows.set k (row ^^^ covered)⟩)

end Frame

end Chip8
