set_option relaxedAutoImplicit false
set_option autoImplicit false

/-!
# The font

Sixteen glyphs of five rows each, one for each hexadecimal digit.

## Main definitions

* `Chip8.Font.glyphs` — the rows of the glyphs, in the order of the digits.
* `Chip8.Font.bytes` — all rows one after another.
-/

namespace Chip8.Font

/-- The number of rows of a glyph. -/
def glyphSize : Nat := 5

/-- The rows of the glyphs, in the order of the digits. -/
def glyphs : List (List UInt8) := [
  [0xF0, 0x90, 0x90, 0x90, 0xF0],
  [0x20, 0x60, 0x20, 0x20, 0x70],
  [0xF0, 0x10, 0xF0, 0x80, 0xF0],
  [0xF0, 0x10, 0xF0, 0x10, 0xF0],
  [0x90, 0x90, 0xF0, 0x10, 0x10],
  [0xF0, 0x80, 0xF0, 0x10, 0xF0],
  [0xF0, 0x80, 0xF0, 0x90, 0xF0],
  [0xF0, 0x10, 0x20, 0x40, 0x40],
  [0xF0, 0x90, 0xF0, 0x90, 0xF0],
  [0xF0, 0x90, 0xF0, 0x10, 0xF0],
  [0xF0, 0x90, 0xF0, 0x90, 0x90],
  [0xE0, 0x90, 0xE0, 0x90, 0xE0],
  [0xF0, 0x80, 0x80, 0x80, 0xF0],
  [0xE0, 0x90, 0x90, 0x90, 0xE0],
  [0xF0, 0x80, 0xF0, 0x80, 0xF0],
  [0xF0, 0x80, 0xF0, 0x80, 0x80]]

/-- All rows one after another. -/
def bytes : List UInt8 := glyphs.flatten

/-- The font takes five bytes for each of its sixteen glyphs. -/
theorem length_bytes : bytes.length = 80 := rfl

end Chip8.Font
