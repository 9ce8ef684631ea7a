import Chip8.Error

set_option relaxedAutoImplicit false
set_option autoImplicit false

/-!
# Instructions

An instruction is two bytes, the high byte first. Its nibbles select what it does and carry its
operands; the views of this module name them. Whether a combination means anything is decided
in `Chip8.Operation`.

## Main definitions

* `Chip8.Instruction` — two bytes, with the views `group`, `subGroup`, `x`, `y`, `n`, `nn`
  and `nnn`.
* `Chip8.Instruction.ofBytes` — an instruction from exactly two bytes.
* `Chip8.Instruction.ofWord`, `Chip8.Instruction.word` — the 16-bit form.
-/

namespace Chip8

/-- Two bytes, the high byte first. -/
structure Instruction where
  /-- The byte that comes first in memory. -/
  hi : UInt8
  /-- The byte that comes second in memory. -/
  lo : UInt8
  deriving DecidableEq, Repr, Inhabited

namespace Instruction

/-- The number of bytes of an instruction. -/
def width : UInt16 := 2

/-- The instruction of a byte list, which must hold exactly two bytes. -/
def ofBytes : List UInt8 → Except Error Instruction
  | [hi, lo] => .ok ⟨hi, lo⟩
  | bytes => .error (.malformedInstruction bytes.length)

/-- The instruction of a 16-bit word. -/
def ofWord (word : UInt16) : Instruction :=
  ⟨(word >>> 8).toUInt8, word.toUInt8⟩

/-- The 16-bit word of an instruction. -/
def word (ins : Instruction) : UInt16 :=
  ins.hi.toUInt16 <<< 8 ||| ins.lo.toUInt16

/-- The high nibble of a byte. -/
def highNibble (b : UInt8) : Fin 16 :=
  ⟨b.toNat / 16, by have := b.toNat_lt; omega⟩

/-- The low nibble of a byte. -/
def lowNibble (b : UInt8) : Fin 16 :=
  ⟨b.toNat % 16, by omega⟩

/-- The first nibble, which every choice of operation looks at. -/
def group (ins : Instruction) : Fin 16 := highNibble ins.hi

/-- The second nibble: a register, or the last of a range of registers. -/
def x (ins : Instruction) : Fin 16 := lowNibble ins.hi

/-- The third nibble: a register. -/
def y (ins : Instruction) : Fin 16 := highNibble ins.lo

/-- The fourth nibble: a small number, or a choice within a group. -/
def n (ins : Instruction) : Fin 16 := lowNibble ins.lo

/-- The fourth nibble, looked at as a choice within a group. -/
def subGroup (ins : Instruction) : Fin 16 := lowNibble ins.lo

/-- The low byte: a number, or a choice within a group. -/
def nn (ins : Instruction) : UInt8 := ins.lo

/-- The last three nibbles: a 12-bit address. -/
def nnn (ins : Instruction) : UInt16 :=
  (ins.hi &&& 0x0F).toUInt16 <<< 8 ||| ins.lo.toUInt16

/-- The word as four upper-case digits. -/
def text (ins : Instruction) : List Char :=
  Hex.fixed .upper 4 ins.word.toNat

end Instruction

end Chip8
