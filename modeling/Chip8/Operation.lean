import Chip8.Alu
import Chip8.Instruction

set_option relaxedAutoImplicit false
set_option autoImplicit false

/-!
# Operations

What an instruction asks for, with its operands taken out of the word. A word that asks for
nothing has no operation. Decoding looks at the group first and then at the fourth nibble
(groups 5, 8 and 9) or at the whole low byte (groups 0, E and F).

## Main definitions

* `Chip8.Operation` — the operations of the machine.
* `Chip8.Instruction.operation?` — the operation of an instruction, if it has one.
-/

namespace Chip8

/-- The operations of the machine. Registers are `x` and `y`. -/
inductive Operation where
  /-- Switch every pixel off. -/
  | clearScreen
  /-- Go back to the last return address. -/
  | ret
  /-- Go to an address. -/
  | jump (target : UInt16)
  /-- Keep the address of the next instruction and go to an address. -/
  | call (target : UInt16)
  /-- Skip an instruction if register and byte are equal. -/
  | skipEqual (x : Fin 16) (byte : UInt8)
  /-- Skip an instruction if register and byte differ. -/
  | skipNotEqual (x : Fin 16) (byte : UInt8)
  /-- Skip an instruction if two registers are equal. -/
  | skipSame (x y : Fin 16)
  /-- Skip an instruction if two registers differ. -/
  | skipDifferent (x y : Fin 16)
  /-- Store a byte. -/
  | load (x : Fin 16) (byte : UInt8)
  /-- Add a byte, without a flag. -/
  | addByte (x : Fin 16) (byte : UInt8)
  /-- Combine two registers. -/
  | alu (op : AluOp) (x y : Fin 16)
  /-- Set the index. -/
  | setIndex (addr : UInt16)
  /-- Go to an address plus the first register. -/
  | jumpOffset (base : UInt16)
  /-- Store a random byte, masked. -/
  | random (x : Fin 16) (mask : UInt8)
  /-- Draw the sprite of some height at the index. -/
  | draw (x y : Fin 16) (height : Fin 16)
  /-- Skip an instruction if the key in a register is down. -/
  | skipKeyDown (x : Fin 16)
  /-- Skip an instruction unless the key in a register is down. -/
  | skipKeyUp (x : Fin 16)
  /-- Read the delay timer. -/
  | readDelay (x : Fin 16)
  /-- Wait for a key. -/
  | awaitKey (x : Fin 16)
  /-- Write the delay timer. -/
  | setDelay (x : Fin 16)
  /-- Write the sound timer. -/
  | setSound (x : Fin 16)
  /-- Add a register to the index. -/
  | addIndex (x : Fin 16)
  /-- Point the index at the glyph of a digit. -/
  | glyph (x : Fin 16)
  /-- Store the three decimal digits of a register at the index. -/
  | storeDecimal (x : Fin 16)
  /-- Store the registers up to one at the index. -/
  | save (x : Fin 16)
  /-- Read the registers up to one from the index. -/
  | restore (x : Fin 16)
  deriving DecidableEq, Repr

namespace Instruction

/-- The operation of a word of group 0. -/
def systemOperation? (ins : Instruction) : Option Operation :=
  match ins.nn with
  | 0xE0 => some .clearScreen
  | 0xEE => some .ret
  | _ => none

/-- The function of a word of group 8. -/
def aluOp? (ins : Instruction) : Option AluOp :=
  match ins.n with
  | 0x0 => some .copy
  | 0x1 => some .or
  | 0x2 => some .and
  | 0x3 => some .xor
  | 0x4 => some .add
  | 0x5 => some .sub
  | 0x6 => some .shiftRight
  | 0x7 => some .subFrom
  | 0xE => some .shiftLeft
  | _ => none

/-- The operation of a word of group E. -/
def keyOperation? (ins : Instruction) : Option Operation :=
  match ins.nn with
  | 0x9E => some (.skipKeyDown ins.x)
  | 0xA1 => some (.skipKeyUp ins.x)
  | _ => none

/-- The operation of a word of group F. -/
def miscOperation? (ins : Instruction) : Option Operation :=
  match ins.nn with
  | 0x07 => some (.readDelay ins.x)
  | 0x0A => some (.awaitKey ins.x)
  | 0x15 => some (.setDelay ins.x)
  | 0x18 => some (.setSound ins.x)
  | 0x1E => some (.addIndex ins.x)
  | 0x29 => some (.glyph ins.x)
  | 0x33 => some (.storeDecimal ins.x)
  | 0x55 => some (.save ins.x)
  | 0x65 => some (.restore ins.x)
  | _ => none

/-- The operation of an instruction, if it has one; the last case is group F. -/
def operation? (ins : Instruction) : Option Operation :=
  match ins.group with
  | 0x0 => ins.systemOperation?
  | 0x1 => some (.jump ins.nnn)
  | 0x2 => some (.call ins.nnn)
  | 0x3 => some (.skipEqual ins.x ins.nn)
  | 0x4 => some (.skipNotEqual ins.x ins.nn)
  | 0x5 => if ins.n = 0 then some (.skipSame ins.x ins.y) else none
  | 0x6 => some (.load ins.x ins.nn)
  | 0x7 => some (.addByte ins.x ins.nn)
  | 0x8 => ins.aluOp?.map (.alu · ins.x ins.y)
  | 0x9 => if ins.n = 0 then some (.skipDifferent ins.x ins.y) else none
  | 0xA => some (.setIndex ins.nnn)
  | 0xB => some (.jumpOffset ins.nnn)
  | 0xC => some (.random ins.x ins.nn)
  | 0xD => some (.draw ins.x ins.y ins.n)
  | 0xE => ins.keyOperation?
  | _ => ins.miscOperation?

end Instruction

end Chip8
