import Chip8.CallStack
import Chip8.Error
import Chip8.Text.Hex

set_option relaxedAutoImplicit false
set_option autoImplicit false

/-!
# Snapshots

Everything the processor keeps track of apart from memory, as plain numbers: it gives a machine
its starting values and is what a diagnostic log shows. A snapshot may hold numbers that no
machine has, such as a stack pointer of 200.

## Main definitions

* `Chip8.Snapshot` — the numbers.
* `Chip8.Snapshot.startingAt` — all zero but the program counter.
* `Chip8.Snapshot.text` — the log: one line for each number, one for the stack, and one for each
  register.
* `Chip8.Snapshot.details` — the fields spelled out on one line.
-/

namespace Chip8

/-- The number of registers. -/
def registerCount : Nat := 16

/-- What the processor keeps track of apart from memory. -/
structure Snapshot where
  /-- The program counter. -/
  pc : UInt16 := 0x200
  /-- The stack pointer: how many return addresses are in use. -/
  sp : UInt8 := 0
  /-- The delay timer. -/
  delay : UInt8 := 0
  /-- The sound timer. -/
  sound : UInt8 := 0
  /-- The index. -/
  index : UInt16 := 0
  /-- The slots for return addresses. -/
  stack : Vector UInt16 stackDepth := Vector.replicate stackDepth 0
  /-- The registers. -/
  registers : Vector UInt8 registerCount := Vector.replicate registerCount 0
  deriving DecidableEq

namespace Snapshot

/-- All zero but the program counter. -/
def startingAt (pc : UInt16) : Snapshot := { pc }

/-- A name, an equals sign, a text and the end of the line. -/
def line (name : String) (value : List Char) : List Char :=
  name.toList ++ " = ".toList ++ value ++ ['\n']

/-- Texts in brackets, with commas between them. -/
def listed (items : List (List Char)) : List Char :=
  '[' :: List.intercalate ", ".toList items ++ [']']

/-- The value of a register. -/
def register (s : Snapshot) (k : Fin registerCount) : UInt8 :=
  s.registers[k]

/-- The line of a register. -/
def registerLine (s : Snapshot) (k : Fin registerCount) : List Char :=
  line (String.ofList ("register[".toList ++ Hex.short (UInt16.ofNat k.val) ++ [']']))
    (Hex.short (s.register k).toUInt16)

/-- The log: one line for each number, one for the stack, and one for each register. -/
def text (s : Snapshot) : List Char :=
  line "pc" (Hex.short s.pc) ++
    line "sp" (Hex.short s.sp.toUInt16) ++
    line "dt" (Hex.short s.delay.toUInt16) ++
    line "st" (Hex.short s.sound.toUInt16) ++
    line "i" (Hex.short s.index) ++
    line "stack" (listed (s.stack.toList.map Hex.short)) ++
    (List.finRange registerCount).flatMap s.registerLine

/-- The fields spelled out on one line. -/
def details (s : Snapshot) : String :=
  "Snapshot \x7b pc: " ++ toString s.pc ++ ", sp: " ++ toString s.sp ++ ", dt: " ++
    toString s.delay ++ ", st: " ++ toString s.sound ++ ", i: " ++ toString s.index ++
    ", stack: " ++ String.ofList (listed (s.stack.toList.map fun v => (toString v).toList)) ++
    ", registers: " ++
    String.ofList (listed (s.registers.toList.map fun v => (toString v).toList)) ++ " \x7d"

end Snapshot

end Chip8
