import Chip8.Bytes
import Chip8.CallStack
import Chip8.Snapshot
import Chip8.Timers

set_option relaxedAutoImplicit false
set_option autoImplicit false

/-!
# The processor

The registers, the call stack, the program counter and the index, and the one thing the
processor can wait for: a key, to be put into a register.

## Main definitions

* `Chip8.Cpu` — the state of the processor.
* `Chip8.Cpu.ofSnapshot` — the state a snapshot describes, if its stack pointer is one.
* `Chip8.Cpu.snapshot` — the numbers of a state.
-/

namespace Chip8

/-- The register that carries, borrows and collisions are told in. -/
def flagRegister : Fin 16 := 15

/-- The state of the processor. -/
structure Cpu where
  /-- The registers. -/
  registers : Vector UInt8 registerCount
  /-- The return addresses. -/
  stack : CallStack
  /-- The address of the next instruction. -/
  pc : UInt16
  /-- The address that sprites and runs of registers are found at. -/
  index : UInt16
  /-- The register that a key will be put into, while the processor waits for one. -/
  awaiting : Option (Fin 16) := none
  deriving DecidableEq

namespace Cpu

/-- All zero but the program counter. -/
def startingAt (pc : UInt16) : Cpu where
  registers := Vector.replicate registerCount 0
  stack := CallStack.empty
  pc
  index := 0

/-- The state a snapshot describes. More return addresses in use than there are slots count as a
stack overflow. -/
def ofSnapshot (s : Snapshot) : Except Error Cpu :=
  match CallStack.ofSlots? s.stack s.sp.toNat with
  | none => .error (.stackOverflow s.pc)
  | some stack => .ok { registers := s.registers, stack, pc := s.pc, index := s.index }

/-- The numbers of a state, with those of the timers. -/
def snapshot (c : Cpu) (timers : Timers) : Snapshot where
  pc := c.pc
  sp := UInt8.ofNat c.stack.depth
  delay := timers.delay
  sound := timers.sound
  index := c.index
  stack := c.stack.slots
  registers := c.registers

end Cpu

end Chip8
