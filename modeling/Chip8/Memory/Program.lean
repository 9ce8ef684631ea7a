import Chip8.Memory.Basic
import Chip8.Source

set_option relaxedAutoImplicit false
set_option autoImplicit false

/-!
# Loading a program

A program is the whole of a source, copied to the program's address as it is, an odd last byte
included. A source that fails, an address past memory and a program that does not fit are
refused in this order, and a refused program leaves memory as it was.

## Main definitions

* `Chip8.Memory.loadProgram` — read a source into memory.
-/

namespace Chip8.Memory

/-- Put a program where programs are loaded. -/
def install (m : Memory) (program : List UInt8) : Except Error Memory :=
  if memorySize < m.programStart.toNat then
    .error (.outOfRange m.programStart program.length)
  else if memorySize - m.programStart.toNat < program.length then
    .error (.programTooLarge program.length (memorySize - m.programStart.toNat))
  else
    m.write m.programStart program

/-- Read a source into memory; gives the program's size. -/
def loadProgram (m : Memory) (source : Source) : Except Error (Nat × Memory) :=
  match source.readAll with
  | .error e => .error (.io e)
  | .ok program => (m.install program).map fun m' => (program.length, m')

end Chip8.Memory
