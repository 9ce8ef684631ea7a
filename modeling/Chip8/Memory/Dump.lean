import Chip8.Memory.Basic

set_option relaxedAutoImplicit false
set_option autoImplicit false

/-!
# The memory dump

All of memory as text: 256 lines, each with the address of its first byte in three digits, a
colon, and sixteen bytes of two digits.

## Main definitions

* `Chip8.Memory.dump` — the lines one after another.
-/

namespace Chip8.Memory

/-- The address of byte `j` of line `k`. -/
def dumpAddress (k : Fin 256) (j : Fin 16) : Fin memorySize :=
  ⟨16 * k.val + j.val, by simp only [memorySize]; omega⟩

/-- Line `k` of the dump, with its end of line. -/
def dumpLine (m : Memory) (k : Fin 256) : List Char :=
  Hex.fixed .lower 3 (16 * k.val) ++ ':' ::
    ((List.finRange 16).flatMap fun j =>
      ' ' :: Hex.fixed .lower 2 m.bytes[dumpAddress k j].toNat) ++ ['\n']

/-- All of memory as text. -/
def dump (m : Memory) : List Char :=
  (List.finRange 256).flatMap m.dumpLine

end Chip8.Memory
