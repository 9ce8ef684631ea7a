set_option relaxedAutoImplicit false
set_option autoImplicit false

/-!
# Arithmetic on two bytes

The nine functions of the register-to-register group. Each takes the two operands as they were
before the instruction and gives the byte to store and, for the functions that carry, borrow or
shift, the flag. The flag is a separate result because it is stored after the byte, possibly in
the same register.

## Main definitions

* `Chip8.AluOp` — the functions.
* `Chip8.AluOp.apply` — the byte and the flag.
-/

namespace Chip8

/-- The functions of the register-to-register group. -/
inductive AluOp where
  | copy
  | or
  | and
  | xor
  | add
  | sub
  | shiftRight
  | subFrom
  | shiftLeft
  deriving DecidableEq, Repr

/-- The byte to store in the first register and, if the function has one, the flag. A shift
looks at the first operand only; a subtraction sets the flag when there is no borrow. -/
def AluOp.apply (vx vy : UInt8) : AluOp → UInt8 × Option Bool
  | copy => (vy, none)
  | or => (vx ||| vy, none)
  | and => (vx &&& vy, none)
  | xor => (vx ^^^ vy, none)
  | add => (vx + vy, some (decide (256 ≤ vx.toNat + vy.toNat)))
  | sub => (vx - vy, some (decide (vy ≤ vx)))
  | shiftRight => (vx >>> 1, some (vx &&& 0x01 != 0))
  | subFrom => (vy - vx, some (decide (vx ≤ vy)))
  | shiftLeft => (vx <<< 1, some (vx &&& 0x80 != 0))

end Chip8
