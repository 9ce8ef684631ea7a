import Chip8.Keypad.Basic

set_option relaxedAutoImplicit false
set_option autoImplicit false

/-!
# A keypad on a stream of bytes

Each poll reads one byte. The upper-case hexadecimal digits are keys; any other byte is no key
but is read all the same, and at the end of the stream no key is down.

## Main definitions

* `Chip8.StreamKeypad` — the bytes to come.
* `Chip8.StreamKeypad.keyOf` — the key of a byte.
-/

namespace Chip8

/-- The bytes of a stream that were not read yet. -/
structure StreamKeypad where
  /-- The bytes to come. -/
  bytes : List UInt8
  deriving DecidableEq, Inhabited

namespace StreamKeypad

/-- The key of a byte: the value of an upper-case hexadecimal digit. -/
def keyOf (b : UInt8) : Option UInt8 :=
  if '0'.toUInt8 ≤ b ∧ b ≤ '9'.toUInt8 then some (b - '0'.toUInt8)
  else if 'A'.toUInt8 ≤ b ∧ b ≤ 'F'.toUInt8 then some (b - 'A'.toUInt8 + 10)
  else none

end StreamKeypad

instance : Keypad StreamKeypad where
  poll
    | ⟨[]⟩ => (.ok none, ⟨[]⟩)
    | ⟨b :: bytes⟩ => (.ok (StreamKeypad.keyOf b), ⟨bytes⟩)

end Chip8
