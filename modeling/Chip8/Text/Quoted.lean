import Chip8.Text.Hex
import Chip8.Text.Printable

set_option relaxedAutoImplicit false
set_option autoImplicit false

/-!
# Quoted characters

A character between apostrophes, with a backslash in front of what would be taken for something
else and a code point in braces for what cannot be seen.

## Main definitions

* `Chip8.Quoted.char` — the quoted form of a character.
-/

namespace Chip8.Quoted

/-- The code point of a character in braces, in as few digits as possible. -/
def codePoint (c : Char) : List Char :=
  "\\u\x7b".toList ++ Nat.toDigits 16 c.toNat ++ ['\x7d']

/-- What stands for a character between the apostrophes. -/
def body (c : Char) : List Char :=
  if c = '\'' then "\\'".toList
  else if c = '\\' then "\\\\".toList
  else if c = '\n' then "\\n".toList
  else if c = '\r' then "\\r".toList
  else if c = '\t' then "\\t".toList
  else if c = '\x00' then "\\0".toList
  else if isPrintable c then [c]
  else codePoint c

/-- The quoted form of a character. -/
def char (c : Char) : String :=
  String.ofList ('\'' :: body c ++ ['\''])

end Chip8.Quoted
