import Chip8.Error

set_option relaxedAutoImplicit false
set_option autoImplicit false

/-!
# Terminal events

What a terminal reports to the program that reads it, and how the reports reach the program.

## Main definitions

* `Chip8.TerminalEvent` — what a terminal reports.
* `Chip8.Signal` — what a reader of a terminal comes upon.
-/

namespace Chip8

/-- What a terminal reports. -/
inductive TerminalEvent where
  /-- A key that types a character. -/
  | character (c : Char)
  /-- The escape key. -/
  | escape
  /-- A key that types nothing. -/
  | otherKey
  /-- The terminal has another size. -/
  | resize
  /-- Anything else, such as a change of focus or a pasted text. -/
  | other
  deriving DecidableEq, Repr

/-- What a reader of a terminal comes upon. -/
inductive Signal where
  /-- An event. -/
  | event (e : TerminalEvent)
  /-- Something that is no event and after which a reader in a hurry looks no further for now. -/
  | pause
  /-- A failure to read. -/
  | failure (e : IoError)
  deriving DecidableEq, Repr

end Chip8
