import Chip8.Keypad.Basic
import Chip8.Terminal.Event
import Chip8.Text.Quoted

set_option relaxedAutoImplicit false
set_option autoImplicit false

/-!
# A keypad on a terminal

The left-hand side of a typewriter's keys stands for the keypad. Terminals report when a key is
pressed and not when it is released, so a key counts as down for some time after it was typed.
The escape key asks the machine to stop, once and for all. Whatever stands for no key is warned
about.

## Main definitions

* `Chip8.TerminalKeypad` — what waits to be read, and the key typed last.
* `Chip8.TerminalKeypad.keyOf` — the key of a character.
* `Chip8.TerminalKeypad.take` — an event is read.
* `Chip8.TerminalKeypad.drain` — all that waits is read, up to the first pause or failure.
-/

namespace Chip8

/-- A terminal used as a keypad. Times are in nanoseconds. -/
structure TerminalKeypad where
  /-- For how long a key counts as down. -/
  hold : Nat
  /-- What waits to be read. -/
  pending : List Signal := []
  /-- The key typed last, and when it was read. -/
  held : Option (UInt8 × Nat) := none
  /-- Whether the escape key was typed. -/
  quit : Bool := false
  /-- What time it is. -/
  now : Nat := 0
  /-- The warnings so far, the last one first. -/
  warnings : List String := []
  deriving DecidableEq

namespace TerminalKeypad

/-- The characters that stand for the keys, in the order of the keys. -/
def layout : List Char :=
  ['x', '1', '2', '3', 'q', 'w', 'e', 'a', 's', 'd', 'z', 'c', '4', 'r', 'f', 'v']

/-- The key of a character in either case of the ASCII letters. -/
def keyOf (c : Char) : Option UInt8 :=
  (layout.idxOf? c.toLower).map UInt8.ofNat

/-- An event is read. -/
def take (k : TerminalKeypad) : TerminalEvent → TerminalKeypad
  | .character c =>
    match keyOf c with
    | some key => { k with held := some (key, k.now) }
    | none =>
      { k with
        warnings := ("Warning: can't map " ++ Quoted.char c ++ " to a CHIP-8 key") ::
          k.warnings }
  | .escape => { k with quit := true }
  | .otherKey => { k with warnings := "Warning: unknown key event received" :: k.warnings }
  | .resize => k
  | .other => { k with warnings := "Warning: unknown event received" :: k.warnings }

/-- All that waits is read, up to the first pause or failure. -/
def drain (k : TerminalKeypad) : List Signal → Except IoError Unit × TerminalKeypad
  | [] => (.ok (), { k with pending := [] })
  | .pause :: rest => (.ok (), { k with pending := rest })
  | .failure e :: rest => (.error e, { k with pending := rest })
  | .event e :: rest => (k.take e).drain rest

/-- The key that counts as down. -/
def keyDown (k : TerminalKeypad) : Option UInt8 :=
  match k.held with
  | some (key, since) => if k.now - since < k.hold then some key else none
  | none => none

/-- Something arrives at the terminal. -/
def arrive (k : TerminalKeypad) (signals : List Signal) : TerminalKeypad :=
  { k with pending := k.pending ++ signals }

end TerminalKeypad

instance : Keypad TerminalKeypad where
  poll k :=
    match k.drain k.pending with
    | (.error e, k) => (.error e, k)
    | (.ok (), k) => (.ok k.keyDown, k)
  quitRequested k := k.quit
  elapse t k := { k with now := k.now + t }

end Chip8
