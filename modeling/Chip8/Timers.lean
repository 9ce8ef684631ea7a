set_option relaxedAutoImplicit false
set_option autoImplicit false

/-!
# Timers

Two bytes that count down to zero and stay there: the delay timer, which programs read, and the
sound timer, which sounds when it runs out. A tick counts down one after the other; each step is
an operation of its own, since a program may write a timer between them.

## Main definitions

* `Chip8.Timers` — the two bytes.
* `Chip8.Timers.tickDelay`, `Chip8.Timers.tickSound`, `Chip8.Timers.tick` — counting down.
-/

namespace Chip8

/-- The delay timer and the sound timer. -/
structure Timers where
  /-- The delay timer. -/
  delay : UInt8 := 0
  /-- The sound timer. -/
  sound : UInt8 := 0
  deriving DecidableEq, Repr, Inhabited

namespace Timers

/-- One less, but not below zero. -/
def countDown (v : UInt8) : UInt8 :=
  if v = 0 then 0 else v - 1

/-- Count the delay timer down. -/
def tickDelay (t : Timers) : Timers :=
  { t with delay := countDown t.delay }

/-- Count the sound timer down; tells whether it ran out just now. -/
def tickSound (t : Timers) : Bool × Timers :=
  (t.sound = 1, { t with sound := countDown t.sound })

/-- Count both timers down; tells whether the sound timer ran out just now. -/
def tick (t : Timers) : Bool × Timers :=
  t.tickDelay.tickSound

end Timers

end Chip8
