import Chip8.Speaker
import Chip8.Timers

set_option relaxedAutoImplicit false
set_option autoImplicit false

/-!
# The ticker

What happens at each beat of the timer clock: a tone left over from the beat before is ended,
the timers count down, and a tone starts if the sound timer ran out. A speaker that fails is
warned about and otherwise ignored; a tone that could not be started is not ended.

## Main definitions

* `Chip8.Ticker` — a speaker and whether its tone is on.
* `Chip8.Ticker.turn` — one beat.
* `Chip8.Ticker.close` — the last beat, after which no tone is on.
-/

namespace Chip8

/-- A speaker, whether its tone was started and not ended, and the warnings so far, the last one
first. -/
structure Ticker (σ : Type) where
  /-- The speaker. -/
  speaker : σ
  /-- Whether a tone is on. -/
  beeping : Bool := false
  /-- The warnings so far, the last one first. -/
  warnings : List String := []

namespace Ticker

variable {σ : Type} [Speaker σ]

/-- The warnings with one about a failed call added. -/
def warn (text : String) (warnings : List String) : Except Error Unit → List String
  | .ok () => warnings
  | .error e => ("Warning: " ++ text ++ ": " ++ e.message) :: warnings

/-- End the tone if one is on. -/
def quiet (t : Ticker σ) : Ticker σ :=
  if t.beeping then
    let (r, speaker) := Speaker.stop t.speaker
    { speaker, beeping := false, warnings := warn "couldn't stop beep" t.warnings r }
  else
    t

/-- Start a tone. -/
def sound (t : Ticker σ) : Ticker σ :=
  let (r, speaker) := Speaker.beep t.speaker
  { speaker, beeping := r.isOk, warnings := warn "couldn't beep" t.warnings r }

/-- One beat: end the tone, count down, and start a tone if the sound timer ran out. -/
def turn (t : Ticker σ) (timers : Timers) : Ticker σ × Timers :=
  let (ended, timers) := timers.tick
  (if ended then t.quiet.sound else t.quiet, timers)

/-- Some beats one after another. -/
def turns (t : Ticker σ) (timers : Timers) : Nat → Ticker σ × Timers
  | 0 => (t, timers)
  | k + 1 =>
    let (t, timers) := t.turn timers
    t.turns timers k

/-- The clock is between two beats when it is told to stop: one more beat falls, and then no tone
is left on. -/
def close (t : Ticker σ) (timers : Timers) : Ticker σ × Timers :=
  let (t, timers) := t.turn timers
  (t.quiet, timers)

end Ticker

end Chip8
