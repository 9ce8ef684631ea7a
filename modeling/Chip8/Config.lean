import Chip8.Rounding

set_option relaxedAutoImplicit false
set_option autoImplicit false

/-!
# Configuration

How a machine is set up and how fast it runs.

## Main definitions

* `Chip8.Config` — the settings, with their usual values.
* `Chip8.Config.cycleTime` — the time that is set for one instruction.
* `Chip8.Config.stepTime` — the time one instruction takes.
* `Chip8.Schedule` — how many timer ticks fall after each instruction and at the end of a run, and
  how long an instruction takes.
-/

namespace Chip8

/-- How a machine is set up and how fast it runs. -/
structure Config where
  /-- Instructions a second. -/
  clockHz : UInt32 := 500
  /-- Timer ticks a second. -/
  timerHz : UInt32 := 60
  /-- The first program counter, and where the program is loaded. -/
  entryPoint : UInt16 := 0x200
  /-- The pitch of the tone in Hz. -/
  beepPitch : UInt16 := 2093
  /-- For how many milliseconds a key typed on a terminal counts as down. -/
  keyHold : Nat := 150
  /-- After how many steps a run ends, if there is a limit. -/
  maxCycles : Option Nat := none
  deriving DecidableEq, Repr, Inhabited

namespace Config

/-- Nanoseconds a second. -/
def nanosPerSecond : Nat := 1000000000

/-- The time of one instruction in nanoseconds: the reciprocal of the clock rate as a binary
fraction, rounded to whole nanoseconds. A rate of zero counts as one. -/
def cycleTime (c : Config) : Nat :=
  let (m, e) := Rounding.reciprocal (max c.clockHz.toNat 1)
  Rounding.divNearest (m * nanosPerSecond) (Nat.pow 2 e)

/-- How often anything can happen in a second, whatever its rate is set to. -/
def fastestHz : Nat := 1000000

/-- How often something with a rate happens in a second. A rate of zero counts as one. -/
def actualHz (rate : UInt32) : Nat :=
  min (max rate.toNat 1) fastestHz

/-- The time one instruction takes in nanoseconds. -/
def stepTime (c : Config) : Nat :=
  max c.cycleTime (nanosPerSecond / fastestHz)

/-- How many steps a run may take. A run without a limit is given more than can be counted in 64
bits. -/
def budget (c : Config) : Nat :=
  c.maxCycles.getD UInt64.size

end Config

/-- How many timer ticks fall after each step and at the end of a run, how long a step takes, and
how many steps there were. Reasoning admits any schedule. -/
structure Schedule where
  /-- The number of ticks after the step with a number, counted from 0. -/
  due : Nat → Nat
  /-- The time of a step in nanoseconds. -/
  stepTime : Nat := 0
  /-- How many steps there were. -/
  steps : Nat := 0
  /-- The number of ticks between the last step and the dump, beside those after the step. -/
  beforeDump : Nat := 0
  /-- The number of ticks between the dump and the verdict. -/
  beforeVerdict : Nat := 0

namespace Schedule

/-- How many ticks fall now. -/
def next (s : Schedule) : Nat × Schedule :=
  (s.due s.steps, { s with steps := s.steps + 1 })

/-- The ticks of a timer that runs at its rate while the steps are taken at theirs. -/
def paced (c : Config) : Schedule :=
  let step := Config.actualHz c.clockHz
  let tick := Config.actualHz c.timerHz
  { due := fun k => (k + 1) * tick / step - k * tick / step, stepTime := c.stepTime }

instance : Inhabited Schedule := ⟨{ due := fun _ => 0 }⟩

end Schedule

end Chip8
