import Chip8.Config
import Chip8.Console.Trace
import Chip8.Machine.Execute
import Chip8.Ticker

set_option relaxedAutoImplicit false
set_option autoImplicit false

/-!
# The console

A machine that is being run: it fetches and executes, its timers tick with a speaker attached,
and every completed instruction may be written to a trace. While the machine waits for a key, a
step asks the keypad and does nothing else.

## Main definitions

* `Chip8.Console` — a machine, its ticker and its trace.
* `Chip8.Console.step` — one instruction, or one question to the keypad.
* `Chip8.Console.beat` — one tick of the timers.
* `Chip8.Console.record` — an executed instruction is written to the trace.
-/

namespace Chip8

/-- A machine that is being run. -/
structure Console (κ δ σ : Type) where
  /-- The machine. -/
  machine : Machine κ δ
  /-- What happens when its timers tick. -/
  ticker : Ticker σ
  /-- When its timers tick. -/
  schedule : Schedule
  /-- How it is set up. -/
  config : Config
  /-- Where completed instructions are written. -/
  trace : Option Sink := none

namespace Console

variable {κ δ σ : Type}

/-- A console whose machine is at its entry point, with nothing but the font in memory. -/
def start (config : Config) (keypad : κ) (panel : δ) (speaker : σ) (random : RandomSource)
    (trace : Option Sink) : Console κ δ σ where
  machine := {
    cpu := Cpu.startingAt config.entryPoint
    memory := { Memory.fresh with programStart := config.entryPoint }
    timers := {}
    keypad
    screen := { panel }
    random }
  ticker := { speaker }
  schedule := Schedule.paced config
  config
  trace

/-- Read a program to the entry point; gives its size. -/
def loadProgram (c : Console κ δ σ) (source : Source) : Except Error Nat × Console κ δ σ :=
  let (r, machine) := c.machine.loadProgram source
  (r, { c with machine })

/-! ## Tracing -/

/-- Write an instruction to the trace, if there is one. -/
def record (c : Console κ δ σ) (pc : UInt16) (ins : Instruction) :
    Except Error Unit × Console κ δ σ :=
  match c.trace with
  | none => (.ok (), c)
  | some sink =>
    let (r, sink) := sink.writePieces (Trace.pieces pc ins c.machine.snapshot)
    (r.mapError .io, { c with trace := some sink })

/-! ## Steps and beats -/

/-- One instruction, or one question to the keypad while the machine waits for a key. -/
def step [Keypad κ] [Panel δ] (c : Console κ δ σ) : Except Error Step × Console κ δ σ :=
  match c.machine.canProceed with
  | (.error e, machine) => (.error e, { c with machine })
  | (.ok false, machine) => (.ok .waiting, { c with machine })
  | (.ok true, machine) =>
    match machine.fetch with
    | .error e => (.error e, { c with machine })
    | .ok ins =>
      match machine.execute ins with
      | (.error e, after) => (.error e, { c with machine := after })
      | (.ok step, after) =>
        let (r, c) := { c with machine := after }.record machine.cpu.pc ins
        (r.map fun _ => step, c)

/-- One tick of the timers. -/
def beat [Speaker σ] (c : Console κ δ σ) : Console κ δ σ :=
  let (ticker, timers) := c.ticker.turn c.machine.timers
  { c with ticker, machine := { c.machine with timers } }

/-- Some ticks of the timers. -/
def beats [Speaker σ] (c : Console κ δ σ) (k : Nat) : Console κ δ σ :=
  let (ticker, timers) := c.ticker.turns c.machine.timers k
  { c with ticker, machine := { c.machine with timers } }

/-- Stop the timers. -/
def close [Speaker σ] (c : Console κ δ σ) : Console κ δ σ :=
  let (ticker, timers) := c.ticker.close c.machine.timers
  { c with ticker, machine := { c.machine with timers } }

end Console

end Chip8
