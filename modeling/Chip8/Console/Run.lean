import Chip8.Console.MainLoop
import Chip8.Memory.Dump

set_option relaxedAutoImplicit false
set_option autoImplicit false

/-!
# A whole run

Load a program, run it, and leave a dump behind if one was asked for, whether the run succeeded
or not. A dump that cannot be written hides the outcome of the run. A fatal error comes with the
log of the machine it left. The timers do not stop for any of this.

## Main definitions

* `Chip8.Failure` — an error, with a log if it is fatal.
* `Chip8.Console.conclude` — a run after its main loop.
* `Chip8.Console.runProgram` — a whole run.
* `Chip8.Failure.report` — what is said about a failure.
-/

namespace Chip8

/-- A failed run: its error and, if that is fatal, the log of the machine. -/
structure Failure where
  /-- What went wrong. -/
  error : Error
  /-- The log of the machine, if the error is fatal. -/
  state : Option (List Char)
  deriving DecidableEq, Repr

/-- What is said about a failure. -/
def Failure.report (f : Failure) : String :=
  (if f.error.isFatal then "Fatal: " else "Error: ") ++ f.error.message ++ "\n" ++
    String.ofList (f.state.getD [])

namespace Console

variable {κ δ σ : Type}

/-- The log of the machine and a dump of its memory. -/
def diagnosticDump (c : Console κ δ σ) : List Char :=
  c.machine.log ++ c.machine.memory.dump

/-- Write the diagnostic dump, if there is somewhere to write it to. -/
def writeDump (c : Console κ δ σ) (dump : Option Sink) : Except IoError Unit × Option Sink :=
  match dump with
  | none => (.ok (), none)
  | some sink =>
    let (r, sink) := sink.write c.diagnosticDump
    (r, some sink)

/-- What a run whose loop ended with `result` comes to. -/
def verdict (c : Console κ δ σ) (result : Except Error Nat) : Except Failure Nat :=
  result.mapError fun error =>
    { error, state := if error.isFatal then some c.machine.log else none }

/-- End a run: write the dump, and come to a verdict if that succeeds. The timers go on before either
of them. -/
def conclude [Speaker σ] (c : Console κ δ σ) (result : Except Error Nat) (dump : Option Sink) :
    Except Failure Nat × Console κ δ σ × Option Sink :=
  let c := c.beats c.schedule.beforeDump
  match c.writeDump dump with
  | (.error e, dump) => (.error { error := .io e, state := none }, c, dump)
  | (.ok (), dump) =>
    let c := c.beats c.schedule.beforeVerdict
    (c.verdict result, c, dump)

/-- A whole run: gives the number of steps or the failure, the console at its end, and the dump. -/
def runProgram [Keypad κ] [Panel δ] [Speaker σ] (c : Console κ δ σ) (program : Source)
    (dump : Option Sink) : Except Failure Nat × Console κ δ σ × Option Sink :=
  match c.loadProgram program with
  | (.error error, c) => (.error { error, state := none }, c, dump)
  | (.ok _, c) =>
    let (result, c) := c.mainLoop c.config.budget
    c.conclude result dump

end Console

end Chip8
