import Chip8.CommandLine.Arguments
import Chip8.Console.Run
import Chip8.Keypad.Terminal
import Chip8.Launch.Storage
import Chip8.Terminal.Canvas
import Chip8.Terminal.Line

set_option relaxedAutoImplicit false
set_option autoImplicit false

/-!
# Launching

From a command line to an exit code: the files are opened in the order program, trace, dump; the
first that cannot be ends everything. Then the program is run on a terminal, and what it came to
is reported.

## Main definitions

* `Chip8.Launch.Transcript` — what a launch leaves behind.
* `Chip8.Launch.launch` — a launch in a storage, with some bytes typed beforehand.
-/

namespace Chip8.Launch

/-- The exit code of success. -/
def success : Nat := 0

/-- The exit code of a failed run. -/
def failure : Nat := 1

/-- The exit code of a command line that cannot be understood. -/
def usageFailure : Nat := 2

/-- How the program is called. -/
def usage : String :=
  "Usage: chip8vm [OPTIONS] <ROM>\n\nOptions:\n" ++
  "      --clock-hz <N>     Instructions per second [default: 500]\n" ++
  "      --timer-hz <N>     Timer countdown rate [default: 60]\n" ++
  "      --pitch <N>        Beep pitch in Hz [default: 2093]\n" ++
  "      --key-hold-ms <N>  How long a key press counts as held [default: 150]\n" ++
  "      --max-cycles <N>   Stop after this many cycles\n" ++
  "  -m, --mute             No sound\n" ++
  "      --trace <FILE>     Write every executed instruction to this file\n" ++
  "      --dump <FILE>      Write the state to this file when the run ends\n" ++
  "  -h, --help             Print help\n" ++
  "  -V, --version          Print version\n"

/-- The version. -/
def version : String := "chip8vm 0.1.0\n"

/-- What is said about a command line that does not lead to a run: the exit code, the output and
the error output. -/
def explain : UsageError → Nat × String × String
  | .helpRequested => (success, usage, "")
  | .versionRequested => (success, version, "")
  | .missingValue => (usageFailure, "", "error: a value is required\n\n" ++ usage)
  | .badValue => (usageFailure, "", "error: invalid value\n\n" ++ usage)
  | .surplusValue => (usageFailure, "", "error: unexpected value\n\n" ++ usage)
  | .repeatedOption => (usageFailure, "", "error: option used more than once\n\n" ++ usage)
  | .unknownArgument => (usageFailure, "", "error: unexpected argument\n\n" ++ usage)
  | .missingProgram => (usageFailure, "", "error: no program was named\n\n" ++ usage)

/-- What is said about a file that cannot be opened or made. -/
def refusal (e : OsError) : String :=
  "Error: " ++ e.details ++ "\n"

/-- What is said about a run, and its exit code. -/
def outcome : Except Failure Nat → Nat × String
  | .ok _ => (success, "")
  | .error f => (failure, f.report)

/-- Warnings, each on a line of its own. -/
def warningLines (warnings : List String) : String :=
  String.join (warnings.reverse.map (· ++ "\n"))

/-- A keypad on a terminal at which some bytes were typed. -/
def keypad (config : Config) (typed : List UInt8) : TerminalKeypad :=
  { hold := config.keyHold * 1000000 : TerminalKeypad }.arrive (TerminalLine.signals typed)

/-- What a launch leaves behind. -/
structure Transcript where
  /-- The exit code. -/
  exitCode : Nat
  /-- The output, apart from the terminal's picture. -/
  output : String := ""
  /-- The error output. -/
  errors : String := ""
  /-- The files. -/
  storage : Storage
  /-- The frame on the terminal, if there is one. -/
  shown : Option Frame := none

/-- The files of a launch: the program, and what is written. -/
structure Files where
  /-- Where the program is. -/
  program : Place
  /-- Where the trace is. -/
  trace : Option Place
  /-- Where the dump is. -/
  dump : Option Place

/-- Make a file if one was asked for. -/
def create? (storage : Storage) :
    Option String → Except OsError (Option Place × Storage)
  | none => .ok (none, storage)
  | some name => (storage.createFile name).map fun (place, storage) => (some place, storage)

/-- Open the program and make the files to be written. A failure leaves behind what was made
before it. -/
def openFiles (a : Arguments) (storage : Storage) : Except OsError Files × Storage :=
  match storage.openFile a.program with
  | .error e => (.error e, storage)
  | .ok program =>
    match create? storage a.trace with
    | .error e => (.error e, storage)
    | .ok (trace, storage) =>
      match create? storage a.dump with
      | .error e => (.error e, storage)
      | .ok (dump, storage) => (.ok { program, trace, dump }, storage)

/-- What a run writes: where, from which byte on, and which bytes. What got past the buffer of
the trace is written first; what is still in it is written when the run is over, after the dump.
So one file may be both. -/
def writings (files : Files) (trace dump : Option Sink) : List (Place × Nat × List UInt8) :=
  let trace := trace.getD {}
  let dump := dump.getD {}
  files.trace.toList.map (fun place => (place, 0, trace.passedOn)) ++
    files.dump.toList.map (fun place => (place, 0, dump.taken.toList)) ++
    files.trace.toList.map (fun place => (place, trace.passedOn.length, trace.keptBack))

/-- The storage after some writings. -/
def filed (storage : Storage) (writings : List (Place × Nat × List UInt8)) : Storage :=
  writings.foldl (fun storage (place, start, bytes) => storage.put place start bytes) storage

/-- What some writings bring to the error output. -/
def spilled (storage : Storage) (writings : List (Place × Nat × List UInt8)) : String :=
  Utf8.decode (writings.flatMap fun (place, _, bytes) => storage.spilled place bytes)

/-- Run a program with its files. -/
def run {σ : Type} [Speaker σ] (a : Arguments) (files : Files) (storage : Storage)
    (typed : List UInt8) (speaker : σ) (random : RandomSource) : Transcript :=
  let c : Console TerminalKeypad TerminalPanel σ :=
    .start a.config (keypad a.config typed) {} speaker random (files.trace.map storage.sink)
  let (result, c, dump) := c.runProgram (storage.source files.program)
    (files.dump.map storage.sink)
  let (exitCode, report) := outcome result
  let c := c.close
  let writings := writings files c.trace dump
  { exitCode
    errors := warningLines c.machine.keypad.warnings ++ warningLines c.ticker.warnings ++
      spilled storage writings ++ report
    storage := filed storage writings
    shown := c.machine.screen.panel.shown }

/-- A launch in a storage, with some bytes typed beforehand. -/
def launch (storage : Storage) (typed : List UInt8) (words : List String)
    (random : RandomSource) : Transcript :=
  match Arguments.parse words with
  | .error e =>
    let (exitCode, output, errors) := explain e
    { exitCode, output, errors, storage }
  | .ok a =>
    match openFiles a storage with
    | (.error e, storage) => { exitCode := failure, errors := refusal e, storage }
    | (.ok files, storage) =>
      if a.mute then run a files storage typed Mute.mk random
      else run a files storage typed { pitch := a.config.beepPitch : ToneSpeaker } random

end Chip8.Launch
