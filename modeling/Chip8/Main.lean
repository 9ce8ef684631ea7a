import Chip8.Launch.Basic

set_option relaxedAutoImplicit false
set_option autoImplicit false

/-!
# The program

The outermost layer: files, a clock, and a terminal that was put into raw mode beforehand. Every
decision is taken by the library; here its main loop is called one step at a time, so that keys
can be brought in and pictures out between the steps.

## Main definitions

* `main` — the entry point.
-/

namespace Chip8.Program

/-- The failure of the operating system behind an exception. -/
def osError : IO.Error → OsError
  | .noFileOrDirectory .. => .notFound
  | .permissionDenied .. => .permissionDenied
  | .resourceExhausted .. => .storageFull
  | .inappropriateType _ code _ => if code = 20 then .notADirectory else .isADirectory
  | .invalidArgument _ code _ =>
    if code = 36 then .nameTooLong else ⟨code.toNat, "InvalidInput", "Invalid argument"⟩
  | e => ⟨0, "Other", toString e⟩

/-- The result of an action, or the failure of the operating system. -/
def attempt {α : Type} (action : IO α) : IO (Except OsError α) := do
  try
    return .ok (← action)
  catch e =>
    return .error (osError e)

/-- Everything a file gives. -/
def sourceOf (file : IO.FS.Handle) : IO Source := do
  match ← attempt file.readBinToEnd with
  | .ok bytes => return .ofBytes bytes.toList
  | .error e => return .failing (.os e)

/-- Collect the bytes that arrive on the standard input. -/
partial def listen (typed : IO.Ref (List UInt8)) : IO Unit := do
  let bytes ← (← IO.getStdin).read 1
  if bytes.isEmpty then return
  typed.modify (· ++ bytes.toList)
  listen typed

/-- The hardware around a console. -/
structure Hardware where
  /-- The bytes that arrived and were not brought to the keypad yet. -/
  typed : IO.Ref (List UInt8)
  /-- The bytes of what is not complete yet. -/
  kept : IO.Ref (List UInt8)
  /-- The file that executed instructions are written to. -/
  trace : Option IO.FS.Handle

/-- The console of a machine played on a terminal. -/
abbrev Player := Console TerminalKeypad TerminalPanel ToneSpeaker

/-- Bring what was typed to the keypad. -/
def bringKeys (h : Hardware) (c : Player) : IO Player := do
  let bytes ← h.typed.modifyGet fun bytes => (bytes, [])
  if bytes.isEmpty then return c
  let (signals, kept) := TerminalLine.cut false (← h.kept.get) bytes
  h.kept.set kept
  return { c with machine := { c.machine with keypad := c.machine.keypad.arrive signals } }

/-- Draw the frame of a panel. -/
def drawFrame (p : TerminalPanel) : IO Unit := do
  match p.shown with
  | none => return
  | some frame =>
    let out ← IO.getStdout
    out.putStr "\x1b[H"
    for line in Canvas.lines frame do
      out.putStr (String.ofList line ++ "\r\n")
    out.flush

/-- Bring out what a step left behind: a picture, warnings, tones and the trace. -/
def bringOut (h : Hardware) (before after : Player) : IO Player := do
  if after.machine.screen.flushes ≠ before.machine.screen.flushes then
    drawFrame after.machine.screen.panel
  let warnings := after.machine.keypad.warnings ++ after.ticker.warnings
  IO.eprint (Launch.warningLines warnings)
  if after.ticker.speaker.requests.any (· ≠ 0) then
    IO.print "\x07"
  match h.trace, after.trace with
  | some file, some sink => file.write ⟨sink.taken⟩
  | _, _ => pure ()
  let machine := { after.machine with
    keypad := { after.machine.keypad with warnings := [] } }
  let ticker := { after.ticker with
    warnings := [], speaker := { after.ticker.speaker with requests := [] } }
  return { after with machine, ticker, trace := after.trace.map fun s => { s with taken := #[] } }

/-- Wait until a moment on the clock, or until now if it has passed. -/
partial def waitUntil (moment : Nat) : IO Nat := do
  let now ← IO.monoNanosNow
  if moment ≤ now then return now
  let rest := moment - now
  if 2000000 < rest then
    IO.sleep (UInt32.ofNat (rest / 1000000 - 1))
  waitUntil moment

/-- Take steps until the main loop ends. `moment` is when the step is over. -/
partial def play (h : Hardware) (c : Player) (taken budget moment : Nat) :
    IO (Except Error Nat × Player) := do
  if budget = 0 then return (.ok taken, c)
  let c ← bringKeys h c
  let (r, after) := c.mainLoop 1
  let after ← bringOut h c after
  match r with
  | .error e => return (.error e, after)
  | .ok 0 => return (.ok taken, after)
  | .ok _ =>
    let now ← waitUntil moment
    play h after (taken + 1) (budget - 1) (max moment now + c.config.cycleTime)

/-- Run a program on the terminal, with its files open. -/
def run (a : Arguments) (program : IO.FS.Handle) (trace dump : Option IO.FS.Handle) :
    IO (Except Failure Nat) := do
  let typed ← IO.mkRef []
  let _ ← IO.asTask (listen typed) Task.Priority.dedicated
  let seed := (← IO.getRandomBytes 8).toList.foldl (fun n b => 256 * n + b.toUInt64) 0
  let c : Player := .start a.config (Launch.keypad a.config []) {}
    { pitch := if a.mute then 0 else a.config.beepPitch } (.seeded seed) (trace.map fun _ => {})
  match c.loadProgram (← sourceOf program) with
  | (.error error, _) => return .error { error, state := none }
  | (.ok _, c) =>
    let h : Hardware := { typed, kept := ← IO.mkRef [], trace }
    let now ← IO.monoNanosNow
    let (result, c) ← play h c 0 a.config.budget (now + a.config.cycleTime)
    let (verdict, _, written) := c.conclude result (dump.map fun _ => {})
    match dump, written with
    | some file, some sink =>
      match ← attempt (do file.write ⟨sink.taken⟩; file.flush) with
      | .ok () => return verdict
      | .error e => return .error { error := .io (.os e), state := none }
    | _, _ => return verdict

/-- Open a file for writing, if there is one. -/
def create? : Option String → IO (Option IO.FS.Handle)
  | none => return none
  | some name => some <$> IO.FS.Handle.mk name .write

/-- Run a program on a terminal of its own screen. -/
def onTerminal (action : IO (Except Failure Nat)) : IO (Except Failure Nat) := do
  IO.print "\x1b[?1049h\x1b[?25l\x1b[2J"
  let result ← action
  IO.print "\x1b[?25h\x1b[?1049l"
  return result

/-- From arguments to an exit code. -/
def launch (a : Arguments) : IO Nat := do
  let opened ← attempt do
    let program ← IO.FS.Handle.mk a.program .read
    let trace ← create? a.trace
    let dump ← create? a.dump
    return (program, trace, dump)
  match opened with
  | .error e =>
    IO.eprint (Launch.refusal e)
    return Launch.failure
  | .ok (program, trace, dump) =>
    let (exitCode, report) := Launch.outcome (← onTerminal (run a program trace dump))
    IO.eprint report
    return exitCode

end Chip8.Program

/-- The entry point. -/
def main (words : List String) : IO UInt32 := do
  match Chip8.Arguments.parse words with
  | .error e =>
    let (exitCode, output, errors) := Chip8.Launch.explain e
    IO.print output
    IO.eprint errors
    return UInt32.ofNat exitCode
  | .ok a => return UInt32.ofNat (← Chip8.Program.launch a)
