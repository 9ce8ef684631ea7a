import Chip8.Cpu
import Chip8.Keypad.Basic
import Chip8.Memory.Program
import Chip8.RandomSource
import Chip8.Screen

set_option relaxedAutoImplicit false
set_option autoImplicit false

/-!
# The machine

A processor with its memory, its timers, a keypad, a screen and a source of random bytes.

## Main definitions

* `Chip8.Machine` — the parts.
* `Chip8.Machine.boot` — a machine that starts from a snapshot.
* `Chip8.Machine.canProceed` — finish a wait for a key, if a key is down.
* `Chip8.Machine.log` — the diagnostic log.
-/

namespace Chip8

/-- A processor with its memory, its timers, a keypad, a screen and a source of random bytes. -/
structure Machine (κ δ : Type) where
  /-- The processor. -/
  cpu : Cpu
  /-- The memory. -/
  memory : Memory
  /-- The timers. -/
  timers : Timers
  /-- The keypad. -/
  keypad : κ
  /-- The screen. -/
  screen : Screen δ
  /-- The random bytes. -/
  random : RandomSource

namespace Machine

variable {κ δ : Type}

/-- A machine that starts from a snapshot. The timers are shared with whoever lets them tick; the
second part of the result is what they hold afterwards: the snapshot's values, or what they held
before if the snapshot is refused. -/
def boot (memory : Memory) (keypad : κ) (panel : δ) (random : RandomSource) (timers : Timers)
    (start : Snapshot) : Except Error (Machine κ δ) × Timers :=
  match Cpu.ofSnapshot start with
  | .error e => (.error e, timers)
  | .ok cpu =>
    let timers : Timers := { delay := start.delay, sound := start.sound }
    (.ok { cpu, memory, timers, keypad, screen := { panel }, random }, timers)

/-! ## Parts -/

/-- The value of a register. -/
def register (m : Machine κ δ) (x : Fin 16) : UInt8 :=
  m.cpu.registers[x]

/-- The machine with another value in a register. -/
def setRegister (m : Machine κ δ) (x : Fin 16) (v : UInt8) : Machine κ δ :=
  { m with cpu := { m.cpu with registers := m.cpu.registers.set x v } }

/-- The machine with the flag in the flag register. -/
def setFlag (m : Machine κ δ) (flag : Bool) : Machine κ δ :=
  m.setRegister flagRegister (if flag then 1 else 0)

/-- The machine with another program counter. -/
def setPc (m : Machine κ δ) (pc : UInt16) : Machine κ δ :=
  { m with cpu := { m.cpu with pc } }

/-- The machine with another index. -/
def setIndex (m : Machine κ δ) (index : UInt16) : Machine κ δ :=
  { m with cpu := { m.cpu with index } }

/-- The machine with other return addresses. -/
def setStack (m : Machine κ δ) (stack : CallStack) : Machine κ δ :=
  { m with cpu := { m.cpu with stack } }

/-- The machine with its wait for a key begun or ended. -/
def setAwaiting (m : Machine κ δ) (awaiting : Option (Fin 16)) : Machine κ δ :=
  { m with cpu := { m.cpu with awaiting } }

/-- Ask the keypad which key is down. -/
def poll [Keypad κ] (m : Machine κ δ) : Except Error (Option UInt8) × Machine κ δ :=
  let (r, keypad) := Keypad.poll m.keypad
  (r.mapError .io, { m with keypad })

/-- Let the timers count down; tells whether the sound timer ran out. -/
def tick (m : Machine κ δ) : Bool × Machine κ δ :=
  let (ended, timers) := m.timers.tick
  (ended, { m with timers })

/-! ## Waiting -/

/-- Whether the machine waits for a key. -/
def isWaiting (m : Machine κ δ) : Bool :=
  m.cpu.awaiting.isSome

/-- Whether the machine takes an instruction. While it waits for a key this asks the keypad once,
and a key ends the wait: the key goes into its register and the program counter moves on. -/
def canProceed [Keypad κ] (m : Machine κ δ) : Except Error Bool × Machine κ δ :=
  match m.cpu.awaiting with
  | none => (.ok true, m)
  | some x =>
    match m.poll with
    | (.error e, m) => (.error e, m)
    | (.ok none, m) => (.ok false, m)
    | (.ok (some key), m) =>
      (.ok true, ((m.setRegister x key).setAwaiting none).setPc (m.cpu.pc + Instruction.width))

/-! ## Memory -/

/-- The instruction at the program counter. -/
def fetch (m : Machine κ δ) : Except Error Instruction :=
  m.memory.fetch m.cpu.pc

/-- Put bytes into memory. -/
def write (m : Machine κ δ) (addr : UInt16) (data : List UInt8) :
    Except Error Unit × Machine κ δ :=
  match m.memory.write addr data with
  | .error e => (.error e, m)
  | .ok memory => (.ok (), { m with memory })

/-- Read a program into memory; gives its size. -/
def loadProgram (m : Machine κ δ) (source : Source) : Except Error Nat × Machine κ δ :=
  match m.memory.loadProgram source with
  | .error e => (.error e, m)
  | .ok (size, memory) => (.ok size, { m with memory })

/-! ## Diagnostics -/

/-- The numbers of the processor and the timers. -/
def snapshot (m : Machine κ δ) : Snapshot :=
  m.cpu.snapshot m.timers

/-- The diagnostic log. -/
def log (m : Machine κ δ) : List Char :=
  m.snapshot.text

/-- The numbers, and what the machine waits for, spelled out on one line. -/
def details (m : Machine κ δ) : String :=
  "Cpu \x7b state: " ++ m.snapshot.details ++ ", awaiting_key: " ++
    (match m.cpu.awaiting with
      | none => "None"
      | some x => "Some(" ++ toString x.val ++ ")") ++ " \x7d"

end Machine

end Chip8
