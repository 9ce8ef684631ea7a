import Chip8.Machine.Execute
import Chip8.Proofs.Bare.Drawing
import Chip8.Proofs.Bare.Memory

set_option relaxedAutoImplicit false
set_option autoImplicit false

/-!
# The machine on plain numbers

The machine as it is built: the stack pointer and the register that a key is awaited for are
bytes, operands are nibbles masked out of the word, and whatever looks for a place, a run of
places or a sum does so by these numbers and is given up if they are out of range.

A shift of a word by a fixed number of bits is not checked, nor is arithmetic that wraps around on
purpose. That the machine on plain numbers does what the machine does, and without a fault, is
shown in `Chip8.Proofs.Bare.Agreement`.

## Main definitions

* `Chip8.Bare` — the parts, as plain numbers.
* `Chip8.Bare.boot`, `Chip8.Bare.fetch`, `Chip8.Bare.canProceed`, `Chip8.Bare.execute`,
  `Chip8.Bare.tick`, `Chip8.Bare.write`, `Chip8.Bare.loadProgram` — what can be asked of it.
* `Chip8.Bare.perform` — the effect of an operation, with its operands as numbers.
* `Chip8.Machine.bare` — a machine as plain numbers.
-/

namespace Chip8

/-- The parts of a machine as plain numbers. -/
structure Bare (κ δ : Type) where
  /-- The registers. -/
  registers : Vector UInt8 registerCount
  /-- The slots for return addresses. -/
  slots : Vector UInt16 stackDepth
  /-- The stack pointer: how many slots are in use. -/
  sp : UInt8
  /-- The address of the next instruction. -/
  pc : UInt16
  /-- The address that sprites and runs of registers are found at. -/
  index : UInt16
  /-- The number of the register that a key is awaited for. -/
  awaiting : Option UInt8
  /-- The memory. -/
  memory : BareMemory
  /-- The timers. -/
  timers : Timers
  /-- The keypad. -/
  keypad : κ
  /-- The screen. -/
  screen : Screen δ
  /-- The random bytes. -/
  random : RandomSource

/-- A machine as plain numbers. -/
def Machine.bare {κ δ : Type} (m : Machine κ δ) : Bare κ δ where
  registers := m.cpu.registers
  slots := m.cpu.stack.slots
  sp := UInt8.ofNat m.cpu.stack.depth
  pc := m.cpu.pc
  index := m.cpu.index
  awaiting := m.cpu.awaiting.map fun x => UInt8.ofNat x.val
  memory := m.memory.bare
  timers := m.timers
  keypad := m.keypad
  screen := m.screen
  random := m.random

/-! ## What is computed -/

namespace Bare

variable {κ δ : Type}

/-- A machine that starts from a snapshot, as `Machine.boot` makes it. -/
def boot (memory : BareMemory) (keypad : κ) (panel : δ) (random : RandomSource) (timers : Timers)
    (start : Snapshot) : Except Error (Bare κ δ) × Timers :=
  if stackDepth < start.sp.toNat then
    (.error (.stackOverflow start.pc), timers)
  else
    let timers : Timers := { delay := start.delay, sound := start.sound }
    (.ok {
      registers := start.registers
      slots := start.stack
      sp := start.sp
      pc := start.pc
      index := start.index
      awaiting := none
      memory
      timers
      keypad
      screen := { panel }
      random }, timers)

/-- Store a byte in a register. -/
def setRegister (m : Bare κ δ) (x : Nat) (v : UInt8) : Checked (Bare κ δ) := do
  let registers ← Checked.set m.registers x v
  return { m with registers }

/-- Store the flag. -/
def setFlag (m : Bare κ δ) (flag : Bool) : Checked (Bare κ δ) :=
  m.setRegister flagRegister.val (if flag then 1 else 0)

/-- Store the byte of a function of two registers, and then its flag if it has one. -/
def setResult (m : Bare κ δ) (x : Nat) : UInt8 × Option Bool → Checked (Bare κ δ)
  | (v, none) => m.setRegister x v
  | (v, some flag) => do
    let m ← m.setRegister x v
    m.setFlag flag

/-- Ask the keypad which key is down. -/
def poll [Keypad κ] (m : Bare κ δ) : Except Error (Option UInt8) × Bare κ δ :=
  let (r, keypad) := Keypad.poll m.keypad
  (r.mapError .io, { m with keypad })

/-- Whether the machine takes an instruction; a key ends a wait. -/
def canProceed [Keypad κ] (m : Bare κ δ) : Checked (Except Error Bool × Bare κ δ) :=
  match m.awaiting with
  | none => return (.ok true, m)
  | some x =>
    match m.poll with
    | (.error e, m) => return (.error e, m)
    | (.ok none, m) => return (.ok false, m)
    | (.ok (some key), m) => do
      let m ← m.setRegister x.toNat key
      return (.ok true, { m with awaiting := none, pc := m.pc + Instruction.width })

/-- The instruction at the program counter. -/
def fetch (m : Bare κ δ) : Checked (Except Error Instruction) :=
  m.memory.fetch m.pc

/-- Let the timers count down; tells whether the sound timer ran out. -/
def tick (m : Bare κ δ) : Bool × Bare κ δ :=
  let (ended, timers) := m.timers.tick
  (ended, { m with timers })

/-- Put bytes into memory. -/
def write (m : Bare κ δ) (addr : UInt16) (data : List UInt8) :
    Checked (Except Error Unit × Bare κ δ) := do
  match ← m.memory.write addr data with
  | .error e => return (.error e, m)
  | .ok memory => return (.ok (), { m with memory })

/-- Read a program into memory; gives its size. -/
def loadProgram (m : Bare κ δ) (source : Source) : Checked (Except Error Nat × Bare κ δ) := do
  match ← m.memory.loadProgram source with
  | .error e => return (.error e, m)
  | .ok (size, memory) => return (.ok size, { m with memory })

/-! ### Operations -/

/-- Take the newest return address off and go there. -/
def ret (m : Bare κ δ) : Checked (Except Error Advance × Bare κ δ) :=
  if m.sp = 0 then
    return (.error (.stackUnderflow m.pc), m)
  else do
    let below ← Checked.sub m.sp.toNat 1
    let m := { m with sp := UInt8.ofNat below }
    let target ← Checked.get m.slots m.sp.toNat
    return (.ok (.jump target), m)

/-- Keep the address of the next instruction and go to an address. -/
def call (m : Bare κ δ) (target : UInt16) : Checked (Except Error Advance × Bare κ δ) :=
  if stackDepth ≤ m.sp.toNat then
    return (.error (.stackOverflow m.pc), m)
  else do
    let slots ← Checked.set m.slots m.sp.toNat (m.pc + Instruction.width)
    let above ← Checked.add 8 m.sp.toNat 1
    return (.ok (.jump target), { m with slots, sp := UInt8.ofNat above })

/-- Skip an instruction if a condition on two registers holds. -/
def skipOn (m : Bare κ δ) (x y : Nat) (condition : UInt8 → UInt8 → Bool) :
    Checked (Except Error Advance × Bare κ δ) := do
  let vx ← Checked.get m.registers x
  let vy ← Checked.get m.registers y
  return (.ok (.skipIf (condition vx vy)), m)

/-- Show the frame, and go on if that succeeds. -/
def showFrame [Panel δ] (m : Bare κ δ) : Except Error Advance × Bare κ δ :=
  let (r, screen) := m.screen.flush
  ((r.mapError .io).map fun _ => .next, { m with screen })

/-- The most rows that a sprite has. -/
def spriteRows : Nat := 15

/-- Draw the sprite of some height at the index. The sprite is read into a buffer first. -/
def drawSprite [Panel δ] (m : Bare κ δ) (x y height : Nat) :
    Checked (Except Error Advance × Bare κ δ) := do
  let buffer : Vector UInt8 spriteRows := Vector.replicate spriteRows 0
  let target ← Checked.slice buffer 0 height
  match ← m.memory.read m.index target.length with
  | .error e => return (.error e, m)
  | .ok data =>
    let buffer ← Checked.fill buffer 0 height data
    let sprite ← Checked.slice buffer 0 height
    let vx ← Checked.get m.registers x
    let vy ← Checked.get m.registers y
    let (hit, screen) ← Checked.drawSprite m.screen vx vy sprite
    let m ← { m with screen }.setFlag hit
    return m.showFrame

/-- Ask for a key, and skip an instruction if the answer and a register are as they should be. -/
def skipOnKey [Keypad κ] (m : Bare κ δ) (x : Nat) (condition : Option UInt8 → UInt8 → Bool) :
    Checked (Except Error Advance × Bare κ δ) :=
  match m.poll with
  | (.error e, m) => return (.error e, m)
  | (.ok key, m) => do
    let vx ← Checked.get m.registers x
    return (.ok (.skipIf (condition key vx)), m)

/-- Ask for a key, and put it into a register or begin to wait for one. -/
def awaitKey [Keypad κ] (m : Bare κ δ) (x : Nat) : Checked (Except Error Advance × Bare κ δ) :=
  match m.poll with
  | (.error e, m) => return (.error e, m)
  | (.ok (some key), m) => do
    let m ← m.setRegister x key
    return (.ok .next, m)
  | (.ok none, m) => return (.ok .wait, { m with awaiting := some (UInt8.ofNat x) })

/-- Add a register to the index; the flag tells whether that went past the end of memory. -/
def addIndex (m : Bare κ δ) (x : Nat) : Checked (Bare κ δ) := do
  let vx ← Checked.get m.registers x
  let sum ← Checked.add 32 m.index.toNat vx.toNat
  { m with index := m.index + vx.toUInt16 }.setFlag (decide (memorySize ≤ sum))

/-- Put a written memory in place, if it was not refused, and go on. -/
def replaceMemory (m : Bare κ δ) (written : Except Error BareMemory) :
    Except Error Advance × Bare κ δ :=
  match written with
  | .error e => (.error e, m)
  | .ok memory => (.ok .next, { m with memory })

/-- Store the registers up to `x` at the index. -/
def save (m : Bare κ δ) (x : Nat) : Checked (Except Error Advance × Bare κ δ) := do
  let stop ← Checked.add 64 x 1
  let data ← Checked.slice m.registers 0 stop
  let written ← m.memory.write m.index data
  return m.replaceMemory written

/-- Read the registers up to `x` from the index. -/
def restore (m : Bare κ δ) (x : Nat) : Checked (Except Error Advance × Bare κ δ) := do
  let stop ← Checked.add 64 x 1
  let target ← Checked.slice m.registers 0 stop
  match ← m.memory.read m.index target.length with
  | .error e => return (.error e, m)
  | .ok data =>
    let registers ← Checked.fill m.registers 0 stop data
    return (.ok .next, { m with registers })

/-- The effect of an operation, and where the program counter goes then. The registers `x` and `y`
and the small number `n` are taken from the arguments, and from the operation only the rest. -/
def perform [Keypad κ] [Panel δ] (m : Bare κ δ) (x y n : Nat) :
    Operation → Checked (Except Error Advance × Bare κ δ)
  | .clearScreen => return { m with screen := m.screen.clear }.showFrame
  | .ret => m.ret
  | .jump target => return (.ok (.jump target), m)
  | .call target => m.call target
  | .skipEqual _ byte => m.skipOn x x fun vx _ => vx == byte
  | .skipNotEqual _ byte => m.skipOn x x fun vx _ => vx != byte
  | .skipSame .. => m.skipOn x y (· == ·)
  | .skipDifferent .. => m.skipOn x y (· != ·)
  | .load _ byte => do
    let m ← m.setRegister x byte
    return (.ok .next, m)
  | .addByte _ byte => do
    let vx ← Checked.get m.registers x
    let m ← m.setRegister x (vx + byte)
    return (.ok .next, m)
  | .alu op .. => do
    let vx ← Checked.get m.registers x
    let vy ← Checked.get m.registers y
    let m ← m.setResult x (op.apply vx vy)
    return (.ok .next, m)
  | .setIndex addr => return (.ok .next, { m with index := addr })
  | .jumpOffset base => do
    let v0 ← Checked.get m.registers 0
    return (.ok (.jump (base + v0.toUInt16)), m)
  | .random _ mask => do
    let (byte, random) := m.random.draw
    let m ← { m with random }.setRegister x (byte &&& mask)
    return (.ok .next, m)
  | .draw .. => m.drawSprite x y n
  | .skipKeyDown _ => m.skipOnKey x fun key vx => key == some vx
  | .skipKeyUp _ => m.skipOnKey x fun key vx => key != some vx
  | .readDelay _ => do
    let m ← m.setRegister x m.timers.delay
    return (.ok .next, m)
  | .awaitKey _ => m.awaitKey x
  | .setDelay _ => do
    let vx ← Checked.get m.registers x
    return (.ok .next, { m with timers := { m.timers with delay := vx } })
  | .setSound _ => do
    let vx ← Checked.get m.registers x
    return (.ok .next, { m with timers := { m.timers with sound := vx } })
  | .addIndex _ => do
    let m ← m.addIndex x
    return (.ok .next, m)
  | .glyph _ => do
    let vx ← Checked.get m.registers x
    let index ← m.memory.glyphAddress vx
    return (.ok .next, { m with index })
  | .storeDecimal _ => do
    let vx ← Checked.get m.registers x
    let written ← m.memory.saveDecimal m.index vx
    return m.replaceMemory written
  | .save _ => m.save x
  | .restore _ => m.restore x

/-! ### Instructions -/

/-- Move the program counter. -/
def advance (m : Bare κ δ) : Advance → Step × Bare κ δ
  | .next => (.executed, { m with pc := m.pc + Instruction.width })
  | .skipIf false => (.executed, { m with pc := m.pc + Instruction.width })
  | .skipIf true => (.executed, { m with pc := m.pc + 2 * Instruction.width })
  | .jump target => (.executed, { m with pc := target })
  | .wait => (.waiting, m)

/-- Execute an instruction. Its operands are masked out of its bytes. -/
def execute [Keypad κ] [Panel δ] (m : Bare κ δ) (ins : Instruction) :
    Checked (Except Error Step × Bare κ δ) :=
  if m.awaiting.isSome then
    return (.ok .waiting, m)
  else
    let x := (ins.hi &&& 0x0F).toNat
    let y := (ins.lo >>> 4).toNat
    let n := (ins.lo &&& 0x0F).toNat
    match ins.operation? with
    | none => return (.error (.unknownOpcode ins.word), m)
    | some op => do
      match ← m.perform x y n op with
      | (.error e, m) => return (.error e, m)
      | (.ok a, m) =>
        let (step, m) := m.advance a
        return (.ok step, m)

end Bare

end Chip8
