import Chip8.Machine.Basic
import Chip8.Operation

set_option relaxedAutoImplicit false
set_option autoImplicit false

/-!
# Executing an instruction

One instruction at a time. An operation has its effect first and then says where the program
counter goes; a flag is stored after the result, so that it stays if both go to the same
register. Whatever can be refused is asked for before anything is changed, with one exception:
a frame that cannot be shown has already been drawn, and the flag of a drawing is stored.

## Main definitions

* `Chip8.Step` — what became of an instruction.
* `Chip8.Advance` — where the program counter goes.
* `Chip8.Machine.perform` — the effect of an operation.
* `Chip8.Machine.execute` — an instruction.
-/

namespace Chip8

/-- What became of an instruction. -/
inductive Step where
  /-- It ran to completion and the program counter moved on. -/
  | executed
  /-- The machine waits for a key and the program counter stayed. -/
  | waiting
  deriving DecidableEq, Repr

/-- Where the program counter goes. -/
inductive Advance where
  /-- To the next instruction. -/
  | next
  /-- To the next instruction or, if a condition holds, past it. -/
  | skipIf (condition : Bool)
  /-- To an address. -/
  | jump (target : UInt16)
  /-- Nowhere, until there is a key. -/
  | wait
  deriving DecidableEq, Repr

namespace Machine

variable {κ δ : Type} [Keypad κ] [Panel δ]

/-! ## Effects -/

/-- Store the byte of a function of two registers, and then its flag if it has one. -/
def setResult (m : Machine κ δ) (x : Fin 16) (result : UInt8 × Option Bool) : Machine κ δ :=
  match result with
  | (v, none) => m.setRegister x v
  | (v, some flag) => (m.setRegister x v).setFlag flag

/-- Show the frame, and go on if that succeeds. -/
def showFrame (m : Machine κ δ) : Except Error Advance × Machine κ δ :=
  let (r, screen) := m.screen.flush
  ((r.mapError .io).map fun _ => .next, { m with screen })

/-- Draw the sprite of some height at the index, tell in the flag whether a lit pixel was hit, and
show the frame. The whole sprite is read first. -/
def drawSprite (m : Machine κ δ) (x y : Fin 16) (height : Nat) :
    Except Error Advance × Machine κ δ :=
  match m.memory.read m.cpu.index height with
  | .error e => (.error e, m)
  | .ok sprite =>
    let (hit, screen) := m.screen.drawSprite (m.register x) (m.register y) sprite
    ({ m with screen }.setFlag hit).showFrame

/-- Ask for a key, and skip an instruction if the answer is as it should be. -/
def skipOnKey (m : Machine κ δ) (condition : Option UInt8 → Bool) :
    Except Error Advance × Machine κ δ :=
  match m.poll with
  | (.error e, m) => (.error e, m)
  | (.ok key, m) => (.ok (.skipIf (condition key)), m)

/-- Ask for a key, and put it into a register or begin to wait for one. -/
def awaitKey (m : Machine κ δ) (x : Fin 16) : Except Error Advance × Machine κ δ :=
  match m.poll with
  | (.error e, m) => (.error e, m)
  | (.ok (some key), m) => (.ok .next, m.setRegister x key)
  | (.ok none, m) => (.ok .wait, m.setAwaiting (some x))

/-- Take the newest return address off and go there. -/
def ret (m : Machine κ δ) : Except Error Advance × Machine κ δ :=
  match m.cpu.stack.pop? with
  | none => (.error (.stackUnderflow m.cpu.pc), m)
  | some (target, stack) => (.ok (.jump target), m.setStack stack)

/-- Keep the address of the next instruction and go to an address. -/
def call (m : Machine κ δ) (target : UInt16) : Except Error Advance × Machine κ δ :=
  match m.cpu.stack.push? (m.cpu.pc + Instruction.width) with
  | none => (.error (.stackOverflow m.cpu.pc), m)
  | some stack => (.ok (.jump target), m.setStack stack)

/-- Put a written memory in place, if it was not refused, and go on. -/
def replaceMemory (m : Machine κ δ) (written : Except Error Memory) :
    Except Error Advance × Machine κ δ :=
  match written with
  | .error e => (.error e, m)
  | .ok memory => (.ok .next, { m with memory })

/-- The registers up to one. -/
def registersUpTo (m : Machine κ δ) (x : Fin 16) : List UInt8 :=
  Bytes.slice m.cpu.registers 0 (x.val + 1) (by simp only [registerCount]; omega)

/-- Read the registers up to one from the index. -/
def restore (m : Machine κ δ) (x : Fin 16) : Except Error Advance × Machine κ δ :=
  match m.memory.read m.cpu.index (x.val + 1) with
  | .error e => (.error e, m)
  | .ok data =>
    (.ok .next, { m with cpu := { m.cpu with
      registers := Bytes.overwrite m.cpu.registers 0 data } })

/-- Add a register to the index; the flag tells whether that went past the end of memory. -/
def addIndex (m : Machine κ δ) (x : Fin 16) : Machine κ δ :=
  let vx := m.register x
  (m.setIndex (m.cpu.index + vx.toUInt16)).setFlag
    (decide (memorySize ≤ m.cpu.index.toNat + vx.toNat))

/-- Store a random byte, masked. -/
def storeRandom (m : Machine κ δ) (x : Fin 16) (mask : UInt8) : Machine κ δ :=
  let (byte, random) := m.random.draw
  { m with random }.setRegister x (byte &&& mask)

/-- The effect of an operation, and where the program counter goes then. -/
def perform (m : Machine κ δ) : Operation → Except Error Advance × Machine κ δ
  | .clearScreen => { m with screen := m.screen.clear }.showFrame
  | .ret => m.ret
  | .jump target => (.ok (.jump target), m)
  | .call target => m.call target
  | .skipEqual x byte => (.ok (.skipIf (m.register x == byte)), m)
  | .skipNotEqual x byte => (.ok (.skipIf (m.register x != byte)), m)
  | .skipSame x y => (.ok (.skipIf (m.register x == m.register y)), m)
  | .skipDifferent x y => (.ok (.skipIf (m.register x != m.register y)), m)
  | .load x byte => (.ok .next, m.setRegister x byte)
  | .addByte x byte => (.ok .next, m.setRegister x (m.register x + byte))
  | .alu op x y => (.ok .next, m.setResult x (op.apply (m.register x) (m.register y)))
  | .setIndex addr => (.ok .next, m.setIndex addr)
  | .jumpOffset base => (.ok (.jump (base + (m.register 0).toUInt16)), m)
  | .random x mask => (.ok .next, m.storeRandom x mask)
  | .draw x y height => m.drawSprite x y height.val
  | .skipKeyDown x => m.skipOnKey (· == some (m.register x))
  | .skipKeyUp x => m.skipOnKey (· != some (m.register x))
  | .readDelay x => (.ok .next, m.setRegister x m.timers.delay)
  | .awaitKey x => m.awaitKey x
  | .setDelay x => (.ok .next, { m with timers := { m.timers with delay := m.register x } })
  | .setSound x => (.ok .next, { m with timers := { m.timers with sound := m.register x } })
  | .addIndex x => (.ok .next, m.addIndex x)
  | .glyph x => (.ok .next, m.setIndex (m.memory.glyphAddress (m.register x)))
  | .storeDecimal x => m.replaceMemory (m.memory.saveDecimal m.cpu.index (m.register x))
  | .save x => m.replaceMemory (m.memory.write m.cpu.index (m.registersUpTo x))
  | .restore x => m.restore x

/-! ## Instructions -/

/-- Move the program counter. -/
def advance (m : Machine κ δ) : Advance → Step × Machine κ δ
  | .next => (.executed, m.setPc (m.cpu.pc + Instruction.width))
  | .skipIf false => (.executed, m.setPc (m.cpu.pc + Instruction.width))
  | .skipIf true => (.executed, m.setPc (m.cpu.pc + 2 * Instruction.width))
  | .jump target => (.executed, m.setPc target)
  | .wait => (.waiting, m)

/-- Execute an instruction. A machine that waits for a key goes on waiting. -/
def execute (m : Machine κ δ) (ins : Instruction) : Except Error Step × Machine κ δ :=
  if m.isWaiting then
    (.ok .waiting, m)
  else
    match ins.operation? with
    | none => (.error (.unknownOpcode ins.word), m)
    | some op =>
      match m.perform op with
      | (.error e, m) => (.error e, m)
      | (.ok a, m) =>
        let (step, m) := m.advance a
        (.ok step, m)

end Machine

end Chip8
