import Chip8.Proofs.Bare.Machine
import Chip8.Proofs.Decoding

set_option relaxedAutoImplicit false
set_option autoImplicit false

/-!
# The machine on plain numbers does what the machine does

Each part of the machine on plain numbers is compared with the same part of the machine: there is
no fault, the answer is the same, and so is what is left behind. The stack pointer is a slot if it
was compared with the number of slots, operands are nibbles, and a buffer for the rows of a sprite
is as long as the longest one.

## Main results

* `Chip8.Machine.bare_perform` — the effect of an operation.
* `Chip8.Machine.bare_execute`, `Chip8.Machine.bare_canProceed`, `Chip8.Machine.bare_fetch`,
  `Chip8.Machine.bare_write`, `Chip8.Machine.bare_loadProgram` — what can be asked of a machine.
* `Chip8.Bare.boot_eq` — a machine that starts from a snapshot.
-/

namespace Chip8

namespace Machine

open Checked (ok_bind get_of_lt set_of_lt slice_zero_of_le fill_zero_of_le
  slice_zero_overwrite add_of_lt sub_of_le)

variable {κ δ : Type} (m : Machine κ δ)

/-! ## Registers -/

theorem get_bare_registers (x : Fin 16) :
    Checked.get m.bare.registers x.val = .ok (m.register x) :=
  get_of_lt m.bare.registers x.isLt

theorem bare_setRegister (x : Fin 16) (v : UInt8) :
    m.bare.setRegister x.val v = .ok (m.setRegister x v).bare := by
  rw [Bare.setRegister, set_of_lt m.bare.registers x.isLt, ok_bind]
  rfl

theorem bare_setFlag (flag : Bool) : m.bare.setFlag flag = .ok (m.setFlag flag).bare :=
  m.bare_setRegister flagRegister _

theorem bare_setResult (x : Fin 16) (result : UInt8 × Option Bool) :
    m.bare.setResult x.val result = .ok (m.setResult x result).bare := by
  rcases result with ⟨v, _ | flag⟩
  · exact m.bare_setRegister x v
  · rw [Bare.setResult, bare_setRegister, ok_bind]
    exact bare_setFlag _ flag

theorem bare_addIndex (x : Fin 16) : m.bare.addIndex x.val = .ok (m.addIndex x).bare := by
  have hsum : m.cpu.index.toNat + (m.register x).toNat < 2 ^ 32 := by
    have := m.cpu.index.toNat_lt
    have := (m.register x).toNat_lt
    omega
  rw [Bare.addIndex, get_bare_registers, ok_bind, bare, add_of_lt hsum, ok_bind]
  exact bare_setFlag (m.setIndex (m.cpu.index + (m.register x).toUInt16)) _

theorem bare_skipOn (x y : Fin 16) (condition : UInt8 → UInt8 → Bool) :
    m.bare.skipOn x.val y.val condition =
      .ok (.ok (.skipIf (condition (m.register x) (m.register y))), m.bare) := by
  rw [Bare.skipOn, get_bare_registers, ok_bind, get_bare_registers, ok_bind]
  rfl

/-! ## The call stack -/

theorem toNat_bare_sp : m.bare.sp.toNat = m.cpu.stack.depth := by
  have hdepth : m.cpu.stack.depth < UInt8.size :=
    Nat.lt_of_le_of_lt m.cpu.stack.depth_le (by decide)
  exact UInt8.toNat_ofNat_of_lt hdepth

/-- A return takes the slot below the stack pointer, if that is not zero. -/
theorem bare_ret : m.bare.ret = .ok (m.ret.1, m.ret.2.bare) := by
  have hle := m.cpu.stack.depth_le
  have hsp := m.toNat_bare_sp
  by_cases hpos : 0 < m.cpu.stack.depth
  · have hne : ¬ m.bare.sp = 0 := by
      intro h
      rw [h] at hsp
      exact absurd hsp (by simpa using Nat.ne_of_lt hpos)
    have hbelow : (UInt8.ofNat (m.cpu.stack.depth - 1)).toNat = m.cpu.stack.depth - 1 :=
      UInt8.toNat_ofNat_of_lt (by simp only [UInt8.size, stackDepth] at hle ⊢; omega)
    have hslot : (UInt8.ofNat (m.cpu.stack.depth - 1)).toNat < stackDepth := by omega
    rw [Bare.ret, if_neg hne, hsp, sub_of_le hpos, ok_bind]
    dsimp only
    rw [get_of_lt _ hslot, ok_bind]
    simp only [hbelow, ret, CallStack.pop?, hpos, dif_pos]
    rfl
  · have hzero : m.bare.sp = 0 := by
      rw [← UInt8.toNat_inj, hsp]
      simpa using hpos
    rw [Bare.ret, if_pos hzero]
    simp only [ret, CallStack.pop?, hpos, dif_neg, not_false_eq_true]
    rfl

/-- A stack pointer that no machine has would be a fault. -/
example (m : Bare ScriptedKeypad NoPanel) :
    { m with sp := 20 }.ret = .error (.place 19 stackDepth) :=
  rfl

/-- A call uses the slot at the stack pointer, if there is one. -/
theorem bare_call (target : UInt16) :
    m.bare.call target = .ok ((m.call target).1, (m.call target).2.bare) := by
  have hsp := m.toNat_bare_sp
  by_cases hfree : m.cpu.stack.depth < stackDepth
  · have hsum : m.cpu.stack.depth + 1 < 2 ^ 8 := by simp only [stackDepth] at hfree; omega
    rw [Bare.call, hsp, if_neg (Nat.not_le_of_lt hfree), set_of_lt _ hfree, ok_bind,
      add_of_lt hsum, ok_bind]
    simp only [call, CallStack.push?, hfree, dif_pos]
    rfl
  · rw [Bare.call, hsp, if_pos (Nat.le_of_not_lt hfree)]
    simp only [call, CallStack.push?, hfree, dif_neg, not_false_eq_true]
    rfl

/-! ## Memory -/

theorem bare_replaceMemory (written : Except Error Memory) :
    m.bare.replaceMemory (written.map Memory.bare) =
      ((m.replaceMemory written).1, (m.replaceMemory written).2.bare) := by
  cases written with
  | error e => rfl
  | ok memory => rfl

/-- The registers up to one are a run of the registers. -/
theorem bare_save (x : Fin 16) :
    m.bare.save x.val =
      .ok ((m.replaceMemory (m.memory.write m.cpu.index (m.registersUpTo x))).1,
        (m.replaceMemory (m.memory.write m.cpu.index (m.registersUpTo x))).2.bare) := by
  have hstop : x.val + 1 < 2 ^ 64 := by omega
  have hrun : 0 + (x.val + 1) ≤ registerCount := by simp only [registerCount]; omega
  have hslice : Checked.slice m.bare.registers 0 (x.val + 1) = .ok (m.registersUpTo x) :=
    slice_zero_of_le m.cpu.registers hrun
  have hwrite : m.bare.memory.write m.bare.index (m.registersUpTo x) = _ :=
    m.memory.bare_write m.cpu.index (m.registersUpTo x)
  rw [Bare.save, add_of_lt hstop, ok_bind, hslice, ok_bind, hwrite, ok_bind, bare_replaceMemory]
  rfl

/-- As many bytes are read as there are registers up to one. -/
theorem bare_restore (x : Fin 16) :
    m.bare.restore x.val = .ok ((m.restore x).1, (m.restore x).2.bare) := by
  have hstop : x.val + 1 < 2 ^ 64 := by omega
  have hrun : 0 + (x.val + 1) ≤ registerCount := by simp only [registerCount]; omega
  have hread : m.bare.memory.read m.bare.index (x.val + 1) = _ :=
    m.memory.bare_read m.cpu.index (x.val + 1)
  rw [Bare.restore, add_of_lt hstop, ok_bind, slice_zero_of_le m.bare.registers hrun, ok_bind,
    Bytes.length_slice, hread, ok_bind, restore]
  cases hdata : m.memory.read m.cpu.index (x.val + 1) with
  | error e => rfl
  | ok data =>
    obtain ⟨_, rfl⟩ := Memory.read_eq_ok_iff.1 hdata
    dsimp only
    rw [fill_zero_of_le m.bare.registers (by omega) (Bytes.length_slice ..), ok_bind]
    rfl

/-- Writing to memory does the same. -/
theorem bare_write (addr : UInt16) (data : List UInt8) :
    m.bare.write addr data = .ok ((m.write addr data).1, (m.write addr data).2.bare) := by
  have hwrite : m.bare.memory.write addr data = _ := m.memory.bare_write addr data
  rw [Bare.write, hwrite, ok_bind, write]
  cases m.memory.write addr data with
  | error e => rfl
  | ok memory => rfl

/-- Loading a program does the same. -/
theorem bare_loadProgram (source : Source) :
    m.bare.loadProgram source =
      .ok ((m.loadProgram source).1, (m.loadProgram source).2.bare) := by
  have hload : m.bare.memory.loadProgram source = _ := m.memory.bare_loadProgram source
  rw [Bare.loadProgram, hload, ok_bind, loadProgram]
  cases m.memory.loadProgram source with
  | error e => rfl
  | ok loaded => rfl

/-- The instruction at the program counter is the same. -/
theorem bare_fetch : m.bare.fetch = .ok m.fetch :=
  m.memory.bare_fetch m.cpu.pc

/-! ## The screen -/

section Panel

variable [Panel δ]

/-- The rows of a sprite fit into the buffer for them, and all pixels that they cover are there. -/
theorem bare_drawSprite (x y height : Fin 16) :
    m.bare.drawSprite x.val y.val height.val =
      .ok ((m.drawSprite x y height.val).1, (m.drawSprite x y height.val).2.bare) := by
  have hheight : 0 + height.val ≤ Bare.spriteRows := by simp only [Bare.spriteRows]; omega
  have hread : m.bare.memory.read m.bare.index height.val = _ :=
    m.memory.bare_read m.cpu.index height.val
  rw [Bare.drawSprite]
  dsimp only
  rw [slice_zero_of_le _ hheight, ok_bind, Bytes.length_slice, hread, ok_bind, drawSprite]
  cases hdata : m.memory.read m.cpu.index height.val with
  | error e => rfl
  | ok data =>
    have hlen : data.length = height.val := by
      obtain ⟨_, rfl⟩ := Memory.read_eq_ok_iff.1 hdata
      exact Bytes.length_slice ..
    dsimp only
    rw [fill_zero_of_le _ (by omega) hlen, ok_bind, slice_zero_overwrite _ (by omega) hlen, ok_bind,
      get_bare_registers, ok_bind, get_bare_registers, ok_bind, Checked.drawSprite_eq, ok_bind]
    have hscreen : m.bare.screen = m.screen := rfl
    rcases hdraw : m.screen.drawSprite (m.register x) (m.register y) data with ⟨hit, screen⟩
    have hflag : { m.bare with screen }.setFlag hit = _ := bare_setFlag { m with screen } hit
    rw [hscreen, hdraw]
    dsimp only
    rw [hflag]
    rfl

end Panel

/-! ## The keypad -/

/-- The number of a register is a byte. -/
theorem toNat_ofNat_register (x : Fin 16) : (UInt8.ofNat x.val).toNat = x.val :=
  UInt8.toNat_ofNat_of_lt (Nat.lt_trans x.isLt (by decide))

section Keypad

variable [Keypad κ]

theorem bare_poll : m.bare.poll = (m.poll.1, m.poll.2.bare) :=
  rfl

theorem bare_skipOnKey (x : Fin 16) (condition : Option UInt8 → UInt8 → Bool) :
    m.bare.skipOnKey x.val condition =
      .ok ((m.skipOnKey fun key => condition key (m.register x)).1,
        (m.skipOnKey fun key => condition key (m.register x)).2.bare) := by
  rw [Bare.skipOnKey, bare_poll, skipOnKey]
  have hregister : m.poll.2.register x = m.register x := rfl
  rcases hp : m.poll with ⟨e | key, m₁⟩
  · rfl
  · rw [hp] at hregister
    dsimp only
    rw [get_bare_registers, hregister]
    rfl

theorem bare_awaitKey (x : Fin 16) :
    m.bare.awaitKey x.val = .ok ((m.awaitKey x).1, (m.awaitKey x).2.bare) := by
  rw [Bare.awaitKey, bare_poll, awaitKey]
  rcases m.poll with ⟨e | _ | key, m₁⟩
  · rfl
  · rfl
  · dsimp only
    rw [bare_setRegister]
    rfl

/-- A wait that ends stores the key in one of the registers. -/
theorem bare_canProceed : m.bare.canProceed = .ok (m.canProceed.1, m.canProceed.2.bare) := by
  rw [Bare.canProceed, canProceed]
  cases hx : m.cpu.awaiting with
  | none =>
    have hbare : m.bare.awaiting = none := by rw [bare, hx]; rfl
    rw [hbare]
    rfl
  | some x =>
    have hbare : m.bare.awaiting = some (UInt8.ofNat x.val) := by rw [bare, hx]; rfl
    rw [hbare, bare_poll]
    dsimp only
    rcases m.poll with ⟨e | _ | key, m₁⟩
    · rfl
    · rfl
    · dsimp only
      rw [toNat_ofNat_register, bare_setRegister]
      rfl

end Keypad

/-! ## Operations and instructions -/

section Devices

variable [Keypad κ] [Panel δ]

variable {m} in
/-- Every operation is done without a fault if it gets its operands from its word, and does what
the machine does.

**Proof sketch.** Operation by operation: a register is the second or the third nibble of the
word, and the parts above do the rest. -/
theorem bare_perform (hm : m.memory.HasGlyphs) {ins : Instruction} {op : Operation}
    (hcoded : op.Coded ins) :
    m.bare.perform ins.x.val ins.y.val ins.n.val op =
      .ok ((m.perform op).1, (m.perform op).2.bare) := by
  cases op
  case clearScreen | jump | setIndex => rfl
  case ret => exact m.bare_ret
  case call target => exact m.bare_call target
  case skipEqual | skipNotEqual =>
    obtain ⟨-, rfl, -⟩ := hcoded
    exact m.bare_skipOn ins.x ins.x _
  case skipSame | skipDifferent =>
    obtain ⟨-, -, rfl, rfl⟩ := hcoded
    exact m.bare_skipOn ins.x ins.y _
  case load x byte =>
    obtain ⟨-, rfl, -⟩ := hcoded
    rw [Bare.perform, bare_setRegister, ok_bind]
    rfl
  case addByte x byte =>
    obtain ⟨-, rfl, -⟩ := hcoded
    rw [Bare.perform, get_bare_registers, ok_bind, bare_setRegister, ok_bind]
    rfl
  case alu op x y =>
    obtain ⟨-, -, rfl, rfl⟩ := hcoded
    rw [Bare.perform, get_bare_registers, ok_bind, get_bare_registers, ok_bind, bare_setResult,
      ok_bind]
    rfl
  case jumpOffset base =>
    have hfirst : Checked.get m.bare.registers 0 = .ok (m.register 0) := m.get_bare_registers 0
    rw [Bare.perform, hfirst, ok_bind]
    rfl
  case random x mask =>
    obtain ⟨-, rfl, rfl⟩ := hcoded
    rcases hdraw : m.random.draw with ⟨byte, random⟩
    have hbare : m.bare.random.draw = (byte, random) := hdraw
    have hstore : { m.bare with random }.setRegister ins.x.val (byte &&& ins.nn) = _ :=
      bare_setRegister { m with random } ins.x (byte &&& ins.nn)
    rw [Bare.perform, hbare]
    dsimp only
    rw [hstore, ok_bind, perform, storeRandom, hdraw]
    rfl
  case draw x y height =>
    obtain ⟨-, rfl, rfl, rfl⟩ := hcoded
    exact m.bare_drawSprite ins.x ins.y ins.n
  case skipKeyDown | skipKeyUp =>
    obtain ⟨-, -, rfl⟩ := hcoded
    exact m.bare_skipOnKey ins.x _
  case readDelay x =>
    obtain ⟨-, -, rfl⟩ := hcoded
    rw [Bare.perform, bare_setRegister, ok_bind]
    rfl
  case awaitKey x =>
    obtain ⟨-, -, rfl⟩ := hcoded
    exact m.bare_awaitKey ins.x
  case setDelay | setSound =>
    obtain ⟨-, -, rfl⟩ := hcoded
    rw [Bare.perform, get_bare_registers, ok_bind]
    rfl
  case addIndex x =>
    obtain ⟨-, -, rfl⟩ := hcoded
    rw [Bare.perform, bare_addIndex, ok_bind]
    rfl
  case glyph x =>
    obtain ⟨-, -, rfl⟩ := hcoded
    have hglyph : m.bare.memory.glyphAddress (m.register ins.x) = _ :=
      Memory.bare_glyphAddress hm _
    rw [Bare.perform, get_bare_registers, ok_bind, hglyph, ok_bind]
    rfl
  case storeDecimal x =>
    obtain ⟨-, -, rfl⟩ := hcoded
    have hstore : m.bare.memory.saveDecimal m.bare.index (m.register ins.x) = _ :=
      m.memory.bare_saveDecimal m.cpu.index _
    rw [Bare.perform, get_bare_registers, ok_bind, hstore, ok_bind, bare_replaceMemory]
    rfl
  case save x =>
    obtain ⟨-, -, rfl⟩ := hcoded
    exact m.bare_save ins.x
  case restore x =>
    obtain ⟨-, -, rfl⟩ := hcoded
    exact m.bare_restore ins.x

omit [Keypad κ] [Panel δ] in
theorem bare_advance (a : Advance) :
    m.bare.advance a = ((m.advance a).1, (m.advance a).2.bare) := by
  cases a with
  | skipIf condition => cases condition <;> rfl
  | next | jump | wait => rfl

/-- The operands of a word are its nibbles. -/
theorem operands_eq (ins : Instruction) :
    (ins.hi &&& 0x0F).toNat = ins.x.val ∧ (ins.lo >>> 4).toNat = ins.y.val ∧
      (ins.lo &&& 0x0F).toNat = ins.n.val := by
  have hlow (b : UInt8) : (b &&& 0x0F).toNat = b.toNat % 16 := by
    rw [UInt8.toNat_and]
    exact Nat.and_two_pow_sub_one_eq_mod b.toNat 4
  have hhigh (b : UInt8) : (b >>> 4).toNat = b.toNat / 16 := by
    rw [UInt8.toNat_shiftRight]
    exact Nat.shiftRight_eq_div_pow b.toNat 4
  exact ⟨hlow ins.hi, hhigh ins.lo, hlow ins.lo⟩

variable {m} in
/-- Every instruction is executed without a fault, and does what it does on the machine. -/
theorem bare_execute (hm : m.memory.HasGlyphs) (ins : Instruction) :
    m.bare.execute ins = .ok ((m.execute ins).1, (m.execute ins).2.bare) := by
  have hwaiting : m.bare.awaiting.isSome = m.isWaiting := by simp [bare, isWaiting]
  obtain ⟨hx, hy, hn⟩ := operands_eq ins
  rw [Bare.execute, execute, hwaiting, hx, hy, hn]
  split
  · rfl
  · cases hop : ins.operation? with
    | none => rfl
    | some op =>
      dsimp only
      rw [bare_perform hm (Instruction.operation?_eq_some_iff.1 hop), ok_bind]
      rcases m.perform op with ⟨e | a, m₁⟩
      · rfl
      · dsimp only
        rw [bare_advance]
        rfl

end Devices

end Machine

/-- Starting from a snapshot fails on the same snapshots and leaves the same timers. -/
theorem Bare.boot_eq {κ δ : Type} (memory : Memory) (keypad : κ) (panel : δ)
    (random : RandomSource) (timers : Timers) (start : Snapshot) :
    boot memory.bare keypad panel random timers start =
      ((Machine.boot memory keypad panel random timers start).1.map Machine.bare,
        (Machine.boot memory keypad panel random timers start).2) := by
  rw [boot, Machine.boot, Cpu.ofSnapshot, CallStack.ofSlots?]
  split
  · rename_i hdeep
    rw [dif_neg (Nat.not_le_of_lt hdeep)]
    rfl
  · rename_i hdepth
    rw [dif_pos (Nat.le_of_not_lt hdepth)]
    simp only [Except.map, Machine.bare, UInt8.ofNat_toNat]
    rfl

end Chip8
