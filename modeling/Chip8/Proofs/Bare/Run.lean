import Chip8.Proofs.Bare.Agreement
import Chip8.Proofs.Machine.Run
import Chip8.Proofs.Memory.Loading
import Mathlib.Data.List.Induction

set_option relaxedAutoImplicit false
set_option autoImplicit false

/-!
# Runs on plain numbers

A machine that was started from a snapshot can be asked anything, in any order and by any devices:
no place, run of places, sum or shift on the way is out of range. What it needs for that, it keeps:
the stack pointer is at most the number of slots, memory keeps its size, a key is awaited for one
of the registers, and the glyphs have addresses.

## Main definitions

* `Chip8.Bare.after`, `Chip8.Bare.run` — the machine on plain numbers after an action, and after
  some.
* `Chip8.Machine.Faultless` — whatever is asked next, there is no fault.

## Main results

* `Chip8.Machine.faultless` — a machine whose glyphs have addresses is faultless.
* `Chip8.Machine.bare_run` — a whole run has no fault.
* `Chip8.Machine.bare_boot_run` — nor has any run of a machine that starts from a snapshot.
-/

namespace Chip8

namespace Bare

variable {κ δ : Type} [Keypad κ] [Panel δ]

/-- The machine after an action, whether that was refused or not. -/
def after (m : Bare κ δ) : Machine.Action → Checked (Bare κ δ)
  | .execute ins => return (← m.execute ins).2
  | .proceed => return (← m.canProceed).2
  | .tick => return m.tick.2
  | .write addr data => return (← m.write addr data).2
  | .load source => return (← m.loadProgram source).2
  | .elapse nanos => return { m with keypad := Keypad.elapse nanos m.keypad }

/-- The machine after some actions. -/
def run (m : Bare κ δ) (actions : List Machine.Action) : Checked (Bare κ δ) :=
  actions.foldlM after m

end Bare

namespace Machine

open Checked (ok_bind)

variable {κ δ : Type}

/-! ## What every machine has -/

/-- The stack pointer is at most the number of slots. -/
theorem bare_sp_le (m : Machine κ δ) : m.bare.sp.toNat ≤ stackDepth := by
  rw [toNat_bare_sp]
  exact m.cpu.stack.depth_le

/-- A key is awaited for one of the registers. -/
theorem bare_awaiting_lt (m : Machine κ δ) {x : UInt8} (h : m.bare.awaiting = some x) :
    x.toNat < registerCount := by
  obtain ⟨r, -, rfl⟩ := Option.map_eq_some_iff.1 h
  rw [toNat_ofNat_register]
  exact r.isLt

variable [Keypad κ] [Panel δ]

/-! ## One action -/

/-- Whatever is asked of the machine on plain numbers, there is no fault and the answer is the one
of the machine. -/
structure Faultless (m : Machine κ δ) : Prop where
  /-- An instruction is executed. -/
  execute (ins : Instruction) :
    m.bare.execute ins = .ok ((m.execute ins).1, (m.execute ins).2.bare)
  /-- A wait may end. -/
  canProceed : m.bare.canProceed = .ok (m.canProceed.1, m.canProceed.2.bare)
  /-- The next instruction is looked up. -/
  fetch : m.bare.fetch = .ok m.fetch
  /-- The timers count down. -/
  tick : m.bare.tick = (m.tick.1, m.tick.2.bare)
  /-- Bytes are put into memory. -/
  write (addr : UInt16) (data : List UInt8) :
    m.bare.write addr data = .ok ((m.write addr data).1, (m.write addr data).2.bare)
  /-- A program is loaded. -/
  loadProgram (source : Source) :
    m.bare.loadProgram source = .ok ((m.loadProgram source).1, (m.loadProgram source).2.bare)
  /-- A pixel is looked at. -/
  pixel (x y : Nat) : Checked.pixel m.bare.screen.frame x y = .ok (m.screen.frame.pixel x y)

/-- A machine whose glyphs have addresses is faultless. -/
theorem faultless {m : Machine κ δ} (hm : m.memory.HasGlyphs) : m.Faultless where
  execute := bare_execute hm
  canProceed := m.bare_canProceed
  fetch := m.bare_fetch
  tick := rfl
  write := m.bare_write
  loadProgram := m.bare_loadProgram
  pixel := Checked.pixel_eq m.screen.frame

/-- An action on plain numbers leads to the machine after the action. -/
theorem bare_after {m : Machine κ δ} (hm : m.memory.HasGlyphs) (a : Action) :
    m.bare.after a = .ok (m.after a).bare := by
  have h := faultless hm
  cases a with
  | execute ins =>
    rw [Bare.after, h.execute]
    rfl
  | proceed =>
    rw [Bare.after, h.canProceed]
    rfl
  | tick => rfl
  | write addr data =>
    rw [Bare.after, h.write]
    rfl
  | load source =>
    rw [Bare.after, h.loadProgram]
    rfl
  | elapse nanos => rfl

/-! ## What an action keeps -/

theorem fontStart_of_loadProgram {m m' : Memory} {source : Source} {size : Nat}
    (h : m.loadProgram source = .ok (size, m')) : m'.fontStart = m.fontStart := by
  obtain ⟨data, hwrite⟩ := Memory.write_of_loadProgram h
  exact (Memory.starts_of_write hwrite).2

omit [Keypad κ] [Panel δ] in
theorem fontStart_replaceMemory (m : Machine κ δ) (addr : UInt16) (data : List UInt8) :
    (m.replaceMemory (m.memory.write addr data)).2.memory.fontStart = m.memory.fontStart := by
  cases hwrite : m.memory.write addr data with
  | error e => rfl
  | ok memory => exact (Memory.starts_of_write hwrite).2

/-- No operation moves the glyphs. -/
theorem fontStart_perform (m : Machine κ δ) (op : Operation) :
    (m.perform op).2.memory.fontStart = m.memory.fontStart := by
  by_cases hmem : .memory ∈ op.parts
  · cases op <;> simp only [Operation.parts, List.mem_cons, List.not_mem_nil, or_false,
      reduceCtorEq] at hmem
    case storeDecimal x => exact m.fontStart_replaceMemory ..
    case save x => exact m.fontStart_replaceMemory ..
  · have hsame : (m.perform op).2.memory = m.memory := m.same_perform hmem
    rw [hsame]

/-- No instruction moves the glyphs. -/
theorem fontStart_execute (m : Machine κ δ) (ins : Instruction) :
    (m.execute ins).2.memory.fontStart = m.memory.fontStart := by
  rcases h : m.execute ins with ⟨e | step, m'⟩
  · obtain ⟨-, ⟨-, -, rfl⟩ | ⟨op, -, hp⟩⟩ := execute_eq_error h
    · rfl
    · have hperform := m.fontStart_perform op
      rwa [hp] at hperform
  · obtain ⟨-, -, rfl⟩ | ⟨-, op, a, m₁, -, hp, ha⟩ := execute_eq_ok h
    · rfl
    · have hperform := m.fontStart_perform op
      have hafter : m' = m₁.setPc (a.target m₁.cpu.pc) := by rw [← advance_snd, ha]
      rw [hp] at hperform
      rw [hafter]
      exact hperform

/-- No action moves the glyphs. -/
theorem fontStart_after (m : Machine κ δ) (a : Action) :
    (m.after a).memory.fontStart = m.memory.fontStart := by
  cases a with
  | execute ins => exact m.fontStart_execute ins
  | proceed =>
    have hsame : m.canProceed.2.memory = m.memory :=
      m.same_canProceed (p := .memory) (by simp)
    exact congrArg Memory.fontStart hsame
  | tick | elapse => rfl
  | write addr data =>
    simp only [after, write]
    split
    · rfl
    · exact (Memory.starts_of_write ‹_›).2
  | load source =>
    simp only [after, loadProgram]
    split
    · rfl
    · exact fontStart_of_loadProgram ‹_›

/-! ## A whole run -/

/-- No run moves the glyphs. -/
theorem fontStart_run (m : Machine κ δ) (actions : List Action) :
    (m.run actions).memory.fontStart = m.memory.fontStart := by
  induction actions using List.reverseRecOn with
  | nil => rfl
  | append_singleton actions a ih => rw [run_concat, fontStart_after, ih]

theorem hasGlyphs_run {m : Machine κ δ} (hm : m.memory.HasGlyphs) (actions : List Action) :
    (m.run actions).memory.HasGlyphs := by
  rw [Memory.HasGlyphs, fontStart_run]
  exact hm

/-- A run on plain numbers leads to the machine after the run.

**Proof sketch.** Induction on the actions, the last one first. What the machine needs for its next
action it has after the ones before (`hasGlyphs_run`). -/
theorem bare_run {m : Machine κ δ} (hm : m.memory.HasGlyphs) (actions : List Action) :
    m.bare.run actions = .ok (m.run actions).bare := by
  induction actions using List.reverseRecOn with
  | nil => rfl
  | append_singleton actions a ih =>
    rw [Bare.run] at ih ⊢
    rw [List.foldlM_append, ih, ok_bind, List.foldlM_cons, bare_after (hasGlyphs_run hm actions),
      run_concat]
    rfl

omit [Keypad κ] [Panel δ] in
/-- A snapshot with more return addresses in use than there are slots is refused. -/
theorem boot_of_lt (memory : Memory) (keypad : κ) (panel : δ) (random : RandomSource)
    (timers : Timers) {start : Snapshot} (h : stackDepth < start.sp.toNat) :
    boot memory keypad panel random timers start =
      (.error (.stackOverflow start.pc), timers) := by
  rw [boot, Cpu.ofSnapshot, CallStack.ofSlots?, dif_neg (Nat.not_le_of_lt h)]

omit [Keypad κ] [Panel δ] in
/-- A machine starts from any other snapshot, with the memory that it is given. -/
theorem boot_of_le (memory : Memory) (keypad : κ) (panel : δ) (random : RandomSource)
    (timers : Timers) {start : Snapshot} (h : start.sp.toNat ≤ stackDepth) :
    ∃ m, boot memory keypad panel random timers start =
      (.ok m, { delay := start.delay, sound := start.sound }) ∧ m.memory = memory := by
  rw [boot, Cpu.ofSnapshot, CallStack.ofSlots?, dif_pos h]
  exact ⟨_, rfl, rfl⟩

/-- **A machine that starts from a snapshot never has a fault.** The memory with the font is made
without a fault; let programs be loaded to any address. A machine is refused exactly if the
snapshot has a stack pointer above the number of slots, and then the timers are left alone. Any
other machine may be asked anything, in any order and with any devices: the machine on plain
numbers does what the machine does. At each point of the run its stack pointer is at most the
number of slots, its memory has 4096 bytes, a key is awaited for one of the registers only, and
whatever is asked next has an answer as well. -/
theorem bare_boot_run (programStart : UInt16) (keypad : κ) (panel : δ) (random : RandomSource)
    (timers : Timers) (start : Snapshot) :
    let memory : Memory := { Memory.fresh with programStart }
    BareMemory.make.map (·.map ({ · with programStart })) = .ok (.ok memory.bare) ∧
      match boot memory keypad panel random timers start with
      | (.error e, timers') =>
        Bare.boot memory.bare keypad panel random timers start = (.error e, timers') ∧
          stackDepth < start.sp.toNat ∧ e = .stackOverflow start.pc ∧ timers' = timers
      | (.ok m, timers') =>
        Bare.boot memory.bare keypad panel random timers start = (.ok m.bare, timers') ∧
          start.sp.toNat ≤ stackDepth ∧
          timers' = { delay := start.delay, sound := start.sound } ∧
          ∀ actions : List Action,
            m.bare.run actions = .ok (m.run actions).bare ∧
              (m.run actions).bare.sp.toNat ≤ stackDepth ∧
              (m.run actions).bare.memory.size = 4096 ∧
              (∀ x, (m.run actions).bare.awaiting = some x → x.toNat < registerCount) ∧
              (m.run actions).Faultless := by
  intro memory
  refine ⟨by rw [BareMemory.make_eq]; rfl, ?_⟩
  have hbare := Bare.boot_eq memory keypad panel random timers start
  rcases Nat.lt_or_ge stackDepth start.sp.toNat with hdeep | hdepth
  · rw [boot_of_lt memory keypad panel random timers hdeep] at hbare ⊢
    exact ⟨hbare, hdeep, rfl, rfl⟩
  · obtain ⟨m, hboot, hmemory⟩ := boot_of_le memory keypad panel random timers hdepth
    have hglyphs : m.memory.HasGlyphs := by
      rw [hmemory]
      exact (by decide : 0 + 15 * Font.glyphSize < 2 ^ 16)
    rw [hboot] at hbare ⊢
    exact ⟨hbare, hdepth, rfl, fun actions => ⟨bare_run hglyphs actions, bare_sp_le _, rfl,
      fun _ => bare_awaiting_lt _, faultless (hasGlyphs_run hglyphs actions)⟩⟩

end Machine

end Chip8
