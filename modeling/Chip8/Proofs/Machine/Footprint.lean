import Chip8.Proofs.Machine.Execute

set_option relaxedAutoImplicit false
set_option autoImplicit false

/-!
# Footprints

The parts of a machine, and which of them an operation may change. An operation leaves every
other part as it was, whether it succeeds or fails.

## Main definitions

* `Chip8.Part` — the parts of a machine.
* `Chip8.Part.Same` — two machines have the same part.
* `Chip8.Operation.parts` — the parts that an operation may change.

## Main results

* `Chip8.Machine.same_canProceed` — a question to the keypad changes few parts.
* `Chip8.Machine.same_perform` — an operation changes its parts only.
* `Chip8.Machine.same_execute` — an instruction changes these and the program counter only.
-/

namespace Chip8

/-- The parts of a machine. -/
inductive Part where
  | registers
  | stack
  | pc
  | index
  | awaiting
  | memory
  | timers
  | keypad
  | screen
  | random
  deriving DecidableEq

namespace Part

variable {κ δ : Type} {m m₁ m₂ : Machine κ δ}

/-- Two machines have the same part. -/
def Same (m m' : Machine κ δ) : Part → Prop
  | registers => m'.cpu.registers = m.cpu.registers
  | stack => m'.cpu.stack = m.cpu.stack
  | pc => m'.cpu.pc = m.cpu.pc
  | index => m'.cpu.index = m.cpu.index
  | awaiting => m'.cpu.awaiting = m.cpu.awaiting
  | memory => m'.memory = m.memory
  | timers => m'.timers = m.timers
  | keypad => m'.keypad = m.keypad
  | screen => m'.screen = m.screen
  | random => m'.random = m.random

theorem Same.refl (m : Machine κ δ) (p : Part) : p.Same m m := by
  cases p <;> rfl

theorem Same.trans {p : Part} (h₁ : p.Same m m₁) (h₂ : p.Same m₁ m₂) : p.Same m m₂ := by
  cases p <;> exact Eq.trans h₂ h₁

end Part

/-- The parts that an operation may change, apart from the program counter that is moved after
it. -/
def Operation.parts : Operation → List Part
  | jump _ | skipEqual .. | skipNotEqual .. | skipSame .. | skipDifferent .. | jumpOffset _ => []
  | ret | call _ => [.stack]
  | load .. | addByte .. | alu .. | readDelay _ | restore _ => [.registers]
  | random .. => [.registers, .random]
  | setIndex _ | glyph _ => [.index]
  | addIndex _ => [.index, .registers]
  | clearScreen => [.screen]
  | draw .. => [.registers, .screen]
  | skipKeyDown _ | skipKeyUp _ => [.keypad]
  | awaitKey _ => [.keypad, .registers, .awaiting]
  | setDelay _ | setSound _ => [.timers]
  | storeDecimal _ | save _ => [.memory]

namespace Machine

variable {κ δ : Type} {p : Part}

/-! ## One part at a time -/

theorem same_setRegister (m : Machine κ δ) (x : Fin 16) (v : UInt8) (hp : p ≠ .registers) :
    p.Same m (m.setRegister x v) := by
  cases p <;> first | rfl | exact absurd rfl hp

theorem same_setStack (m : Machine κ δ) (stack : CallStack) (hp : p ≠ .stack) :
    p.Same m (m.setStack stack) := by
  cases p <;> first | rfl | exact absurd rfl hp

theorem same_setPc (m : Machine κ δ) (pc : UInt16) (hp : p ≠ .pc) : p.Same m (m.setPc pc) := by
  cases p <;> first | rfl | exact absurd rfl hp

theorem same_setIndex (m : Machine κ δ) (index : UInt16) (hp : p ≠ .index) :
    p.Same m (m.setIndex index) := by
  cases p <;> first | rfl | exact absurd rfl hp

theorem same_setAwaiting (m : Machine κ δ) (awaiting : Option (Fin 16)) (hp : p ≠ .awaiting) :
    p.Same m (m.setAwaiting awaiting) := by
  cases p <;> first | rfl | exact absurd rfl hp

theorem same_setResult (m : Machine κ δ) (x : Fin 16) (result : UInt8 × Option Bool)
    (hp : p ≠ .registers) : p.Same m (m.setResult x result) := by
  rcases result with ⟨v, _ | flag⟩
  · exact m.same_setRegister x v hp
  · exact (m.same_setRegister x v hp).trans (same_setRegister _ _ _ hp)

theorem same_restore (m : Machine κ δ) (x : Fin 16) (hp : p ≠ .registers) :
    p.Same m (m.restore x).2 := by
  unfold restore
  split
  · exact .refl m p
  · cases p <;> first | rfl | exact absurd rfl hp

theorem same_timers (m : Machine κ δ) (timers : Timers) (hp : p ≠ .timers) :
    p.Same m { m with timers } := by
  cases p <;> first | rfl | exact absurd rfl hp

theorem same_memory (m : Machine κ δ) (memory : Memory) (hp : p ≠ .memory) :
    p.Same m { m with memory } := by
  cases p <;> first | rfl | exact absurd rfl hp

theorem same_replaceMemory (m : Machine κ δ) (written : Except Error Memory)
    (hp : p ≠ .memory) : p.Same m (m.replaceMemory written).2 := by
  cases written
  · exact .refl m p
  · exact m.same_memory _ hp

theorem same_keypad (m : Machine κ δ) (keypad : κ) (hp : p ≠ .keypad) :
    p.Same m { m with keypad } := by
  cases p <;> first | rfl | exact absurd rfl hp

theorem same_screen (m : Machine κ δ) (screen : Screen δ) (hp : p ≠ .screen) :
    p.Same m { m with screen } := by
  cases p <;> first | rfl | exact absurd rfl hp

theorem same_random (m : Machine κ δ) (random : RandomSource) (hp : p ≠ .random) :
    p.Same m { m with random } := by
  cases p <;> first | rfl | exact absurd rfl hp

theorem same_poll [Keypad κ] (m : Machine κ δ) (hp : p ≠ .keypad) : p.Same m m.poll.2 :=
  m.same_keypad _ hp

/-- Moving the program counter changes nothing else. -/
theorem same_advance (m : Machine κ δ) (a : Advance) (hp : p ≠ .pc) :
    p.Same m (m.advance a).2 := by
  cases a with
  | wait => exact .refl m p
  | next => exact m.same_setPc _ hp
  | jump => exact m.same_setPc _ hp
  | skipIf condition => cases condition <;> exact m.same_setPc _ hp

/-- A question to the keypad, and a key that ends the wait, change these parts only. -/
theorem same_canProceed [Keypad κ] (m : Machine κ δ)
    (hp : p ∉ [.keypad, .registers, .awaiting, .pc]) : p.Same m m.canProceed.2 := by
  simp only [List.mem_cons, List.not_mem_nil, or_false, not_or] at hp
  have hpoll := m.same_poll hp.1
  unfold canProceed
  split
  · exact .refl m p
  · split
    all_goals
      rename_i heq
      rw [heq] at hpoll
    · exact hpoll
    · exact hpoll
    · exact ((hpoll.trans (same_setRegister _ _ _ hp.2.1)).trans
        (same_setAwaiting _ _ hp.2.2.1)).trans (same_setPc _ _ hp.2.2.2)

/-! ## Operations and instructions -/

variable [Keypad κ] [Panel δ]

/-- An operation changes its parts only. -/
theorem same_perform (m : Machine κ δ) {op : Operation} (hp : p ∉ op.parts) :
    p.Same m (m.perform op).2 := by
  cases op <;> simp only [Operation.parts, List.mem_cons, List.not_mem_nil, or_false, not_or] at hp
  case clearScreen => exact m.same_screen _ hp
  case ret =>
    simp only [perform, ret]
    split
    · exact .refl m p
    · exact m.same_setStack _ hp
  case call =>
    simp only [perform, call]
    split
    · exact .refl m p
    · exact m.same_setStack _ hp
  case load | addByte | readDelay => exact m.same_setRegister _ _ hp
  case alu => exact m.same_setResult _ _ hp
  case setIndex | glyph => exact m.same_setIndex _ hp
  case random => exact (m.same_random _ hp.2).trans (same_setRegister _ _ _ hp.1)
  case draw =>
    simp only [perform, drawSprite]
    split
    · exact .refl m p
    · -- the screen is drawn on, the flag is stored, and the screen is shown
      exact ((m.same_screen _ hp.2).trans (same_setRegister _ _ _ hp.1)).trans
        (same_screen _ _ hp.2)
  case skipKeyDown | skipKeyUp =>
    have hpoll := m.same_poll hp
    simp only [perform, skipOnKey]
    split
    all_goals
      rename_i heq
      rwa [heq] at hpoll
  case awaitKey =>
    have hpoll := m.same_poll hp.1
    simp only [perform, awaitKey]
    split
    all_goals
      rename_i heq
      rw [heq] at hpoll
    · exact hpoll
    · exact hpoll.trans (same_setRegister _ _ _ hp.2.1)
    · exact hpoll.trans (same_setAwaiting _ _ hp.2.2)
  case setDelay | setSound => exact m.same_timers _ hp
  case addIndex => exact (m.same_setIndex _ hp.1).trans (same_setRegister _ _ _ hp.2)
  case storeDecimal | save => exact m.same_replaceMemory _ hp
  case restore => exact m.same_restore _ hp
  all_goals exact .refl m p

/-- An instruction changes the parts of its operation and the program counter only. -/
theorem same_execute (m : Machine κ δ) {ins : Instruction}
    (hop : ∀ op, ins.operation? = some op → p ∉ op.parts) (hpc : p ≠ .pc) :
    p.Same m (m.execute ins).2 := by
  rcases h : m.execute ins with ⟨e | step, m'⟩
  · obtain ⟨-, ⟨-, -, rfl⟩ | ⟨op, hsome, hp⟩⟩ := execute_eq_error h
    · exact .refl m' p
    · have hsame := m.same_perform (hop op hsome)
      rwa [hp] at hsame
  · obtain ⟨-, -, rfl⟩ | ⟨-, op, a, m₁, hsome, hp, ha⟩ := execute_eq_ok h
    · exact .refl m' p
    · have hsame := m.same_perform (hop op hsome)
      have hmoved := m₁.same_advance a hpc
      rw [hp] at hsame
      rw [ha] at hmoved
      exact hsame.trans hmoved

end Machine

end Chip8
