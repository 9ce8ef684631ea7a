import Chip8.Proofs.Machine.Effects

set_option relaxedAutoImplicit false
set_option autoImplicit false

/-!
# What programs see of the timers

Programs write both timers but can read only one of them, by one instruction. Every other
instruction does the same whatever the timers hold, and so do the questions to the keypad that a
waiting machine asks: two machines that differ in their timers at most stay that way.

## Main definitions

* `Chip8.Instruction.ReadsTimer` — the word reads a timer.
* `Chip8.Machine.withTimers` — the same machine with other timers.
* `Chip8.Machine.AlikeButTimers` — two machines differ in their timers at most.

## Main results

* `Chip8.Machine.execute_withTimers` — an instruction that reads no timer does the same on
  machines that differ in their timers.
-/

namespace Chip8

/-- The word reads a timer. -/
def Instruction.ReadsTimer (ins : Instruction) : Prop :=
  ins.group = 0xF ∧ ins.nn = 0x07

instance (ins : Instruction) : Decidable ins.ReadsTimer :=
  inferInstanceAs (Decidable (_ ∧ _))

namespace Machine

variable {κ δ : Type}

/-- The same machine with other timers. -/
def withTimers (m : Machine κ δ) (timers : Timers) : Machine κ δ :=
  { m with timers }

/-- The machines differ in their timers at most. -/
def AlikeButTimers (m m' : Machine κ δ) : Prop :=
  m' = m.withTimers m'.timers

variable (m : Machine κ δ) (timers : Timers)

/-! ## Parts of operations -/

theorem ret_withTimers : (m.withTimers timers).ret = (m.ret.1, m.ret.2.withTimers timers) := by
  simp only [ret, withTimers]
  cases m.cpu.stack.pop? with
  | none => rfl
  | some popped => rfl

theorem call_withTimers (target : UInt16) :
    (m.withTimers timers).call target =
      ((m.call target).1, (m.call target).2.withTimers timers) := by
  simp only [call, withTimers]
  cases m.cpu.stack.push? (m.cpu.pc + Instruction.width) with
  | none => rfl
  | some stack => rfl

theorem setResult_withTimers (x : Fin 16) (result : UInt8 × Option Bool) :
    (m.withTimers timers).setResult x result = (m.setResult x result).withTimers timers := by
  rcases result with ⟨v, _ | flag⟩
  · rfl
  · rfl

theorem replaceMemory_withTimers (written : Except Error Memory) :
    (m.withTimers timers).replaceMemory written =
      ((m.replaceMemory written).1, (m.replaceMemory written).2.withTimers timers) := by
  cases written with
  | error e => rfl
  | ok memory => rfl

theorem restore_withTimers (x : Fin 16) :
    (m.withTimers timers).restore x = ((m.restore x).1, (m.restore x).2.withTimers timers) := by
  simp only [restore, withTimers]
  cases m.memory.read m.cpu.index (x.val + 1) with
  | error e => rfl
  | ok data => rfl

theorem advance_withTimers (a : Advance) :
    (m.withTimers timers).advance a = ((m.advance a).1, (m.advance a).2.withTimers timers) := by
  cases a with
  | skipIf condition => cases condition <;> rfl
  | next | jump | wait => rfl

theorem drawSprite_withTimers [Panel δ] (x y : Fin 16) (height : Nat) :
    (m.withTimers timers).drawSprite x y height =
      ((m.drawSprite x y height).1, (m.drawSprite x y height).2.withTimers timers) := by
  simp only [drawSprite, withTimers]
  cases m.memory.read m.cpu.index height with
  | error e => rfl
  | ok sprite => rfl

/-! ## Questions to the keypad -/

section Keypad

variable [Keypad κ]

theorem poll_withTimers : (m.withTimers timers).poll = (m.poll.1, m.poll.2.withTimers timers) :=
  rfl

theorem skipOnKey_withTimers (condition : Option UInt8 → Bool) :
    (m.withTimers timers).skipOnKey condition =
      ((m.skipOnKey condition).1, (m.skipOnKey condition).2.withTimers timers) := by
  rw [skipOnKey, skipOnKey, poll_withTimers]
  rcases m.poll with ⟨_ | _, _⟩
  · rfl
  · rfl

theorem awaitKey_withTimers (x : Fin 16) :
    (m.withTimers timers).awaitKey x =
      ((m.awaitKey x).1, (m.awaitKey x).2.withTimers timers) := by
  rw [awaitKey, awaitKey, poll_withTimers]
  rcases m.poll with ⟨_ | _ | _, _⟩
  · rfl
  · rfl
  · rfl

/-- A wait for a key does the same whatever the timers hold. -/
theorem canProceed_withTimers :
    (m.withTimers timers).canProceed = (m.canProceed.1, m.canProceed.2.withTimers timers) := by
  have hawaiting : (m.withTimers timers).cpu.awaiting = m.cpu.awaiting := rfl
  rw [canProceed, canProceed, hawaiting, poll_withTimers]
  cases m.cpu.awaiting with
  | none => rfl
  | some x =>
    rcases m.poll with ⟨_ | _ | _, _⟩
    · rfl
    · rfl
    · rfl

end Keypad

/-! ## Instructions -/

section Devices

variable [Keypad κ] [Panel δ]

/-- An operation that does not read the delay timer does the same whatever the timers hold. Only
what it leaves in them may depend on that. -/
theorem perform_withTimers {op : Operation} (hop : ∀ x, op ≠ .readDelay x) :
    ∃ timers', (m.withTimers timers).perform op =
      ((m.perform op).1, (m.perform op).2.withTimers timers') := by
  cases op
  case readDelay x => exact absurd rfl (hop x)
  case setDelay | setSound => exact ⟨_, rfl⟩
  case ret => exact ⟨timers, m.ret_withTimers timers⟩
  case call target => exact ⟨timers, m.call_withTimers timers target⟩
  case alu op x y =>
    exact ⟨timers, congrArg (Prod.mk (Except.ok Advance.next)) (m.setResult_withTimers timers x _)⟩
  case draw x y height => exact ⟨timers, m.drawSprite_withTimers timers x y height⟩
  case skipKeyDown | skipKeyUp => exact ⟨timers, m.skipOnKey_withTimers timers _⟩
  case awaitKey x => exact ⟨timers, m.awaitKey_withTimers timers x⟩
  case storeDecimal | save => exact ⟨timers, m.replaceMemory_withTimers timers _⟩
  case restore x => exact ⟨timers, m.restore_withTimers timers x⟩
  all_goals exact ⟨timers, rfl⟩

/-- An instruction that reads no timer does the same whatever the timers hold. -/
theorem execute_withTimers {ins : Instruction} (hins : ¬ ins.ReadsTimer) :
    ∃ timers', (m.withTimers timers).execute ins =
      ((m.execute ins).1, (m.execute ins).2.withTimers timers') := by
  have hwaiting : (m.withTimers timers).isWaiting = m.isWaiting := rfl
  cases hw : m.isWaiting with
  | true =>
    rw [execute_of_isWaiting hw, execute_of_isWaiting (hwaiting.trans hw)]
    exact ⟨timers, rfl⟩
  | false =>
    simp only [execute, hwaiting, hw, Bool.false_eq_true, if_false]
    cases hop : ins.operation? with
    | none => exact ⟨timers, rfl⟩
    | some op =>
      have hread (x : Fin 16) : op ≠ .readDelay x := by
        rintro rfl
        have hcoded := Instruction.operation?_eq_some_iff.1 hop
        exact hins ⟨hcoded.1, hcoded.2.1⟩
      obtain ⟨timers', hp⟩ := m.perform_withTimers timers hread
      refine ⟨timers', ?_⟩
      rcases hm : m.perform op with ⟨e | a, m₁⟩
      · simp only [hp, hm]
      · simp only [hp, hm, advance_withTimers]

end Devices

end Machine

end Chip8
