import Chip8.Console.Basic
import Chip8.Proofs.Decoding
import Chip8.Proofs.Machine.Execute

set_option relaxedAutoImplicit false
set_option autoImplicit false

/-!
# Waiting for a key

A key gets into its register in one of two ways: the instruction that asks for it finds it down,
or it begins to wait and a later step finds it. Both lead to the same machine, so that a program
cannot tell how long the key took.

## Main definitions

* `Chip8.Keypad.asked` — a keypad that was asked some times.
* `Chip8.Console.after` — a console after some steps.
* `Chip8.Console.onKeypad` — the same console with another keypad.
* `Chip8.Console.suspended` — a console that waits for a key.

## Main results

* `Chip8.Console.step_after_of_silent` — while no key is down, nothing else happens.
* `Chip8.Console.step_after_wait` — the step that finds the key is the step after an instruction
  that found it at once.
-/

namespace Chip8

/-- A keypad that was asked `k` times. -/
def Keypad.asked {κ : Type} [Keypad κ] (p : κ) : Nat → κ
  | 0 => p
  | k + 1 => (Keypad.poll (asked p k)).2

namespace Machine

variable {κ δ : Type} [Keypad κ] [Panel δ] {m : Machine κ δ} {ins : Instruction} {keypad : κ}

/-- The instruction that asks for a key begins to wait if there is none. -/
theorem execute_awaitKey_of_silent (hw : m.isWaiting = false) (hgroup : ins.group = 0xF)
    (hbyte : ins.nn = 0x0A) (hp : Keypad.poll m.keypad = (.ok none, keypad)) :
    m.execute ins = (.ok .waiting, { m with keypad }.setAwaiting (some ins.x)) := by
  have hop : ins.operation? = some (.awaitKey ins.x) :=
    Instruction.operation?_eq_some_iff.2 ⟨hgroup, hbyte, rfl⟩
  have hwait : m.perform (.awaitKey ins.x) =
      (.ok .wait, { m with keypad }.setAwaiting (some ins.x)) := by
    simp only [perform, awaitKey, poll_of_ok hp]
  exact execute_of_perform_ok hw hop hwait

/-- The instruction that asks for a key takes it if there is one. -/
theorem execute_awaitKey_of_key {key : UInt8} (hw : m.isWaiting = false)
    (hgroup : ins.group = 0xF) (hbyte : ins.nn = 0x0A)
    (hp : Keypad.poll m.keypad = (.ok (some key), keypad)) :
    m.execute ins = (.ok .executed, m.resumed ins.x key keypad) := by
  have hop : ins.operation? = some (.awaitKey ins.x) :=
    Instruction.operation?_eq_some_iff.2 ⟨hgroup, hbyte, rfl⟩
  have htaken : m.perform (.awaitKey ins.x) =
      (.ok .next, { m with keypad }.setRegister ins.x key) := by
    simp only [perform, awaitKey, poll_of_ok hp]
  rw [execute_of_perform_ok hw hop htaken]
  -- the wait that ends was never begun
  simp only [advance, resumed, setAwaiting, ← isWaiting_eq_false_iff.1 hw]
  rfl

end Machine

namespace Console

variable {κ δ σ : Type}

/-- The same console with another keypad. -/
def onKeypad (c : Console κ δ σ) (keypad : κ) : Console κ δ σ :=
  { c with machine := { c.machine with keypad } }

/-- A console that waits for a key for register `x`, with a keypad that was asked for it. -/
def suspended (c : Console κ δ σ) (x : Fin 16) (keypad : κ) : Console κ δ σ :=
  { c with machine := { c.machine with keypad }.setAwaiting (some x) }

variable [Keypad κ] [Panel δ]

/-- A console after `k` steps, whether they succeeded or not. -/
def after (c : Console κ δ σ) : Nat → Console κ δ σ
  | 0 => c
  | k + 1 => (c.after k).step.2

/-- Some steps are one step and then the rest. -/
theorem after_succ (c : Console κ δ σ) (k : Nat) : c.after (k + 1) = c.step.2.after k := by
  induction k with
  | zero => rfl
  | succ k ih => rw [after, ih, ← after]

/-! ## One step -/

/-- A step depends on the machine only through what it proceeds with. -/
theorem step_congr {c c' : Console κ δ σ} (hp : c.machine.canProceed = c'.machine.canProceed)
    (hrest : { c with machine := c'.machine } = c') : c.step = c'.step := by
  rw [← hrest] at hp ⊢
  simp only [step, ← hp]

/-- A console that takes an instruction executes the one at its program counter. -/
theorem step_of_execute {c : Console κ δ σ} {ins : Instruction} {s : Step} {m : Machine κ δ}
    (hw : c.machine.isWaiting = false) (htrace : c.trace = none)
    (hfetch : c.machine.fetch = .ok ins) (hrun : c.machine.execute ins = (.ok s, m)) :
    c.step = (.ok s, { c with machine := m }) := by
  simp only [step, Machine.canProceed_of_not_isWaiting hw, hfetch, hrun, record, htrace]
  rfl

/-- A console that waits goes on waiting if there is no key. -/
theorem step_suspended_of_silent (c : Console κ δ σ) (x : Fin 16) {p q : κ}
    (hp : Keypad.poll p = (.ok none, q)) :
    (c.suspended x p).step = (.ok .waiting, c.suspended x q) := by
  have hproceed : (c.suspended x p).machine.canProceed =
      (.ok false, (c.suspended x q).machine) := Machine.canProceed_of_silent rfl hp
  simp only [step, hproceed]
  rfl

/-! ## Many steps -/

section Wait

variable {c : Console κ δ σ} {ins : Instruction} {late early : κ} {k : Nat}

/-- While no key is down, nothing but the wait happens.

**Proof sketch.** Induction on the number of steps: the first one executes the instruction and
begins to wait, and each later one asks once more. -/
theorem step_after_of_silent (hw : c.machine.isWaiting = false) (htrace : c.trace = none)
    (hfetch : c.machine.fetch = .ok ins) (hgroup : ins.group = 0xF) (hbyte : ins.nn = 0x0A)
    (hsilent : ∀ i < k, (Keypad.poll (Keypad.asked late i)).1 = .ok none) :
    ∀ j < k, ((c.onKeypad late).after j).step =
      (.ok .waiting, c.suspended ins.x (Keypad.asked late (j + 1))) := by
  intro j
  induction j with
  | zero =>
    intro hj
    have hp : Keypad.poll late = (.ok none, Keypad.asked late 1) := Prod.ext (hsilent 0 hj) rfl
    have hrun : (c.onKeypad late).machine.execute ins =
        (.ok .waiting, (c.suspended ins.x (Keypad.asked late 1)).machine) :=
      Machine.execute_awaitKey_of_silent hw hgroup hbyte hp
    exact step_of_execute hw htrace hfetch hrun
  | succ j ih =>
    intro hj
    have hp : Keypad.poll (Keypad.asked late (j + 1)) = (.ok none, Keypad.asked late (j + 2)) :=
      Prod.ext (hsilent (j + 1) hj) rfl
    rw [after, ih (by omega)]
    exact step_suspended_of_silent c ins.x hp

/-- **Waiting cannot be told from finding the key at once.** A console whose next instruction asks
for a key is given a keypad that has none for `k` questions and then has one. The first `k` steps
do nothing but wait; the step after them gives the same result and the same console as the second
step with a keypad that has the key at once and goes on in the same way. -/
theorem step_after_wait {key : UInt8} (hw : c.machine.isWaiting = false) (htrace : c.trace = none)
    (hfetch : c.machine.fetch = .ok ins) (hgroup : ins.group = 0xF) (hbyte : ins.nn = 0x0A)
    (hk : 1 ≤ k) (hsilent : ∀ i < k, (Keypad.poll (Keypad.asked late i)).1 = .ok none)
    (hlate : (Keypad.poll (Keypad.asked late k)).1 = .ok (some key))
    (hearly : Keypad.poll early = (.ok (some key), Keypad.asked late (k + 1))) :
    (∀ j < k, ((c.onKeypad late).after j).step.1 = .ok .waiting ∧
      (c.onKeypad late).after (j + 1) = c.suspended ins.x (Keypad.asked late (j + 1))) ∧
    (c.onKeypad early).step.1 = .ok .executed ∧
    ((c.onKeypad late).after k).step = ((c.onKeypad early).after 1).step := by
  have hwait := step_after_of_silent hw htrace hfetch hgroup hbyte hsilent
  have hrun : (c.onKeypad early).machine.execute ins =
      (.ok .executed, c.machine.resumed ins.x key (Keypad.asked late (k + 1))) :=
    Machine.execute_awaitKey_of_key hw hgroup hbyte hearly
  have hfirst : (c.onKeypad early).step = (.ok .executed,
      { c with machine := c.machine.resumed ins.x key (Keypad.asked late (k + 1)) }) :=
    step_of_execute hw htrace hfetch hrun
  refine ⟨fun j hj => ⟨?_, ?_⟩, ?_, ?_⟩
  · rw [hwait j hj]
  · rw [after, hwait j hj]
  · rw [hfirst]
  · obtain ⟨j, rfl⟩ : ∃ j, k = j + 1 := ⟨k - 1, by omega⟩
    have hsuspended : (c.onKeypad late).after (j + 1) =
        c.suspended ins.x (Keypad.asked late (j + 1)) := by
      rw [after, hwait j (Nat.lt_succ_self j)]
    have hp : Keypad.poll (Keypad.asked late (j + 1)) =
        (.ok (some key), Keypad.asked late (j + 2)) := Prod.ext hlate rfl
    rw [hsuspended, after, after, hfirst]
    -- both consoles proceed with the machine into which the key came
    refine step_congr ?_ rfl
    exact (Machine.canProceed_of_key rfl hp).trans
      (Machine.canProceed_of_not_isWaiting rfl).symm

/-- A program that asks for two keys: the first one is found by the third question, and then the
machine waits for the second one as if the first had been down at once. -/
theorem step_after_wait_third :
    let c : Console ScriptedKeypad NoPanel Mute := ((Console.start {} ⟨[]⟩ NoPanel.mk Mute.mk
      (RandomSource.seeded 0) none).loadProgram (Source.ofBytes [0xF3, 0x0A, 0xF4, 0x0A])).2
    let late : ScriptedKeypad := ⟨[none, none, some 7, none, some 9]⟩
    let early : ScriptedKeypad := ⟨[some 7, none, some 9]⟩
    ((c.onKeypad late).after 1).step.1 = .ok .waiting ∧
      ((c.onKeypad late).after 2).step = ((c.onKeypad early).after 1).step ∧
      ((c.onKeypad early).after 2).machine.register 3 = 7 ∧
      ((c.onKeypad early).after 2).machine.cpu.awaiting = some 4 := by
  intro c late early
  have hread : c.machine.memory.read c.machine.cpu.pc 2 = .ok [0xF3, 0x0A] :=
    Memory.read_eq_ok_iff.2 ⟨by decide, by decide +kernel⟩
  have hfetch : c.machine.fetch = .ok ⟨0xF3, 0x0A⟩ := congrArg (·.bind Instruction.ofBytes) hread
  have hsilent : ∀ i < 2, (Keypad.poll (Keypad.asked late i)).1 = .ok none := by
    intro i hi
    obtain rfl | rfl : i = 0 ∨ i = 1 := by omega
    · rfl
    · rfl
  have hearly : Keypad.poll early = (.ok (some 7), Keypad.asked late 3) := rfl
  obtain ⟨hwaits, -, hsame⟩ :=
    step_after_wait rfl rfl hfetch (by decide) (by decide) (by decide) hsilent rfl hearly
  exact ⟨(hwaits 1 (by decide)).1, hsame, by decide +kernel, by decide +kernel⟩

end Wait

end Console

end Chip8
