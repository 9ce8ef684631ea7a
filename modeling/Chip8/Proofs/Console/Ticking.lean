import Chip8.Console.Basic
import Chip8.Proofs.Machine.Timing

set_option relaxedAutoImplicit false
set_option autoImplicit false

/-!
# Ticks between steps

The timers of a console that is run tick between its steps, as often as they happen to. A program
finds out about that only when it reads a timer: until then two consoles that started alike stay
alike, however often the timers of each tick, and whatever was done to the keypads of both.

## Main definitions

* `Chip8.Console.executing?` — the instruction that the next step executes.
* `Chip8.Console.meanwhile` — what happens between two steps.
* `Chip8.Console.ticking` — a console after some steps, with ticks between them.
* `Chip8.Console.InStep` — two consoles without traces that differ in their timers at most.

## Main results

* `Chip8.Console.InStep.step` — a step that reads no timer is the same on both.
* `Chip8.Console.ticks_do_not_interfere` — so are all steps before a timer is read.
-/

namespace Chip8

namespace Console

variable {κ δ σ : Type} {c c' : Console κ δ σ}

/-- The consoles write no traces, and their machines differ in their timers at most. Their clocks
and speakers may differ. -/
structure InStep (c c' : Console κ δ σ) : Prop where
  /-- The machines differ in their timers at most. -/
  machine : c.machine.AlikeButTimers c'.machine
  /-- The first console writes no trace. -/
  untraced : c.trace = none
  /-- The second console writes no trace. -/
  untraced' : c'.trace = none

/-- What happens between two steps: the user does something to the keypad, be it only to let time
pass, and then the timers tick. -/
def meanwhile [Speaker σ] (c : Console κ δ σ) (used : κ → κ) (ticks : Nat) : Console κ δ σ :=
  { c with machine := { c.machine with keypad := used c.machine.keypad } }.beats ticks

/-- Whatever the clocks do, the consoles stay in step if the same is done to both keypads. -/
theorem InStep.meanwhile [Speaker σ] (h : c.InStep c') (used : κ → κ) (ticks ticks' : Nat) :
    (c.meanwhile used ticks).InStep (c'.meanwhile used ticks') := by
  refine ⟨?_, h.untraced, h.untraced'⟩
  obtain ⟨timers, hmachine⟩ : ∃ timers, c'.machine = c.machine.withTimers timers :=
    ⟨_, h.machine⟩
  simp only [Console.meanwhile, beats, hmachine]
  rfl

variable [Keypad κ] [Panel δ]

/-- The instruction that the next step executes, if it gets to one. -/
def executing? (c : Console κ δ σ) : Option Instruction :=
  match c.machine.canProceed with
  | (.ok true, machine) => machine.fetch.toOption
  | _ => none

/-- A console after `k` steps, successful or not. After each of them something is done to the
keypad and the timers tick some times. -/
def ticking [Speaker σ] (c : Console κ δ σ) (used : Nat → κ → κ) (ticks : Nat → Nat) :
    Nat → Console κ δ σ
  | 0 => c
  | k + 1 => (c.ticking used ticks k).step.2.meanwhile (used k) (ticks k)

/-- A step that reads no timer does the same on both consoles. -/
theorem InStep.step (h : c.InStep c')
    (hread : ∀ ins, c.executing? = some ins → ¬ ins.ReadsTimer) :
    c'.step.1 = c.step.1 ∧ c.step.2.InStep c'.step.2 := by
  obtain ⟨hmachine, hc, hc'⟩ := h
  have hproceed : c'.machine.canProceed =
      (c.machine.canProceed.1, c.machine.canProceed.2.withTimers c'.machine.timers) := by
    rw [hmachine]
    exact c.machine.canProceed_withTimers _
  rcases hp : c.machine.canProceed with ⟨e | _ | _, m⟩
  · simp only [Console.step, hproceed, hp]
    exact ⟨trivial, rfl, hc, hc'⟩
  · simp only [Console.step, hproceed, hp]
    exact ⟨trivial, rfl, hc, hc'⟩
  have hfetch : (m.withTimers c'.machine.timers).fetch = m.fetch := rfl
  cases hf : m.fetch with
  | error e =>
    simp only [Console.step, hproceed, hp, hfetch, hf]
    exact ⟨trivial, rfl, hc, hc'⟩
  | ok ins =>
    have hins : ¬ ins.ReadsTimer := hread ins (by simp only [executing?, hp, hf]; rfl)
    obtain ⟨timers, hrun⟩ := m.execute_withTimers c'.machine.timers hins
    rcases hm : m.execute ins with ⟨e | s, after⟩
    · simp only [Console.step, hproceed, hp, hfetch, hf, hrun, hm]
      exact ⟨trivial, rfl, hc, hc'⟩
    · simp only [Console.step, hproceed, hp, hfetch, hf, hrun, hm, record, hc, hc']
      exact ⟨trivial, rfl, rfl, rfl⟩

variable [Speaker σ]

/-- Until a timer is read the consoles stay in step.

**Proof sketch.** Induction on the number of steps: a step keeps the consoles in step, and so does
what happens after it. -/
theorem InStep.ticking (h : c.InStep c') (used : Nat → κ → κ) (ticks ticks' : Nat → Nat)
    {k : Nat} (hread : ∀ j < k, ∀ ins, (c.ticking used ticks j).executing? = some ins →
      ¬ ins.ReadsTimer) :
    (c.ticking used ticks k).InStep (c'.ticking used ticks' k) := by
  induction k with
  | zero => exact h
  | succ k ih =>
    have hbefore := ih fun j hj => hread j (Nat.lt_succ_of_lt hj)
    exact (hbefore.step (hread k k.lt_succ_self)).2.meanwhile (used k) (ticks k) (ticks' k)

/-- **Ticks do not interfere with a program that reads no timer.** Two consoles without traces
start alike but for their timers, and their users do the same to both keypads between the steps,
but their timers tick at different times. As long as no step of the first console executes an
instruction that reads a timer, each step gives the same result on both, and after each step the
machines differ in their timers at most. -/
theorem ticks_do_not_interfere (h : c.InStep c') (used : Nat → κ → κ) (ticks ticks' : Nat → Nat)
    {n : Nat} (hread : ∀ k < n, ∀ ins, (c.ticking used ticks k).executing? = some ins →
      ¬ ins.ReadsTimer) :
    ∀ k < n, (c'.ticking used ticks' k).step.1 = (c.ticking used ticks k).step.1 ∧
      (c.ticking used ticks k).step.2.machine.AlikeButTimers
        (c'.ticking used ticks' k).step.2.machine := by
  intro k hk
  have hbefore := h.ticking used ticks ticks' fun j hj => hread j (Nat.lt_trans hj hk)
  obtain ⟨hresult, hafter⟩ := hbefore.step (hread k hk)
  exact ⟨hresult, hafter.machine⟩

/-- A program that sets the delay timer and then waits for two keys, of which the second takes a
question more. One clock stands still and the other one is fast; the second key comes at the same
step on both. -/
theorem ticks_do_not_interfere_with_waits :
    let c : Console ScriptedKeypad NoPanel Mute := ((Console.start {} ⟨[some 7, none, some 9]⟩
      NoPanel.mk Mute.mk (RandomSource.seeded 0) none).loadProgram
      (Source.ofBytes [0x60, 0x05, 0xF0, 0x15, 0xF1, 0x0A, 0xF2, 0x0A, 0x00, 0xE0])).2
    let slow := c.ticking (fun _ keypad => keypad) fun _ => 0
    let fast := c.ticking (fun _ keypad => keypad) fun k => k + 1
    (fast 3).step.1.toOption = some .waiting ∧ (fast 4).step.1.toOption = some .executed ∧
      (slow 4).step.2.machine.AlikeButTimers (fast 4).step.2.machine ∧
      (slow 4).step.2.machine.timers.delay = 5 ∧ (fast 4).step.2.machine.timers.delay = 0 := by
  intro c slow fast
  have hstart : c.InStep c := ⟨rfl, rfl, rfl⟩
  -- evaluated at once, since the steps are the same
  obtain ⟨hread, hthird, hfourth, hslow, hfast⟩ :
      (∀ k < 5, ∀ ins ∈ (slow k).executing?, ¬ ins.ReadsTimer) ∧
        (slow 3).step.1.toOption = some .waiting ∧ (slow 4).step.1.toOption = some .executed ∧
        (slow 4).step.2.machine.timers.delay = 5 ∧ (fast 4).step.2.machine.timers.delay = 0 := by
    decide +kernel
  have hsame := ticks_do_not_interfere hstart (fun _ keypad => keypad) (fun _ => 0)
    (fun k => k + 1) hread
  refine ⟨?_, ?_, (hsame 4 (by decide)).2, hslow, hfast⟩
  · rw [(hsame 3 (by decide)).1]
    exact hthird
  · rw [(hsame 4 (by decide)).1]
    exact hfourth

end Console

end Chip8
