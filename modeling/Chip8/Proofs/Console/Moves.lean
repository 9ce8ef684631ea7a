import Chip8.Proofs.Console.Waiting
import Mathlib.Data.List.Induction

set_option relaxedAutoImplicit false
set_option autoImplicit false

/-!
# What happens to a console

A console that is run takes steps, its timers tick, programs are loaded, and its user does things
to the keypad, in any order. A step goes one of five ways, which depend on the keypad, the memory
and the instruction, in this order.

## Main definitions

* `Chip8.Machine.Proceeds` — a machine takes an instruction, if need be after a key ended its wait.
* `Chip8.Console.Takes` — what a step comes to.
* `Chip8.Console.Move`, `Chip8.Console.play` — what can happen to a console, and the console after
  it.

## Main results

* `Chip8.Console.takes_of_step`, `Chip8.Console.Takes.step_eq` — a step goes one of the five ways.
* `Chip8.Console.step_of_proceeds` — a step that a key lets go on is the step of the console as the
  key made it.
* `Chip8.Console.step_invariant`, `Chip8.Console.play_invariant` — what holds after a step, and
  along every run.
-/

namespace Chip8

namespace Machine

variable {κ δ : Type} [Keypad κ] {m m' : Machine κ δ}

/-- The machine takes an instruction as `m'`: either it does not wait and is `m'` itself, or a key
ends its wait and makes it `m'`. -/
inductive Proceeds (m : Machine κ δ) : Machine κ δ → Prop
  /-- It does not wait. -/
  | awake (hx : m.cpu.awaiting = none) : Proceeds m m
  /-- A key ends its wait. -/
  | key {x : Fin 16} {key : UInt8} {keypad : κ} (hx : m.cpu.awaiting = some x)
    (hpoll : Keypad.poll m.keypad = (.ok (some key), keypad)) :
    Proceeds m (m.resumed x key keypad)

theorem Proceeds.canProceed_eq (h : m.Proceeds m') : m.canProceed = (.ok true, m') := by
  cases h with
  | awake hx => exact canProceed_of_not_isWaiting (isWaiting_eq_false_iff.2 hx)
  | key hx hpoll => exact canProceed_of_key hx hpoll

/-- A machine that takes an instruction does not wait any more. -/
theorem Proceeds.awaiting_eq (h : m.Proceeds m') : m'.cpu.awaiting = none := by
  cases h with
  | awake hx => exact hx
  | key hx hpoll => rfl

theorem Proceeds.isWaiting_eq (h : m.Proceeds m') : m'.isWaiting = false :=
  isWaiting_eq_false_iff.2 h.awaiting_eq

end Machine

namespace Console

variable {κ δ σ : Type}

/-- The same console with another machine. -/
def onMachine (c : Console κ δ σ) (machine : Machine κ δ) : Console κ δ σ :=
  { c with machine }

/-- The same console with another trace, or with none. -/
def onTrace (c : Console κ δ σ) (trace : Option Sink) : Console κ δ σ :=
  { c with trace }

/-- A program is loaded into memory and nowhere else. -/
theorem machine_loadProgram (c : Console κ δ σ) (source : Source) :
    ∃ memory, (c.loadProgram source).2.machine = { c.machine with memory } := by
  simp only [loadProgram, Machine.loadProgram]
  split
  · exact ⟨_, rfl⟩
  · exact ⟨_, rfl⟩

/-- A program is loaded beside the processor. -/
theorem cpu_loadProgram (c : Console κ δ σ) (source : Source) :
    (c.loadProgram source).2.machine.cpu = c.machine.cpu := by
  obtain ⟨memory, hload⟩ := c.machine_loadProgram source
  rw [hload]

/-- The trace is written beside the machine. -/
theorem machine_record (c : Console κ δ σ) (pc : UInt16) (ins : Instruction) :
    (c.record pc ins).2.machine = c.machine := by
  unfold record
  split
  · rfl
  · rfl

section Step

variable [Keypad κ] [Panel δ] {c c' : Console κ δ σ} {r : Except Error Step}

/-- What a step comes to: its answer, and the console after it. -/
inductive Takes (c : Console κ δ σ) : Except Error Step → Console κ δ σ → Prop
  /-- The machine waits for a key, and the keypad fails. -/
  | unheard {x : Fin 16} {e : IoError} {keypad : κ} (hx : c.machine.cpu.awaiting = some x)
    (hpoll : Keypad.poll c.machine.keypad = (.error e, keypad)) :
    Takes c (.error (.io e)) (c.onKeypad keypad)
  /-- The machine waits for a key, and there is none. -/
  | silent {x : Fin 16} {keypad : κ} (hx : c.machine.cpu.awaiting = some x)
    (hpoll : Keypad.poll c.machine.keypad = (.ok none, keypad)) :
    Takes c (.ok .waiting) (c.onKeypad keypad)
  /-- There is no instruction at the program counter. -/
  | lost {m : Machine κ δ} {e : Error} (hm : c.machine.Proceeds m) (hfetch : m.fetch = .error e) :
    Takes c (.error e) (c.onMachine m)
  /-- The instruction fails. -/
  | refused {m m' : Machine κ δ} {ins : Instruction} {e : Error} (hm : c.machine.Proceeds m)
    (hfetch : m.fetch = .ok ins) (hrun : m.execute ins = (.error e, m')) :
    Takes c (.error e) (c.onMachine m')
  /-- The instruction succeeds, and then it is recorded. -/
  | done {m m' : Machine κ δ} {ins : Instruction} {s : Step} (hm : c.machine.Proceeds m)
    (hfetch : m.fetch = .ok ins) (hrun : m.execute ins = (.ok s, m')) :
    Takes c (((c.onMachine m').record m.cpu.pc ins).1.map fun _ => s)
      ((c.onMachine m').record m.cpu.pc ins).2

/-- Each of these ways is how the step goes. -/
theorem Takes.step_eq (h : c.Takes r c') : c.step = (r, c') := by
  cases h with
  | unheard hx hpoll =>
    simp only [step, Machine.canProceed, hx, Machine.poll_of_error hpoll]
    rfl
  | silent hx hpoll =>
    simp only [step, Machine.canProceed_of_silent hx hpoll]
    rfl
  | lost hm hfetch =>
    simp only [step, hm.canProceed_eq, hfetch]
    rfl
  | refused hm hfetch hrun =>
    simp only [step, hm.canProceed_eq, hfetch, hrun]
    rfl
  | done hm hfetch hrun =>
    simp only [step, hm.canProceed_eq, hfetch, hrun]
    rfl

/-- A console that takes an instruction goes one of three ways. -/
theorem takes_of_proceeds {m : Machine κ δ} (hm : c.machine.Proceeds m) (h : c.step = (r, c')) :
    c.Takes r c' := by
  have hproceed := hm.canProceed_eq
  cases hfetch : m.fetch with
  | error e =>
    simp only [step, hproceed, hfetch] at h
    cases h
    exact .lost hm hfetch
  | ok ins =>
    rcases hrun : m.execute ins with ⟨e | s, m'⟩
    · simp only [step, hproceed, hfetch, hrun] at h
      cases h
      exact .refused hm hfetch hrun
    · simp only [step, hproceed, hfetch, hrun] at h
      cases h
      exact .done hm hfetch hrun

/-- A step goes one of these ways. -/
theorem takes_of_step (h : c.step = (r, c')) : c.Takes r c' := by
  cases hx : c.machine.cpu.awaiting with
  | none => exact takes_of_proceeds (.awake hx) h
  | some x =>
    rcases hpoll : Keypad.poll c.machine.keypad with ⟨e | _ | key, keypad⟩
    · simp only [step, Machine.canProceed, hx, Machine.poll_of_error hpoll] at h
      cases h
      exact .unheard hx hpoll
    · simp only [step, Machine.canProceed_of_silent hx hpoll] at h
      cases h
      exact .silent hx hpoll
    · exact takes_of_proceeds (.key hx hpoll) h

theorem takes_step (c : Console κ δ σ) : c.Takes c.step.1 c.step.2 :=
  takes_of_step rfl

/-- A step with a wait that a key ends is the step of the console as the key made it. -/
theorem step_of_proceeds {m : Machine κ δ} (hm : c.machine.Proceeds m) :
    c.step = (c.onMachine m).step :=
  step_congr (hm.canProceed_eq.trans
    (Machine.canProceed_of_not_isWaiting hm.isWaiting_eq).symm) rfl

/-- A step keeps what questions to the keypad, the end of a wait and instructions keep. -/
theorem step_invariant {P : Machine κ δ → Prop}
    (hasked : ∀ keypad, P { c.machine with keypad })
    (hproceeds : ∀ m, c.machine.Proceeds m → P m)
    (hexecute : ∀ m ins, P m → m.cpu.awaiting = none → m.fetch = .ok ins → P (m.execute ins).2) :
    P c.step.2.machine := by
  rcases hstep : c.step with ⟨r, c'⟩
  cases takes_of_step hstep with
  | unheard | silent => exact hasked _
  | lost hm => exact hproceeds _ hm
  | refused hm hfetch hrun =>
    have hafter := hexecute _ _ (hproceeds _ hm) hm.awaiting_eq hfetch
    rwa [hrun] at hafter
  | done hm hfetch hrun =>
    have hafter := hexecute _ _ (hproceeds _ hm) hm.awaiting_eq hfetch
    rw [hrun] at hafter
    rwa [machine_record]

end Step

/-! ## Moves -/

/-- What can happen to a console. -/
inductive Move (κ : Type) where
  /-- It takes a step. -/
  | step
  /-- Its timers tick. -/
  | beat
  /-- A program is loaded. -/
  | load (source : Source)
  /-- Its user does something to the keypad, be it only to let time pass. -/
  | use (used : κ → κ)

variable [Keypad κ] [Panel δ] [Speaker σ]

/-- The console after something happened to it, whether a step or a load succeeded or not. -/
def moved (c : Console κ δ σ) : Move κ → Console κ δ σ
  | .step => c.step.2
  | .beat => c.beat
  | .load source => (c.loadProgram source).2
  | .use used => c.onKeypad (used c.machine.keypad)

/-- The console after all that happened to it. -/
def play (c : Console κ δ σ) (moves : List (Move κ)) : Console κ δ σ :=
  moves.foldl moved c

@[simp] theorem play_concat (c : Console κ δ σ) (moves : List (Move κ)) (mv : Move κ) :
    c.play (moves ++ [mv]) = (c.play moves).moved mv := by
  simp [play]

/-- What every move keeps holds along every run. -/
theorem play_invariant {P : Console κ δ σ → Prop} {c : Console κ δ σ} (hstart : P c)
    (hmoved : ∀ c mv, P c → P (c.moved mv)) (moves : List (Move κ)) : P (c.play moves) := by
  induction moves using List.reverseRecOn with
  | nil => exact hstart
  | append_singleton moves mv ih =>
    rw [play_concat]
    exact hmoved _ mv ih

end Console

end Chip8
