import Chip8.Keypad.Terminal
import Chip8.Proofs.Console.Loop
import Chip8.Proofs.Console.Moves
import Chip8.Proofs.Machine.Devices

set_option relaxedAutoImplicit false
set_option autoImplicit false

/-!
# Stopping at the escape key

A terminal tells the keypad that the escape key was typed when the keypad reads it, and the keypad
reads only while the machine asks it for a key. So the main loop does not stop when the user asks
it to, but after the next step that asks for a key, and never if there is none.

## Main definitions

* `Chip8.TerminalKeypad.EscapeAhead` — the next question to the keypad comes upon the escape key.
* `Chip8.Console.Asks` — the next step asks the keypad.

## Main results

* `Chip8.Console.keypad_step` — the keypad is asked by exactly those steps.
* `Chip8.Console.mainLoop_escape` — which step is the last one after the escape key was typed.
* `Chip8.Console.mainLoop_never_quits` — a program that the escape key does not stop.
-/

namespace Chip8

/-! ## The keypad -/

namespace TerminalKeypad

variable {k : TerminalKeypad}

/-- The next question to the keypad comes upon the escape key: nothing before it makes the keypad
look no further. -/
def EscapeAhead (k : TerminalKeypad) : Prop :=
  ∃ (before : List TerminalEvent) (rest : List Signal),
    k.pending = before.map Signal.event ++ .event .escape :: rest

/-- An event never takes back a wish to stop. -/
theorem quit_take (hquit : k.quit = true) (e : TerminalEvent) : (k.take e).quit = true := by
  cases e with
  | character c =>
    simp only [take]
    split
    · exact hquit
    · exact hquit
  | escape => rfl
  | otherKey | resize | other => exact hquit

theorem quit_drain (hquit : k.quit = true) (signals : List Signal) :
    (k.drain signals).2.quit = true := by
  induction signals generalizing k with
  | nil => exact hquit
  | cons signal rest ih =>
    cases signal with
    | event e => exact ih (quit_take hquit e)
    | pause => exact hquit
    | failure e => exact hquit

/-- The escape key is read if only events come before it. -/
theorem quit_drain_of_escape (before : List TerminalEvent) (rest : List Signal) :
    (k.drain (before.map Signal.event ++ .event .escape :: rest)).2.quit = true := by
  induction before generalizing k with
  | nil => exact quit_drain rfl rest
  | cons e before ih => exact ih

theorem poll_snd (k : TerminalKeypad) : (Keypad.poll k).2 = (k.drain k.pending).2 := by
  simp only [Keypad.poll]
  rcases k.drain k.pending with ⟨_ | _, _⟩
  · rfl
  · rfl

theorem quit_poll (hquit : k.quit = true) : (Keypad.poll k).2.quit = true := by
  rw [poll_snd]
  exact quit_drain hquit _

theorem quit_poll_of_escapeAhead (hesc : k.EscapeAhead) : (Keypad.poll k).2.quit = true := by
  obtain ⟨before, rest, hpending⟩ := hesc
  rw [poll_snd, hpending]
  exact quit_drain_of_escape before rest

/-- However often it is asked, the keypad remembers the escape key. -/
theorem quit_asked (hesc : k.EscapeAhead) (n : Nat) : (Keypad.asked k (n + 1)).quit = true := by
  induction n with
  | zero => exact quit_poll_of_escapeAhead hesc
  | succ n ih => exact quit_poll ih

theorem quit_asked_of_quit (hquit : k.quit = true) (n : Nat) : (Keypad.asked k n).quit = true := by
  induction n with
  | zero => exact hquit
  | succ n ih => exact quit_poll ih

end TerminalKeypad

/-! ## Which steps ask the keypad -/

theorem Keypad.asked_succ {κ : Type} [Keypad κ] (p : κ) (k : Nat) :
    asked p (k + 1) = asked (Keypad.poll p).2 k := by
  induction k with
  | zero => rfl
  | succ k ih => rw [asked, ih, ← asked]

/-- An instruction asks the keypad once or not at all, and its word tells which. -/
theorem Machine.keypad_execute {κ δ : Type} [Keypad κ] [Panel δ] {m : Machine κ δ}
    (hw : m.isWaiting = false) (ins : Instruction) :
    (m.execute ins).2.keypad =
      if ins.AsksKeypad then (Keypad.poll m.keypad).2 else m.keypad := by
  cases hop : ins.operation? with
  | none =>
    have hasks : ¬ ins.AsksKeypad := by
      intro hasks
      obtain ⟨op, hop', -⟩ := hasks.exists_operation
      rw [hop] at hop'
      cases hop'
    rw [if_neg hasks]
    simp only [execute, hw, hop, Bool.false_eq_true, if_false]
  | some op =>
    rw [← keypad_perform (Instruction.operation?_eq_some_iff.1 hop) m]
    rcases hp : m.perform op with ⟨e | a, m₁⟩
    · rw [execute_of_perform_error hw hop hp]
    · rw [execute_of_perform_ok hw hop hp]
      exact m₁.same_advance a (p := .keypad) (by decide)

namespace Console

section Asks

variable {κ δ σ : Type} [Keypad κ] [Panel δ] {c : Console κ δ σ}

/-- The next step asks the keypad: the machine waits for a key, or its next instruction asks for
one. -/
def Asks (c : Console κ δ σ) : Prop :=
  c.machine.isWaiting = true ∨ ∃ ins, c.machine.fetch = .ok ins ∧ ins.AsksKeypad

/-- A console that takes an instruction asks the keypad once if the instruction does. -/
theorem keypad_step_of_fetch {m : Machine κ δ} {ins : Instruction}
    (hp : c.machine.canProceed = (.ok true, m)) (hw : m.isWaiting = false)
    (hf : m.fetch = .ok ins) :
    c.step.2.machine.keypad = if ins.AsksKeypad then (Keypad.poll m.keypad).2 else m.keypad := by
  rw [← m.keypad_execute hw]
  rcases hm : m.execute ins with ⟨e | s, after⟩
  · simp only [step, hp, hf, hm]
  · simp only [step, hp, hf, hm, machine_record]

/-- A console that takes an instruction asks the keypad if the instruction does. -/
theorem keypad_step_of_proceeds {m : Machine κ δ} (hp : c.machine.canProceed = (.ok true, m))
    (hw : m.isWaiting = false) :
    ∃ j, c.step.2.machine.keypad = Keypad.asked m.keypad j ∧
      (0 < j ↔ ∃ ins, m.fetch = .ok ins ∧ ins.AsksKeypad) := by
  cases hf : m.fetch with
  | error e =>
    refine ⟨0, by simp only [step, hp, hf, Keypad.asked], by simp⟩
  | ok ins =>
    rw [keypad_step_of_fetch hp hw hf]
    by_cases hasks : ins.AsksKeypad
    · exact ⟨1, if_pos hasks, by simp [hasks]⟩
    · exact ⟨0, if_neg hasks, by simp [hasks]⟩

/-- A step asks the keypad some times, and at all exactly if it is one that asks. -/
theorem keypad_step (c : Console κ δ σ) :
    ∃ j, c.step.2.machine.keypad = Keypad.asked c.machine.keypad j ∧ (0 < j ↔ c.Asks) := by
  cases hx : c.machine.cpu.awaiting with
  | none =>
    have hw : c.machine.isWaiting = false := Machine.isWaiting_eq_false_iff.2 hx
    obtain ⟨j, hkeypad, hj⟩ := keypad_step_of_proceeds (Machine.canProceed_of_not_isWaiting hw) hw
    exact ⟨j, hkeypad, hj.trans (by simp [Asks, hw])⟩
  | some x =>
    have hasks : c.Asks := Or.inl (by simp [Machine.isWaiting, hx])
    rcases hp : Keypad.poll c.machine.keypad with ⟨e | _ | key, keypad⟩
    · have hfails : c.machine.canProceed = (.error (.io e), { c.machine with keypad }) := by
        simp only [Machine.canProceed, hx, Machine.poll_of_error hp]
      exact ⟨1, by simp only [step, hfails, Keypad.asked, hp], by simp [hasks]⟩
    · have hsilent := Machine.canProceed_of_silent hx hp
      exact ⟨1, by simp only [step, hsilent, Keypad.asked, hp], by simp [hasks]⟩
    · -- the key came, and the next instruction may ask for one again
      obtain ⟨j, hkeypad, -⟩ := keypad_step_of_proceeds (Machine.canProceed_of_key hx hp) rfl
      refine ⟨j + 1, ?_, by simp [hasks]⟩
      rw [hkeypad, Keypad.asked_succ, hp]
      rfl

end Asks

/-! ## The main loop -/

section Loop

variable {δ σ : Type} [Panel δ] [Speaker σ] {c : Console TerminalKeypad δ σ}

/-- Only the time of a step changes a keypad besides the questions to it. -/
theorem keypad_cycle (c : Console TerminalKeypad δ σ) :
    ∃ now, c.cycle.2.machine.keypad = { c.step.2.machine.keypad with now } := by
  rcases hstep : c.step with ⟨e | s, c'⟩
  · rw [cycle_of_error hstep]
    exact ⟨_, rfl⟩
  · rw [cycle_of_ok hstep]
    exact ⟨_, rfl⟩

/-- The escape key is ahead until a step asks the keypad, and then the user wants to stop.

**Proof sketch.** Induction on the number of steps. A step that does not ask leaves the keypad as
it is (`keypad_step`), one that asks comes upon the escape key, and no later one forgets it. -/
theorem quit_cycles (hquit : c.machine.keypad.quit = false) (hesc : c.machine.keypad.EscapeAhead)
    (k : Nat) :
    ((c.cycles k).machine.keypad.quit = false ∧ (c.cycles k).machine.keypad.EscapeAhead ∧
        ∀ j < k, ¬ (c.cycles j).Asks) ∨
      ((c.cycles k).machine.keypad.quit = true ∧ ∃ j < k, (c.cycles j).Asks) := by
  induction k with
  | zero => exact .inl ⟨hquit, hesc, fun j hj => absurd hj (Nat.not_lt_zero j)⟩
  | succ k ih =>
    have hnext : c.cycles (k + 1) = (c.cycles k).cycle.2 := c.cycles_add k 1
    obtain ⟨now, hnow⟩ := (c.cycles k).keypad_cycle
    obtain ⟨j, hkeypad, hj⟩ := (c.cycles k).keypad_step
    rw [hnext, hnow, hkeypad]
    rcases ih with ⟨hquit, hesc, hsilent⟩ | ⟨hquit, i, hi, hasks⟩
    · by_cases hasks : (c.cycles k).Asks
      · obtain ⟨i, rfl⟩ : ∃ i, j = i + 1 := ⟨j - 1, by have := hj.2 hasks; omega⟩
        exact .inr ⟨TerminalKeypad.quit_asked hesc i, k, k.lt_succ_self, hasks⟩
      · obtain rfl : j = 0 := by have := mt hj.1 hasks; omega
        refine .inl ⟨hquit, hesc, fun i hi => ?_⟩
        obtain hi | rfl := Nat.lt_succ_iff_lt_or_eq.1 hi
        · exact hsilent i hi
        · exact hasks
    · exact .inr ⟨TerminalKeypad.quit_asked_of_quit hquit j, i, Nat.lt_succ_of_lt hi, hasks⟩

/-- With the escape key ahead the loop takes steps that do not ask the keypad, up to the first one
that does.

**Proof sketch.** As long as no step asked the user still wants to go on, and from then on not
(`quit_cycles`); the loop counts the steps before which the user wants to go on
(`mainLoop_counts`). -/
theorem mainLoop_of_escapeAhead (hquit : c.machine.keypad.quit = false)
    (hesc : c.machine.keypad.EscapeAhead) (n : Nat) :
    match c.mainLoop n with
    | (.ok k, c') => k ≤ n ∧ c' = c.cycles k ∧ (∀ j, j + 1 < k → ¬ (c.cycles j).Asks) ∧
        (k < n → ∃ j, k = j + 1 ∧ (c.cycles j).Asks)
    | (.error e, c') => ∃ k < n, (c.cycles k).step = (.error e, c') ∧
        ∀ j < k, ¬ (c.cycles j).Asks := by
  have hcounts := c.mainLoop_counts n
  rcases hm : c.mainLoop n with ⟨e | k, c'⟩
  · rw [hm] at hcounts
    obtain ⟨k, hk, -, hwanted, hstep⟩ := hcounts
    refine ⟨k, hk, hstep, ?_⟩
    rcases quit_cycles hquit hesc k with ⟨-, -, hsilent⟩ | ⟨hquit', -⟩
    · exact hsilent
    · exact absurd (hwanted.symm.trans hquit') nofun
  · rw [hm] at hcounts
    obtain ⟨hk, hgoes, rfl, hstops⟩ := hcounts
    have hsilent (j : Nat) (hj : j + 1 < k) : ¬ (c.cycles j).Asks := by
      rcases quit_cycles hquit hesc (j + 1) with ⟨-, -, hsilent⟩ | ⟨hquit', -⟩
      · exact hsilent j j.lt_succ_self
      · exact absurd ((hgoes.wanted (j + 1) hj).symm.trans hquit') nofun
    refine ⟨hk, rfl, hsilent, fun hlt => ?_⟩
    rcases quit_cycles hquit hesc k with ⟨hquit', -⟩ | ⟨-, j, hj, hasks⟩
    · exact absurd (hquit'.symm.trans (hstops hlt)) nofun
    · refine ⟨j, ?_, hasks⟩
      have hlast : ¬ j + 1 < k := fun hlt => hsilent j hlt hasks
      omega

/-- **The escape key stops the machine after its next question to the keypad.** Once the escape
key was read the main loop takes no step. While it is ahead, and whatever the program, the loop
takes steps that do not ask the keypad; the first step that asks is the last one, whether it
succeeds or fails. If the loop stops before its budget is spent, it does so because a step failed
or right after one that asked: a program that never asks is never stopped. -/
theorem mainLoop_escape (c : Console TerminalKeypad δ σ) (n : Nat) :
    (c.machine.keypad.quit = true → c.mainLoop n = (.ok 0, c)) ∧
      (c.machine.keypad.quit = false → c.machine.keypad.EscapeAhead →
        match c.mainLoop n with
        | (.ok k, c') => k ≤ n ∧ c' = c.cycles k ∧ (∀ j, j + 1 < k → ¬ (c.cycles j).Asks) ∧
            (k < n → ∃ j, k = j + 1 ∧ (c.cycles j).Asks)
        | (.error e, c') => ∃ k < n, (c.cycles k).step = (.error e, c') ∧
            ∀ j < k, ¬ (c.cycles j).Asks) :=
  ⟨fun hquit => mainLoop_of_quit hquit n, fun hquit hesc => mainLoop_of_escapeAhead hquit hesc n⟩

/-- A program that stores a byte and then asks for a key takes both steps after the escape key was
typed, and no third one. -/
theorem mainLoop_escape_before_question :
    let c : Console TerminalKeypad NoPanel Mute := ((Console.start {}
      { hold := 0, pending := [.event (.character 'q'), .event .escape] } NoPanel.mk Mute.mk
      (RandomSource.seeded 0) none).loadProgram (Source.ofBytes [0x60, 0x05, 0xF1, 0x0A])).2
    c.machine.keypad.EscapeAhead ∧ (c.mainLoop 9).1.toOption = some 2 ∧
      ∃ j, 2 = j + 1 ∧ (c.cycles j).Asks := by
  intro c
  have hesc : c.machine.keypad.EscapeAhead := ⟨[.character 'q'], [], rfl⟩
  have hcount : (c.mainLoop 9).1.toOption = some 2 := by decide +kernel
  have hlaw := (mainLoop_escape c 9).2 rfl hesc
  rcases hm : c.mainLoop 9 with ⟨e | k, c'⟩
  · rw [hm] at hcount
    cases hcount
  · rw [hm] at hcount hlaw
    cases hcount
    exact ⟨hesc, rfl, hlaw.2.2.2 (by decide)⟩

/-! ## Programs that never ask -/

/-- The machine neither waits nor is traced, and its next instruction leads back to itself. -/
structure Spins (c : Console TerminalKeypad δ σ) : Prop where
  /-- The machine does not wait. -/
  working : c.machine.isWaiting = false
  /-- No trace is written. -/
  untraced : c.trace = none
  /-- The instruction jumps to its own address. -/
  jumps : ∃ ins, c.machine.fetch = .ok ins ∧
    ins.operation? = some (.jump c.machine.cpu.pc)

omit [Speaker σ] in
theorem Spins.step_eq (h : c.Spins) : c.step = (.ok .executed, c) := by
  obtain ⟨ins, hfetch, hop⟩ := h.jumps
  have hrun : c.machine.execute ins = (.ok .executed, c.machine) :=
    Machine.execute_of_perform_ok h.working hop rfl
  exact step_of_execute h.working h.untraced hfetch hrun

omit [Panel δ] in
theorem Spins.pass (h : c.Spins) : c.pass.Spins :=
  ⟨h.working, h.untraced, h.jumps⟩

/-- A program that ends in a jump to itself is never stopped, not even by the escape key. -/
theorem Spins.mainLoop_eq (h : c.Spins) (hquit : c.machine.keypad.quit = false) (n : Nat) :
    c.mainLoop n = (.ok n, c.cycles n) := by
  refine mainLoop_of_goes ?_
  induction n generalizing c with
  | zero => exact c.goes_zero
  | succ n ih =>
    have hnext : c.cycle.2 = c.pass := by rw [cycle_of_ok h.step_eq]
    refine goes_succ_iff.2 ⟨hquit, ⟨.executed, by rw [h.step_eq]⟩, ?_⟩
    rw [hnext]
    exact ih h.pass hquit

/-- The escape key was typed before the first step, nothing comes before it, and yet the machine
takes as many steps as it is given. -/
theorem mainLoop_never_quits :
    let c : Console TerminalKeypad NoPanel Mute := ((Console.start {}
      { hold := 0, pending := [.event .escape] } NoPanel.mk Mute.mk
      (RandomSource.seeded 0) none).loadProgram (Source.ofBytes [0x12, 0x00])).2
    c.machine.keypad.EscapeAhead ∧ ∀ n, (c.mainLoop n).1 = .ok n := by
  intro c
  have hread : c.machine.memory.read c.machine.cpu.pc 2 = .ok [0x12, 0x00] :=
    Memory.read_eq_ok_iff.2 ⟨by decide, by decide +kernel⟩
  have hfetch : c.machine.fetch = .ok ⟨0x12, 0x00⟩ := congrArg (·.bind Instruction.ofBytes) hread
  have hspins : c.Spins := ⟨rfl, rfl, _, hfetch, by decide⟩
  refine ⟨⟨[], [], rfl⟩, fun n => ?_⟩
  rw [hspins.mainLoop_eq rfl]

end Loop

end Console

end Chip8
