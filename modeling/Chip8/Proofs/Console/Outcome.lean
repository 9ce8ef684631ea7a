import Chip8.Console.Run
import Chip8.Proofs.Console.Loop
import Chip8.Proofs.Console.Moves
import Chip8.Proofs.Machine.Logs
import Chip8.Proofs.Sinks
import Mathlib.Data.Nat.Basic

set_option relaxedAutoImplicit false
set_option autoImplicit false

/-!
# What a run comes to

A run begins with a console that is always there, and goes through three stages that can fail: the
program is loaded, the main loop runs to its end, and a dump is written. A program that cannot be
loaded ends the run before its first step. The dump is written however the loop ended, and if it
cannot be written nothing else is told. Only the main loop fails for a fatal reason, so that the log
of the machine comes with its errors alone. All of this is so whenever the timers tick: before the
first step they have nothing to count, and after the last one they change nothing but themselves.

## Main definitions

* `Chip8.LoopEnd.told` — what is told about a run whose loop ended.
* `Chip8.Console.EndsWithin` — how a loop ends whose budget may have a limit or not.
* `Chip8.Console.Concludes` — what a run comes to with a dump, or without one.

## Main results

* `Chip8.Memory.write_font`, `Chip8.Machine.boot_startingAt` — a run can always begin.
* `Chip8.Error.isFatal_iff`, `Chip8.Memory.isFatal_of_loadProgram` — which errors are fatal, and
  that no error of loading is.
* `Chip8.Console.run_outcome` — what a run comes to.
-/

namespace Chip8

/-- The errors past which the state of a machine means nothing. -/
theorem Error.isFatal_iff {e : Error} :
    e.isFatal = true ↔ (∃ len, e = .malformedInstruction len) ∨ (∃ word, e = .unknownOpcode word) ∨
      (∃ pc, e = .stackOverflow pc) ∨ ∃ pc, e = .stackUnderflow pc := by
  cases e <;> simp [isFatal]

/-! ## The beginning -/

/-- While nothing is to be counted down and no tone is on, nothing happens. -/
theorem Ticker.turns_of_idle {σ : Type} [Speaker σ] {t : Ticker σ} (h : t.beeping = false)
    (ticks : Nat) : t.turns {} ticks = (t, {}) := by
  have hturn : t.turn {} = (t, {}) := by
    have htick : Timers.tick {} = (false, {}) := rfl
    simp only [turn, quiet, htick, h, Bool.false_eq_true, if_false]
  induction ticks with
  | zero => rfl
  | succ ticks ih =>
    rw [turns, hturn]
    exact ih

/-- There is room for the font in an empty memory. -/
theorem Memory.write_font :
    Memory.write { bytes := Vector.replicate memorySize 0 } 0 Font.bytes = .ok Memory.fresh :=
  write_eq_ok_iff.2 ⟨by decide, rfl⟩

/-- The snapshot at the entry point is never refused: no return address is in use. -/
theorem Machine.boot_startingAt {κ δ : Type} (memory : Memory) (keypad : κ) (panel : δ)
    (random : RandomSource) (timers : Timers) (pc : UInt16) :
    Machine.boot memory keypad panel random timers (.startingAt pc) =
      (.ok { cpu := .startingAt pc, memory, timers := {}, keypad, screen := { panel }, random },
        {}) := by
  rfl

/-! ## Loading -/

/-- No error of loading is fatal. -/
theorem Memory.isFatal_of_loadProgram {m : Memory} {source : Source} {e : Error}
    (h : m.loadProgram source = .error e) : e.isFatal = false := by
  unfold loadProgram at h
  split at h
  · cases h
    rfl
  · rename_i program _
    cases hinstall : m.install program with
    | ok m' =>
      rw [hinstall] at h
      cases h
    | error e' =>
      rw [hinstall] at h
      cases h
      unfold install at hinstall
      split at hinstall
      · cases hinstall
        rfl
      · split at hinstall
        · cases hinstall
          rfl
        · obtain ⟨-, rfl⟩ := write_eq_error_iff.1 hinstall
          rfl

namespace Console

variable {κ δ σ : Type}

/-- A program that is refused leaves the console as it was, and the error is not fatal. -/
theorem loadProgram_of_error {c : Console κ δ σ} {program : Source} {e : Error}
    (h : (c.loadProgram program).1 = .error e) :
    e.isFatal = false ∧ c.loadProgram program = (.error e, c) := by
  simp only [loadProgram, Machine.loadProgram] at h ⊢
  cases hload : c.machine.memory.loadProgram program with
  | error e' =>
    rw [hload] at h
    cases h
    exact ⟨Memory.isFatal_of_loadProgram hload, rfl⟩
  | ok loaded =>
    rw [hload] at h
    cases h

theorem config_loadProgram (c : Console κ δ σ) (program : Source) :
    (c.loadProgram program).2.config = c.config :=
  rfl

/-- Timers that ran out do not count, and a speaker without a tone is left alone. -/
theorem beats_of_idle [Speaker σ] {c : Console κ δ σ} (htimers : c.machine.timers = {})
    (hquiet : c.ticker.beeping = false) (ticks : Nat) : c.beats ticks = c := by
  simp only [beats, htimers, Ticker.turns_of_idle hquiet]
  rw [← htimers]

/-- A program is loaded beside the timers. -/
theorem timers_loadProgram (c : Console κ δ σ) (program : Source) :
    (c.loadProgram program).2.machine.timers = c.machine.timers := by
  obtain ⟨memory, hmachine⟩ := c.machine_loadProgram program
  rw [hmachine]

end Console

/-! ## The end -/

/-- The schedule after another number of steps. -/
def Schedule.withSteps (s : Schedule) (steps : Nat) : Schedule :=
  { s with steps }

/-- What is told about a run whose loop ended after `k` steps with a machine that logs `log`. -/
def LoopEnd.told (log : List Char) (k : Nat) : LoopEnd → Except Failure Nat
  | budgetSpent => .ok k
  | quit => .ok k
  | failed e => .error { error := e, state := if e.isFatal then some log else none }

namespace Console

section Conclude

variable {κ δ σ : Type} [Speaker σ] {c : Console κ δ σ}

/-- What a run comes to whose loop ended for `why` after `k` steps with that console, with a dump or
without one: what is told in the end, the last console, and the dump. The timers go on as the
schedule says. -/
inductive Concludes (c : Console κ δ σ) (schedule : Schedule) (why : LoopEnd) (k : Nat) :
    Option Sink → Except Failure Nat × Console κ δ σ × Option Sink → Prop
  /-- No dump was asked for. -/
  | undumped {last : Console κ δ σ}
    (hlast : last = (c.beats schedule.beforeDump).beats schedule.beforeVerdict) :
    Concludes c schedule why k none (why.told last.machine.status k, last, none)
  /-- The dump was written. -/
  | dumped {before last : Console κ δ σ} {sink sink' : Sink}
    (hbefore : before = c.beats schedule.beforeDump)
    (hlast : last = before.beats schedule.beforeVerdict)
    (hfits : sink.Fits before.machine.diagnostics)
    (hwrote : sink.Wrote before.machine.diagnostics sink') :
    Concludes c schedule why k (some sink) (why.told last.machine.status k, last, some sink')
  /-- The dump could not be written to its end, and this is told instead. -/
  | refused {last : Console κ δ σ} {sink sink' : Sink} (hlast : last = c.beats schedule.beforeDump)
    (hfits : ¬ sink.Fits last.machine.diagnostics)
    (hwrote : sink.Wrote last.machine.diagnostics sink') :
    Concludes c schedule why k (some sink)
      (.error { error := .io sink.refusal, state := none }, last, some sink')

omit [Speaker σ] in
theorem verdict_result (c : Console κ δ σ) (why : LoopEnd) (k : Nat) :
    c.verdict (why.result k) = why.told c.machine.status k := by
  rw [← c.machine.log_eq_status]
  cases why <;> rfl

omit [Speaker σ] in
theorem diagnosticDump_eq (c : Console κ δ σ) :
    c.diagnosticDump = c.machine.diagnostics := by
  rw [diagnosticDump, Machine.log_eq_status, Memory.dump_eq_listing, Machine.diagnostics]

/-- A run ends with its dump and then its verdict. -/
theorem concludes (c : Console κ δ σ) (why : LoopEnd) (k : Nat) (dump : Option Sink) :
    c.Concludes c.schedule why k dump (c.conclude (why.result k) dump) := by
  cases dump with
  | none =>
    simp only [conclude, writeDump, verdict_result]
    exact .undumped rfl
  | some sink =>
    have hwrote := sink.wrote_write (c.beats c.schedule.beforeDump).machine.diagnostics
    by_cases hfits : sink.Fits (c.beats c.schedule.beforeDump).machine.diagnostics
    · simp only [conclude, writeDump, diagnosticDump_eq, Sink.write_fst_of_fits hfits,
        verdict_result]
      exact .dumped rfl rfl hfits hwrote
    · simp only [conclude, writeDump, diagnosticDump_eq, Sink.write_fst_of_not_fits hfits]
      exact .refused rfl hfits hwrote

variable {schedule : Schedule} {why : LoopEnd} {k : Nat} {dump : Option Sink}
  {r : Except Failure Nat × Console κ δ σ × Option Sink}

/-- The number of steps does not matter any more. -/
theorem Concludes.of_withSteps {steps : Nat}
    (h : c.Concludes (schedule.withSteps steps) why k dump r) :
    c.Concludes schedule why k dump r := by
  cases h with
  | undumped hlast => exact .undumped hlast
  | dumped hbefore hlast hfits hwrote => exact .dumped hbefore hlast hfits hwrote
  | refused hlast hfits hwrote => exact .refused hlast hfits hwrote

/-- A failure comes with the log of the last machine exactly if its error is fatal. -/
theorem Concludes.state_eq {f : Failure} (h : c.Concludes schedule why k dump r)
    (hf : r.1 = .error f) :
    f.state = if f.error.isFatal then some r.2.1.machine.status else none := by
  cases h with
  | undumped | dumped =>
    cases why with
    | budgetSpent | quit => cases hf
    | failed e =>
      cases hf
      rfl
  | refused =>
    cases hf
    rfl

/-- The last machine is the one of that console, but for its timers. -/
theorem Concludes.machine_eq (h : c.Concludes schedule why k dump r) :
    r.2.1.machine = { c.machine with timers := r.2.1.machine.timers } := by
  cases h with
  | undumped hlast | refused hlast =>
    subst hlast
    rfl
  | dumped hbefore hlast =>
    subst hlast hbefore
    rfl

end Conclude

/-! ## The run -/

variable {κ δ σ : Type} [Keypad κ] [Panel δ] [Speaker σ] {c : Console κ δ σ}

/-- How a main loop ends that has a limit, or none. Without a limit it ends only if the user wants
to stop or a step fails, after as many steps as can be counted. -/
def EndsWithin (c : Console κ δ σ) (limit : Option Nat) (why : LoopEnd) (k : Nat)
    (c' : Console κ δ σ) : Prop :=
  match limit with
  | some n => c.Ends n why k c'
  | none => why ≠ .budgetSpent ∧ k < UInt64.size ∧ ∃ n, c.Ends n why k c'

/-- An end that is not for the budget is there for every budget that is large enough. -/
theorem Ends.of_lt {n n' k : Nat} {why : LoopEnd} {c' : Console κ δ σ} (h : c.Ends n why k c')
    (hwhy : why ≠ .budgetSpent) (hk : k < n') : c.Ends n' why k c' := by
  cases h with
  | budgetSpent => exact absurd rfl hwhy
  | quit _ hgoes hquit => exact .quit hk hgoes hquit
  | failed _ hgoes hquit hstep => exact .failed hk hgoes hquit hstep

theorem EndsWithin.mainLoop_eq {config : Config} {why : LoopEnd} {k : Nat} {c' : Console κ δ σ}
    (h : c.EndsWithin config.maxCycles why k c') :
    c.mainLoop config.budget = (why.result k, c') := by
  unfold EndsWithin at h
  unfold Config.budget
  cases hlimit : config.maxCycles with
  | some n =>
    rw [hlimit] at h
    exact h.mainLoop_eq
  | none =>
    rw [hlimit] at h
    obtain ⟨hwhy, hk, n, hends⟩ := h
    exact (hends.of_lt hwhy hk).mainLoop_eq

/-! ### The schedule -/

omit [Keypad κ] [Panel δ] [Speaker σ] in
theorem schedule_record (c : Console κ δ σ) (pc : UInt16) (ins : Instruction) :
    (c.record pc ins).2.schedule = c.schedule := by
  unfold record
  split
  · rfl
  · rfl

omit [Speaker σ] in
theorem schedule_step (c : Console κ δ σ) : c.step.2.schedule = c.schedule := by
  rcases hstep : c.step with ⟨r, c'⟩
  cases takes_of_step hstep with
  | unheard | silent | lost | refused => rfl
  | done => rw [schedule_record, onMachine]

/-- A cycle may count a step, and leaves the rest of the schedule as it is. -/
theorem schedule_cycle (c : Console κ δ σ) :
    ∃ steps, c.cycle.2.schedule = c.schedule.withSteps steps := by
  have hschedule := c.schedule_step
  rcases hstep : c.step with ⟨e | s, c'⟩
  · rw [hstep] at hschedule
    rw [cycle_of_error hstep, ← hschedule]
    exact ⟨c'.schedule.steps, rfl⟩
  · rw [hstep] at hschedule
    rw [cycle_of_ok hstep, ← hschedule]
    exact ⟨c'.schedule.steps + 1, rfl⟩

theorem schedule_cycles (c : Console κ δ σ) (k : Nat) :
    ∃ steps, (c.cycles k).schedule = c.schedule.withSteps steps := by
  induction k generalizing c with
  | zero => exact ⟨c.schedule.steps, rfl⟩
  | succ k ih =>
    obtain ⟨_, hfirst⟩ := c.schedule_cycle
    obtain ⟨steps, hrest⟩ := ih c.cycle.2
    rw [hfirst] at hrest
    exact ⟨steps, hrest⟩

/-- A loop counts its steps, and leaves the rest of the schedule as it is. -/
theorem Ends.schedule_eq {n k : Nat} {why : LoopEnd} {c' : Console κ δ σ}
    (h : c.Ends n why k c') : ∃ steps, c'.schedule = c.schedule.withSteps steps := by
  cases h with
  | budgetSpent | quit => exact c.schedule_cycles _
  | failed hk hgoes hquit hstep =>
    have hschedule := (c.cycles k).schedule_step
    rw [hstep] at hschedule
    rw [hschedule]
    exact c.schedule_cycles k

theorem EndsWithin.schedule_eq {limit : Option Nat} {why : LoopEnd} {k : Nat}
    {c' : Console κ δ σ} (h : c.EndsWithin limit why k c') :
    ∃ steps, c'.schedule = c.schedule.withSteps steps := by
  cases limit with
  | some n => exact Ends.schedule_eq h
  | none =>
    obtain ⟨-, -, n, hends⟩ := h
    exact hends.schedule_eq

/-! ### The whole of it -/

/-- A program that cannot be loaded ends the run at once. -/
theorem runProgram_of_error {program : Source} {e : Error} (dump : Option Sink)
    (h : (c.loadProgram program).1 = .error e) :
    c.runProgram program dump = (.error { error := e, state := none }, c, dump) := by
  simp only [runProgram, (loadProgram_of_error h).2]

/-- With a program loaded, the main loop runs to its end, and then the run is concluded. -/
theorem runProgram_of_ok {program : Source} {size : Nat} {c₁ c' : Console κ δ σ}
    {result : Except Error Nat} (dump : Option Sink)
    (hload : c.loadProgram program = (.ok size, c₁))
    (hloop : c₁.mainLoop c.config.budget = (result, c')) :
    c.runProgram program dump = c'.conclude result dump := by
  have hconfig : c₁.config = c.config := by rw [← c.config_loadProgram program, hload]
  simp only [runProgram, hload, hconfig, hloop]

/-- A failed run comes with the log of its last machine exactly if its error is fatal. -/
theorem state_runProgram {program : Source} {dump : Option Sink} {f : Failure}
    (h : (c.runProgram program dump).1 = .error f) :
    f.state = if f.error.isFatal then some (c.runProgram program dump).2.1.machine.status
      else none := by
  rcases hload : c.loadProgram program with ⟨e | size, c₁⟩
  · have hfst : (c.loadProgram program).1 = .error e := by rw [hload]
    rw [runProgram_of_error dump hfst] at h
    cases h
    rw [(loadProgram_of_error hfst).1]
    rfl
  · obtain ⟨k, -, hends⟩ := c₁.loop_ends 0 c.config.budget
    rw [runProgram_of_ok dump hload hends.mainLoop_eq] at h ⊢
    exact (concludes _ _ k dump).state_eq h

/-- **What a run comes to.** Let the timers tick whenever they may: before the first step a tick
changes nothing, and after the last one it changes the timers alone. A run can always begin: the
font fits into an empty memory, and the snapshot at the entry point gives the machine of the first
console, which writes its steps to the trace. If the program cannot be loaded, the run fails with
that error, which is not fatal; no step was taken, the console is the first one, and nothing was
written to the dump. Otherwise the main loop runs to its end, if it has one, as it does if the steps
have a limit. If a dump was asked for, it gets the lines of the log of the machine and then those of
its memory, however the loop ended. If there is no room for all of this, the run fails as the sink
does, whatever is to be told about the loop. Otherwise this is what is told: the number of steps, or
the error of the step that failed. In every case a failure comes with the lines of the log of the
last machine if its error is fatal, and with nothing if it is not.

**Proof sketch.** Loading fails for no fatal reason (`Memory.isFatal_of_loadProgram`). There is only
one way for the loop to end (`Ends.loop_eq`), and the dump comes after it (`concludes`). -/
theorem run_outcome (config : Config) (schedule : Schedule) (keypad : κ) (panel : δ) (speaker : σ)
    (random : RandomSource) (trace dump : Option Sink) (program : Source) :
    let c := { start config keypad panel speaker random trace with schedule }
    let r := c.runProgram program dump
    (Memory.write { bytes := Vector.replicate memorySize 0 } 0 Font.bytes = .ok Memory.fresh ∧
      ∀ timers, Machine.boot { Memory.fresh with programStart := config.entryPoint } keypad panel
        random timers (.startingAt config.entryPoint) = (.ok c.machine, c.machine.timers)) ∧
    (c.trace = trace ∧ ∀ ticks, c.beats ticks = c) ∧
    (∀ e, (c.loadProgram program).1 = .error e →
      e.isFatal = false ∧ r = (.error { error := e, state := none }, c, dump)) ∧
    (∀ size c₁, c.loadProgram program = (.ok size, c₁) →
      (∀ ticks, c₁.beats ticks = c₁) ∧
      (∀ why k c', c₁.EndsWithin config.maxCycles why k c' → c'.Concludes schedule why k dump r ∧
        r.2.1.machine = { c'.machine with timers := r.2.1.machine.timers }) ∧
      (config.maxCycles.isSome = true →
        ∃ why k c', c₁.EndsWithin config.maxCycles why k c')) ∧
    (∀ e : Error, e.isFatal = true ↔
      (∃ len, e = .malformedInstruction len) ∨ (∃ word, e = .unknownOpcode word) ∨
        (∃ pc, e = .stackOverflow pc) ∨ ∃ pc, e = .stackUnderflow pc) ∧
    ∀ f, r.1 = .error f →
      f.state = if f.error.isFatal then some r.2.1.machine.status else none := by
  intro c r
  refine ⟨⟨Memory.write_font, fun timers => Machine.boot_startingAt _ _ _ _ timers _⟩,
    ⟨rfl, beats_of_idle rfl rfl⟩,
    fun e hload => ⟨(loadProgram_of_error hload).1, runProgram_of_error dump hload⟩,
    fun size c₁ hload => ⟨fun ticks => ?_, fun why k c' hends => ?_, fun hlimit => ?_⟩,
    fun e => Error.isFatal_iff, fun f hf => state_runProgram hf⟩
  · have hidle : (c.loadProgram program).2.beats ticks = (c.loadProgram program).2 :=
      beats_of_idle (c.timers_loadProgram program) rfl ticks
    rwa [hload] at hidle
  · have hloop : c₁.mainLoop c.config.budget = (why.result k, c') := hends.mainLoop_eq
    have hrun : r = c'.conclude (why.result k) dump := runProgram_of_ok dump hload hloop
    obtain ⟨steps, hsteps⟩ := hends.schedule_eq
    have hschedule : c₁.schedule = schedule := by
      rw [show c₁ = (c.loadProgram program).2 by rw [hload]]
      rfl
    rw [hschedule] at hsteps
    have hconcludes := c'.concludes why k dump
    rw [hsteps, ← hrun] at hconcludes
    exact ⟨hconcludes.of_withSteps, hconcludes.machine_eq⟩
  · obtain ⟨n, hn⟩ := Option.isSome_iff_exists.1 hlimit
    obtain ⟨k, -, hends⟩ := c₁.loop_ends 0 n
    rw [hn]
    exact ⟨_, k, _, hends⟩

/-- A return from nowhere is fatal, an address past the end of memory is not. -/
example :
    let c : Console ScriptedKeypad NoPanel Mute := start { maxCycles := some 5 } ⟨[]⟩ NoPanel.mk
      Mute.mk (RandomSource.seeded 0) none
    let underflow := Source.ofBytes [0x00, 0xEE]
    let outside := Source.ofBytes [0xAF, 0xFF, 0xF1, 0x55]
    (c.runProgram underflow none).1 = .error
        { error := .stackUnderflow 0x200, state := some (c.loadProgram underflow).2.machine.log } ∧
      (c.runProgram outside none).1 = .error { error := .outOfRange 0xFFF 2, state := none } := by
  decide +kernel

end Console

end Chip8
