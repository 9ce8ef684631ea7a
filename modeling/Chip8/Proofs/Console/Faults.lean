import Chip8.Proofs.Console.Moves
import Chip8.Proofs.Machine.Failure

set_option relaxedAutoImplicit false
set_option autoImplicit false

/-!
# Faults stay

A step that fails since the program is to blame has found out so before it changed anything, and
without any device. So the fault is still there afterwards, and every later step finds it again. A
wait for a key may have been over just before; it does not begin again.

## Main definitions

* `Chip8.Machine.Faulty` — the next instruction fails, and the program is to blame.

## Main results

* `Chip8.Machine.Faulty.congr` — only the processor and the memory matter to a fault.
* `Chip8.Console.faulty_of_step` — how a step comes to a fault.
* `Chip8.Console.step_of_faulty` — a step that finds a fault does nothing else.
* `Chip8.Console.fault_is_permanent` — once a step found a fault, so does every later one.
-/

namespace Chip8

namespace Machine

variable {κ δ κ' δ' : Type} [Keypad κ] [Panel δ] [Keypad κ'] [Panel δ'] {m : Machine κ δ}
  {e : Error}

/-- The machine takes an instruction, but there is none at its program counter or the one there
fails, and the program is to blame. -/
structure Faulty (m : Machine κ δ) (e : Error) : Prop where
  /-- It does not wait for a key. -/
  awake : m.cpu.awaiting = none
  /-- The program is to blame. -/
  blame : e.isProgramFault = true
  /-- There is no instruction, or it fails and changes nothing. -/
  fails : m.fetch = .error e ∨ ∃ ins, m.fetch = .ok ins ∧ m.execute ins = (.error e, m)

/-- Only the processor and the memory matter to a fault. -/
theorem Faulty.congr {d : Machine κ' δ'} (h : m.Faulty e) (hcpu : d.cpu = m.cpu)
    (hmemory : d.memory = m.memory) : d.Faulty e := by
  have hfetch : d.fetch = m.fetch := by rw [fetch, fetch, hcpu, hmemory]
  refine ⟨by rw [hcpu]; exact h.awake, h.blame, ?_⟩
  rw [hfetch]
  rcases h.fails with hnone | ⟨ins, hins, hrun⟩
  · exact .inl hnone
  · exact .inr ⟨ins, hins, (execute_of_fault hrun h.blame hcpu hmemory).2⟩

end Machine

namespace Console

variable {κ δ σ : Type} [Keypad κ] [Panel δ] {c c' : Console κ δ σ} {e : Error}

/-! ## One step -/

omit [Keypad κ] [Panel δ] in
/-- A trace fails as its sink does. -/
theorem record_fst_eq_error {pc : UInt16} {ins : Instruction} (h : (c.record pc ins).1 = .error e) :
    ∃ io, e = .io io := by
  unfold record at h
  split at h
  · cases h
  · rename_i sink _
    rcases hwrite : sink.writePieces (Trace.pieces pc ins c.machine.snapshot) with ⟨io | _, sink'⟩
    · rw [hwrite] at h
      cases h
      exact ⟨io, rfl⟩
    · rw [hwrite] at h
      cases h

/-- A step that finds a fault does nothing else. -/
theorem step_of_faulty (h : c.machine.Faulty e) : c.step = (.error e, c) := by
  rcases h.fails with hfetch | ⟨ins, hfetch, hrun⟩
  · exact (Takes.lost (.awake h.awake) hfetch).step_eq
  · exact (Takes.refused (.awake h.awake) hfetch hrun).step_eq

/-- A step comes to a fault once a wait for a key, if there was one, is over, and does nothing
else. -/
theorem faulty_of_step (hstep : c.step = (.error e, c')) (he : e.isProgramFault = true) :
    ∃ m, c.machine.Proceeds m ∧ m.Faulty e ∧ c' = c.onMachine m := by
  generalize hr : (Except.error e : Except Error Step) = r at hstep
  cases takes_of_step hstep with
  | unheard =>
    cases hr
    cases he
  | silent => cases hr
  | lost hm hfetch =>
    cases hr
    exact ⟨_, hm, ⟨hm.awaiting_eq, he, .inl hfetch⟩, rfl⟩
  | refused hm hfetch hrun =>
    cases hr
    obtain ⟨rfl, -⟩ := Machine.execute_of_fault hrun he rfl rfl
    exact ⟨_, hm, ⟨hm.awaiting_eq, he, .inr ⟨_, hfetch, hrun⟩⟩, rfl⟩
  | @done m m' ins s hm hfetch hrun =>
    rcases hrecord : ((c.onMachine m').record m.cpu.pc ins).1 with e' | _
    · rw [hrecord] at hr
      cases hr
      obtain ⟨io, rfl⟩ := record_fst_eq_error hrecord
      cases he
    · rw [hrecord] at hr
      cases hr

/-! ## Later steps -/

variable [Speaker σ] {moves : List (Move κ)}

/-- What is left of a faulty console after some moves: its timers may have ticked, and its user may
have done something to the keypad. -/
theorem play_of_faulty (h : c.machine.Faulty e) (hload : ∀ source, .load source ∉ moves) :
    (c.play moves).machine = { c.machine with
      timers := (c.play moves).machine.timers
      keypad := (c.play moves).machine.keypad } ∧
    (c.play moves).trace = c.trace := by
  induction moves using List.reverseRecOn with
  | nil => exact ⟨rfl, rfl⟩
  | append_singleton moves mv ih =>
    obtain ⟨hmachine, htrace⟩ := ih fun source hmem => hload source (List.mem_append_left _ hmem)
    rw [play_concat]
    cases mv with
    | step =>
      have hfaulty : (c.play moves).machine.Faulty e := by
        apply h.congr
        · rw [hmachine]
        · rw [hmachine]
      simp only [moved, step_of_faulty hfaulty]
      exact ⟨hmachine, htrace⟩
    | beat =>
      simp only [moved, beat]
      rw [hmachine]
      exact ⟨rfl, htrace⟩
    | load source =>
      exact absurd (List.mem_append_right _ (List.mem_singleton_self _)) (hload source)
    | use used =>
      simp only [moved, onKeypad]
      rw [hmachine]
      exact ⟨rfl, htrace⟩

/-- **A fault of the program stays.** When a step fails and the program is to blame, at most a wait
for a key was over before it failed. From then on, whatever the timers hold, whichever devices and
trace there are, and whatever they would do, a step with that processor and that memory fails with
the same error and changes nothing: it asks and tells nobody anything. So does every later step of
the console, however often its timers tick in between: nothing but the ticks, and what its user does
to the keypad, changes any part of it.

**Proof sketch.** The step found the fault in the processor and the memory alone
(`Machine.Faulty.congr`). Neither a step that finds it nor a tick changes these, so that the fault
is there after any moves. -/
theorem fault_is_permanent (hstep : c.step = (.error e, c')) (he : e.isProgramFault = true) :
    (∃ m, c.machine.Proceeds m ∧ c' = c.onMachine m) ∧
    (∀ {κ' δ' σ' : Type} [Keypad κ'] [Panel δ'] (d : Console κ' δ' σ'),
      d.machine.cpu = c'.machine.cpu → d.machine.memory = c'.machine.memory →
      d.step = (.error e, d)) ∧
    ∀ later : List (Move κ), (∀ source, .load source ∉ later) →
      (c'.play later).machine = { c'.machine with
        timers := (c'.play later).machine.timers
        keypad := (c'.play later).machine.keypad } ∧
      (c'.play later).trace = c'.trace ∧
      (c'.play later).step = (.error e, c'.play later) := by
  obtain ⟨m, hm, hfaulty, rfl⟩ := faulty_of_step hstep he
  refine ⟨⟨m, hm, rfl⟩, fun d hcpu hmemory => ?_, fun later hload => ?_⟩
  · exact step_of_faulty (hfaulty.congr hcpu hmemory)
  · have hafter : (c.onMachine m).machine.Faulty e := hfaulty
    obtain ⟨hmachine, htrace⟩ := play_of_faulty hafter hload
    refine ⟨hmachine, htrace, step_of_faulty (hafter.congr ?_ ?_)⟩
    · rw [hmachine]
    · rw [hmachine]

/-- A program that sets the delay timer, asks for a key and then returns from nowhere. The step that
finds the key finds the fault. -/
theorem fault_is_permanent_after_wait :
    let c₀ : Console ScriptedKeypad NoPanel Mute :=
      start {} ⟨[none, some 7, some 8]⟩ NoPanel.mk Mute.mk (RandomSource.seeded 0) none
    let c := c₀.play [.load (Source.ofBytes [0x60, 0x05, 0xF0, 0x15, 0xF3, 0x0A, 0x00, 0xEE]),
      .step, .step, .step]
    let c' := c.step.2
    c.machine.isWaiting = true ∧ c'.machine.isWaiting = false ∧ c'.machine.register 3 = 7 ∧
      (c'.play [.step, .beat, .step, .beat]).step =
        (.error (.stackUnderflow 0x206), c'.play [.step, .beat, .step, .beat]) ∧
      (c'.play [.step, .beat, .step, .beat]).machine.timers.delay = 3 ∧
      (c'.play [.step, .beat, .step, .beat]).machine.keypad = ⟨[some 8]⟩ := by
  intro c₀ c c'
  obtain ⟨hfails, hwaits, hawake, hkey, hdelay, hkeypad⟩ :
      c.step.1 = .error (.stackUnderflow 0x206) ∧ c.machine.isWaiting = true ∧
        c'.machine.isWaiting = false ∧ c'.machine.register 3 = 7 ∧
        (c'.play [.step, .beat, .step, .beat]).machine.timers.delay = 3 ∧
        (c'.play [.step, .beat, .step, .beat]).machine.keypad = ⟨[some 8]⟩ := by
    decide +kernel
  obtain ⟨-, -, hlater⟩ := fault_is_permanent (Prod.ext hfails rfl : c.step = (_, c')) rfl
  exact ⟨hwaits, hawake, hkey, (hlater _ (by simp)).2.2, hdelay, hkeypad⟩

end Console

end Chip8
