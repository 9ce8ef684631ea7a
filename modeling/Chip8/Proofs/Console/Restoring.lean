import Chip8.Proofs.Console.Suspension

set_option relaxedAutoImplicit false
set_option autoImplicit false

/-!
# Starting again from a snapshot

A snapshot holds everything that a machine keeps track of beside its memory and its devices, except
whether it waits for a key. A machine that starts again from its own snapshot is the same machine if
it did not wait. If it waited, it is at the instruction that asks for the key and executes it once
more, which takes a step of its own but comes to the same.

## Main definitions

* `Chip8.Machine.restart` — a machine started from the snapshot of another one, over its memory and
  its devices.

## Main results

* `Chip8.Machine.restart_eq` — nothing but the wait is lost.
* `Chip8.Console.restart_resumes` — a console goes on with a restarted machine as with the old one.
-/

namespace Chip8

/-! ## The restarted machine -/

/-- The snapshot of a processor gives the processor back, but for its wait. -/
theorem Cpu.ofSnapshot_snapshot (cpu : Cpu) (timers : Timers) :
    Cpu.ofSnapshot (cpu.snapshot timers) = .ok { cpu with awaiting := none } := by
  have hle : cpu.stack.depth ≤ stackDepth := cpu.stack.depth_le
  have hsp : (UInt8.ofNat cpu.stack.depth).toNat = cpu.stack.depth := by
    simp only [stackDepth] at hle
    simp only [UInt8.toNat_ofNat']
    omega
  have hslots : CallStack.ofSlots? (cpu.snapshot timers).stack (cpu.snapshot timers).sp.toNat =
      some cpu.stack := by
    simp only [Cpu.snapshot, hsp, CallStack.ofSlots?, hle, dite_true]
  simp only [Cpu.ofSnapshot, hslots]
  rfl

namespace Machine

variable {κ δ : Type}

/-- A machine started from the snapshot of this one, over the same memory, keypad and screen, and
with the same random bytes to come. The timers are shared and may hold anything before; the picture
stays on the screen. -/
def restart (m : Machine κ δ) (timers : Timers) : Except Error (Machine κ δ) :=
  (boot m.memory m.keypad m.screen.panel m.random timers m.snapshot).1.map
    fun restarted => { restarted with screen := m.screen }

/-- A machine can always be started from its snapshot, and nothing but its wait is lost. -/
theorem restart_eq (m : Machine κ δ) (timers : Timers) :
    m.restart timers = .ok (m.setAwaiting none) := by
  simp only [restart, boot, snapshot, Cpu.ofSnapshot_snapshot]
  rfl

end Machine

/-! ## The restarted console -/

namespace Console

variable {κ δ σ : Type} [Keypad κ] [Panel δ] {c : Console κ δ σ} {ins : Instruction}

/-- A machine that was made to wait no more executes the instruction that asks for a key once more.
If there is a key, the step takes it and nothing else, and the next step is the one in which the
machine that waits would have found it. -/
theorem step_of_asked_again {key : UInt8} {keypad : κ}
    (hx : c.machine.cpu.awaiting = some ins.x) (htrace : c.trace = none)
    (hfetch : c.machine.fetch = .ok ins) (hgroup : ins.group = 0xF) (hbyte : ins.nn = 0x0A)
    (hpoll : Keypad.poll c.machine.keypad = (.ok (some key), keypad)) :
    (c.onMachine (c.machine.setAwaiting none)).step.1 = .ok .executed ∧
      (c.onMachine (c.machine.setAwaiting none)).step.2.step = c.step := by
  have hrun : (c.machine.setAwaiting none).execute ins =
      (.ok .executed, c.machine.resumed ins.x key keypad) :=
    Machine.execute_awaitKey_of_key rfl hgroup hbyte hpoll
  have hstep : (c.onMachine (c.machine.setAwaiting none)).step =
      (.ok .executed, c.onMachine (c.machine.resumed ins.x key keypad)) :=
    step_of_execute rfl htrace hfetch hrun
  rw [hstep, step_of_key hx hpoll]
  exact ⟨rfl, rfl⟩

/-- A machine that was made to wait no more begins to wait again if there is no key. -/
theorem step_of_asked_again_in_vain {keypad : κ}
    (hx : c.machine.cpu.awaiting = some ins.x) (htrace : c.trace = none)
    (hfetch : c.machine.fetch = .ok ins) (hgroup : ins.group = 0xF) (hbyte : ins.nn = 0x0A)
    (hpoll : Keypad.poll c.machine.keypad = (.ok none, keypad)) :
    (c.onMachine (c.machine.setAwaiting none)).step = c.step := by
  have hrun : (c.machine.setAwaiting none).execute ins =
      (.ok .waiting, ({ c.machine with keypad }.setAwaiting none).setAwaiting (some ins.x)) :=
    Machine.execute_awaitKey_of_silent rfl hgroup hbyte hpoll
  have hstep : (c.onMachine (c.machine.setAwaiting none)).step =
      (.ok .waiting, c.onMachine ({ c.machine with keypad }.setAwaiting (some ins.x))) :=
    step_of_execute rfl htrace hfetch hrun
  rw [hstep, step_of_silent hx hpoll, ← hx]
  rfl

variable [Speaker σ]

/-- **A machine that starts again from its own snapshot goes on where it was.** Let no program be
loaded while the machine waits. However the console got where it is, its machine can be started
again from its snapshot, over the same memory and devices, and has the same snapshot then. If it did
not wait, whatever happens afterwards comes to the same. If it waited, then without a trace a step
that finds no key tells that both wait and leaves the same console; for a key the restarted machine
takes a step to find it and another one that is the step of the machine that waited. -/
theorem restart_resumes {c₀ : Console κ δ σ} {moves : List (Move κ)}
    (hw : c₀.machine.isWaiting = false) (hload : c₀.LoadsAwake moves) (timers : Timers) :
    let c := c₀.play moves
    ∃ m, c.machine.restart timers = .ok m ∧ m.snapshot = c.machine.snapshot ∧
      (c.machine.isWaiting = false → ∀ later,
        ((c.onMachine m).play later).step.1 = (c.play later).step.1 ∧
          (c.onMachine m).play later = c.play later) ∧
      (c.machine.isWaiting = true →
        let original := c.onTrace none
        let restored := original.onMachine m
        (∀ keypad, Keypad.poll c.machine.keypad = (.ok none, keypad) →
          original.step = (.ok .waiting, original.onKeypad keypad) ∧
            restored.step = original.step) ∧
        ∀ key keypad, Keypad.poll c.machine.keypad = (.ok (some key), keypad) →
          restored.step.1 = .ok .executed ∧ restored.step.2.step = original.step) := by
  intro c
  have hcoherent : c.machine.Coherent :=
    coherent_play (Machine.coherent_of_awaiting_eq_none (Machine.isWaiting_eq_false_iff.1 hw)) hload
  refine ⟨c.machine.setAwaiting none, c.machine.restart_eq timers, rfl, ?_, ?_⟩
  · intro hawake later
    have hsame : c.machine.setAwaiting none = c.machine := by
      rw [← Machine.isWaiting_eq_false_iff.1 hawake]
      rfl
    rw [hsame]
    exact ⟨rfl, rfl⟩
  · intro hwaits
    obtain ⟨x, hx⟩ := Option.isSome_iff_exists.1 hwaits
    obtain ⟨ins, hfetch, hgroup, hbyte, rfl⟩ := hcoherent x hx
    have horiginal : (c.onTrace none).machine.cpu.awaiting = some ins.x := hx
    refine ⟨fun keypad hpoll => ⟨?_, ?_⟩, fun key keypad hpoll => ?_⟩
    · exact step_of_silent horiginal hpoll
    · exact step_of_asked_again_in_vain horiginal rfl hfetch hgroup hbyte hpoll
    · exact step_of_asked_again horiginal rfl hfetch hgroup hbyte hpoll

/-- A program that sets the delay timer and asks for a key, started again while it waits; the next
question finds a key. -/
theorem restart_resumes_of_wait :
    let c₀ : Console ScriptedKeypad NoPanel Mute :=
      Console.start {} ⟨[none, some 7]⟩ NoPanel.mk Mute.mk (RandomSource.seeded 0) none
    let c := c₀.play [.load (Source.ofBytes [0x60, 0x05, 0xF0, 0x15, 0xF3, 0x0A, 0x64, 0x09]),
      .step, .step, .beat, .step]
    ∃ m, c.machine.restart {} = .ok m ∧ m.snapshot = c.machine.snapshot ∧
      ((c.onTrace none).onMachine m).step.2.step = (c.onTrace none).step ∧
      (c.onTrace none).step.2.machine.register 3 = 7 ∧
      (c.onTrace none).step.2.machine.register 4 = 9 := by
  intro c₀ c
  have hload : c₀.LoadsAwake [.load (Source.ofBytes [0x60, 0x05, 0xF0, 0x15, 0xF3, 0x0A, 0x64,
      0x09]), .step, .step, .beat, .step] :=
    loadsAwake_of_load_first rfl _ (by simp)
  -- evaluated at once, since the steps are the same
  obtain ⟨hwaits, hkey, hthird, hfourth⟩ : c.machine.isWaiting = true ∧
      Keypad.poll c.machine.keypad = (.ok (some 7), ⟨[]⟩) ∧
      (c.onTrace none).step.2.machine.register 3 = 7 ∧
      (c.onTrace none).step.2.machine.register 4 = 9 := by
    decide +kernel
  obtain ⟨m, hrestart, hsnapshot, -, hwaiting⟩ := restart_resumes rfl hload {}
  have hsame := (hwaiting hwaits).2 7 ⟨[]⟩ hkey
  exact ⟨m, hrestart, hsnapshot, hsame.2, hthird, hfourth⟩

end Console

end Chip8
