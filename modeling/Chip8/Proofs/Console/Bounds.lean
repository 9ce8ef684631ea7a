import Chip8.Proofs.Console.Moves
import Chip8.Proofs.Machine.Awaiting
import Chip8.Proofs.Machine.ProgramCounter

set_option relaxedAutoImplicit false
set_option autoImplicit false

/-!
# The program counter stays near memory

The program counter is checked when an instruction is fetched and moved by additions that could go
past the last address there is. None of them does: an instruction is fetched from inside memory and
leads at most a little past its end, and so do the return addresses. So a program that runs off the
end of memory is told so by the next step.

## Main definitions

* `Chip8.Machine.Bounded` — the return addresses are in memory or right after it, and a machine that
  waits is inside memory.
* `Chip8.Console.Completes` — the next step completes an instruction.

## Main results

* `Chip8.Machine.toNat_pc_execute` — how far an instruction leads.
* `Chip8.Machine.bounded_execute` — the bounds are kept by an instruction.
* `Chip8.Console.pc_play` — the bound of the program counter along every run.
* `Chip8.Console.pc_never_wraps` — no addition goes past the last address, and running off the end
  of memory is told.
-/

namespace Chip8

/-- A sum of addresses that is an address. -/
theorem toNat_add_of_lt {a b : UInt16} (h : a.toNat + b.toNat < 65536) :
    (a + b).toNat = a.toNat + b.toNat := by
  rw [UInt16.toNat_add]
  exact Nat.mod_eq_of_lt h

/-- The address in a word has three digits. -/
theorem Instruction.toNat_nnn_le (ins : Instruction) : ins.nnn.toNat ≤ 0xFFF := by
  have hx := ins.x.isLt
  have hnn := ins.nn.toNat_lt
  rw [ins.toNat_nnn]
  omega

namespace Machine

variable {κ δ : Type} {m m' : Machine κ δ} {ins : Instruction} {e : Error} {step : Step}

/-! ## Inside memory -/

/-- An instruction is fetched from inside memory. -/
theorem toNat_pc_of_fetch_eq_ok (h : m.fetch = .ok ins) : m.cpu.pc.toNat ≤ 0xFFE := by
  by_contra hpc
  have hread : m.memory.read m.cpu.pc Instruction.width.toNat =
      .error (.outOfRange m.cpu.pc Instruction.width.toNat) := by
    refine Memory.read_eq_error_iff.2 ⟨?_, rfl⟩
    have hwidth : Instruction.width.toNat = 2 := rfl
    simp only [memorySize, hwidth]
    omega
  rw [fetch, Memory.fetch, hread] at h
  cases h

/-- Inside memory, a few bytes on is an address. -/
theorem toNat_pc_add (h : m.cpu.pc.toNat ≤ 0xFFE) {k : UInt16} (hk : k.toNat ≤ 4) :
    (m.cpu.pc + k).toNat = m.cpu.pc.toNat + k.toNat :=
  toNat_add_of_lt (by omega)

/-- Past the end of memory there is no instruction. -/
theorem fetch_of_lt (h : 0xFFE < m.cpu.pc.toNat) : m.fetch = .error (.outOfRange m.cpu.pc 2) := by
  have hread : m.memory.read m.cpu.pc 2 = .error (.outOfRange m.cpu.pc 2) := by
    refine Memory.read_eq_error_iff.2 ⟨?_, rfl⟩
    simp only [memorySize]
    omega
  exact congrArg (·.bind Instruction.ofBytes) hread

/-- The return addresses are in memory or right after it, and a machine that waits is inside
memory. -/
structure Bounded (m : Machine κ δ) : Prop where
  /-- A return address comes after an instruction. -/
  live : ∀ r ∈ m.live, r.toNat ≤ 0x1000
  /-- The machine waits at an instruction. -/
  waiting : m.isWaiting = true → m.cpu.pc.toNat ≤ 0xFFE

/-- A machine with the same return addresses, program counter and wait is as bounded. -/
theorem Bounded.congr (h : m.Bounded) (hstack : Part.stack.Same m m') (hpc : Part.pc.Same m m')
    (hawaiting : Part.awaiting.Same m m') : m'.Bounded := by
  constructor
  · rw [Machine.live, show m'.cpu.stack = m.cpu.stack from hstack]
    exact h.live
  · rw [isWaiting, show m'.cpu.awaiting = m.cpu.awaiting from hawaiting,
      show m'.cpu.pc = m.cpu.pc from hpc]
    exact h.waiting

variable [Keypad κ]

/-- A machine that takes an instruction is bounded. -/
theorem Bounded.proceeds (h : m.Bounded) (hm : m.Proceeds m') : m'.Bounded := by
  refine ⟨?_, fun hw => ?_⟩
  · cases hm with
    | awake => exact h.live
    | key => exact h.live
  · rw [hm.isWaiting_eq] at hw
    cases hw

variable [Panel δ]

/-! ## One instruction -/

/-- How far an instruction leads: past the next one, to the highest target of a jump, or to a return
address. -/
theorem toNat_pc_execute (hfetch : m.fetch = .ok ins) (hlive : ∀ r ∈ m.live, r.toNat ≤ 0x1000)
    (hrun : m.execute ins = (.ok .executed, m')) : m'.cpu.pc.toNat ≤ 0x10FE := by
  have hpc := toNat_pc_of_fetch_eq_ok hfetch
  have hmoves := movesTo_of_execute hrun
  have hnnn := ins.toNat_nnn_le
  by_cases hjump : ins.group = 0x1 ∨ ins.group = 0x2
  · rw [hmoves.jump hjump]
    omega
  by_cases hoffset : ins.group = 0xB
  · have hv := (m.register 0).toNat_lt
    rw [hmoves.offset hoffset]
    omega
  by_cases hret : ins.group = 0x0 ∧ ins.nn = 0xEE
  · have htarget : m'.cpu.pc.toNat ≤ 0x1000 := hlive _ (by simp [hmoves.ret hret])
    omega
  by_cases hskips : m.Skips ins m.keyDown
  · rw [hmoves.skip hskips, toNat_pc_add hpc (by decide)]
    exact Nat.le_trans (Nat.add_le_add_right hpc _) (by decide)
  · have hgroup : ins.group ∉ [0x1, 0x2, 0xB] := by
      simpa [not_or] using ⟨not_or.1 hjump |>.1, not_or.1 hjump |>.2, hoffset⟩
    rw [hmoves.next hgroup hret hskips, toNat_pc_add hpc (by decide)]
    exact Nat.le_trans (Nat.add_le_add_right hpc _) (by decide)

/-- An instruction that begins a wait stays where it is. -/
theorem pc_of_execute_waiting (hw : m.isWaiting = false)
    (hrun : m.execute ins = (.ok .waiting, m')) : m'.cpu.pc = m.cpu.pc := by
  obtain ⟨op, -, hpc, hstep⟩ := exists_course_of_execute hw hrun
  rw [hpc, hstep.1 rfl]
  rfl

/-- The bounds are kept by an instruction, whether it succeeds or fails. -/
theorem bounded_execute (h : m.Bounded) (hawake : m.cpu.awaiting = none)
    (hfetch : m.fetch = .ok ins) : (m.execute ins).2.Bounded := by
  have hpc := toNat_pc_of_fetch_eq_ok hfetch
  constructor
  · show ∀ r ∈ (m.after (.execute ins)).live, r.toNat ≤ 0x1000
    by_cases hcalls : m.Calls (.execute ins)
    · intro r hr
      rw [hcalls.live_after, List.mem_append, List.mem_singleton] at hr
      rcases hr with hr | rfl
      · exact h.live r hr
      · rw [toNat_pc_add hpc (by decide)]
        exact Nat.add_le_add_right hpc 2
    by_cases hreturns : m.Returns (.execute ins)
    · intro r hr
      apply h.live r
      rw [hreturns.live_after]
      exact List.mem_append_left _ hr
    · rw [live_after hcalls hreturns]
      exact h.live
  · intro hwaiting
    rcases hrun : m.execute ins with ⟨e | step, m'⟩
    · have hsame : m'.cpu.pc = m.cpu.pc := same_of_execute_error (p := .pc) hrun (by decide)
      rw [hsame]
      exact hpc
    · rw [hrun] at hwaiting
      obtain ⟨x, hx⟩ := Option.isSome_iff_exists.1 hwaiting
      obtain ⟨-, -, -, -, keypad, -, rfl⟩ := awaits_of_execute hawake hrun hx
      exact hpc

end Machine

namespace Console

variable {κ δ σ : Type} [Keypad κ] [Panel δ] {c : Console κ δ σ}

/-! ## One step -/

/-- The next step completes an instruction: a key completes the one that waits for it, or one is
executed. -/
inductive Completes (c : Console κ δ σ) : Prop
  /-- A key ends the wait. -/
  | key {x : Fin 16} {key : UInt8} {keypad : κ} (hx : c.machine.cpu.awaiting = some x)
    (hpoll : Keypad.poll c.machine.keypad = (.ok (some key), keypad))
  /-- An instruction is executed. -/
  | executed {m : Machine κ δ} {ins : Instruction} (hm : c.machine.Proceeds m)
    (hfetch : m.fetch = .ok ins) (hrun : (m.execute ins).1 = .ok .executed)

/-- A console that completes an instruction is inside memory. -/
theorem Completes.toNat_pc (h : c.Completes) (hbounded : c.machine.Bounded) :
    c.machine.cpu.pc.toNat ≤ 0xFFE := by
  cases h with
  | @key x key keypad hx => exact hbounded.waiting (Option.isSome_iff_exists.2 ⟨x, hx⟩)
  | executed hm hfetch =>
    cases hm with
    | awake => exact Machine.toNat_pc_of_fetch_eq_ok hfetch
    | @key x key keypad hx => exact hbounded.waiting (Option.isSome_iff_exists.2 ⟨x, hx⟩)

/-- Before an instruction is taken, the program counter stays, or a key moves it on. -/
theorem pc_of_proceeds {m : Machine κ δ} (h : c.machine.Bounded) (hm : c.machine.Proceeds m) :
    m.cpu.pc = c.machine.cpu.pc ∨ c.Completes ∧ m.cpu.pc.toNat ≤ 0x10FE := by
  cases hm with
  | awake => exact .inl rfl
  | @key x key keypad hx hpoll =>
    refine .inr ⟨.key hx hpoll, ?_⟩
    have hpc := h.waiting (Option.isSome_iff_exists.2 ⟨x, hx⟩)
    show (c.machine.cpu.pc + Instruction.width).toNat ≤ 0x10FE
    rw [Machine.toNat_pc_add hpc (by decide)]
    exact Nat.le_trans (Nat.add_le_add_right hpc _) (by decide)

/-- The program counter stays, or an instruction is completed and does not lead far. -/
theorem pc_step (h : c.machine.Bounded) :
    c.step.2.machine.cpu.pc = c.machine.cpu.pc ∨
      c.Completes ∧ c.step.2.machine.cpu.pc.toNat ≤ 0x10FE := by
  rcases hstep : c.step with ⟨r, c'⟩
  cases takes_of_step hstep with
  | unheard | silent => exact .inl rfl
  | lost hm => exact pc_of_proceeds h hm
  | @refused m m' ins e hm hfetch hrun =>
    have hsame : m'.cpu.pc = m.cpu.pc := Machine.same_of_execute_error (p := .pc) hrun (by decide)
    simp only [onMachine, hsame]
    exact pc_of_proceeds h hm
  | @done m m' ins s hm hfetch hrun =>
    rw [machine_record]
    simp only [onMachine]
    cases s with
    | executed =>
      refine .inr ⟨.executed hm hfetch (by rw [hrun]), ?_⟩
      exact Machine.toNat_pc_execute hfetch (h.proceeds hm).live hrun
    | waiting =>
      rw [Machine.pc_of_execute_waiting hm.isWaiting_eq hrun]
      exact pc_of_proceeds h hm

theorem bounded_step (h : c.machine.Bounded) : c.step.2.machine.Bounded := by
  apply step_invariant
  · intro keypad
    exact h.congr rfl rfl rfl
  · intro m hm
    exact h.proceeds hm
  · intro m ins hm hawake hfetch
    exact Machine.bounded_execute hm hawake hfetch

/-! ## A run -/

variable [Speaker σ] {moves : List (Move κ)} {mv : Move κ}

theorem bounded_moved (h : c.machine.Bounded) : (c.moved mv).machine.Bounded := by
  cases mv with
  | step => exact bounded_step h
  | beat | use => exact h.congr rfl rfl rfl
  | load source =>
    have hcpu : (c.moved (.load source)).machine.cpu = c.machine.cpu := cpu_loadProgram c source
    refine h.congr ?_ ?_ ?_
    · exact congrArg (·.stack) hcpu
    · exact congrArg (·.pc) hcpu
    · exact congrArg (·.awaiting) hcpu

theorem bounded_play (h : c.machine.Bounded) (moves : List (Move κ)) :
    (c.play moves).machine.Bounded :=
  play_invariant (P := fun c => c.machine.Bounded) h (fun _ _ => bounded_moved) moves

/-- Only a step that completes an instruction moves the program counter, and not far. -/
theorem pc_moved (h : c.machine.Bounded) :
    (c.moved mv).machine.cpu.pc = c.machine.cpu.pc ∨
      mv = .step ∧ c.Completes ∧ (c.moved mv).machine.cpu.pc.toNat ≤ 0x10FE := by
  cases mv with
  | step =>
    rcases pc_step h with hsame | ⟨hcompletes, hpc⟩
    · exact .inl hsame
    · exact .inr ⟨rfl, hcompletes, hpc⟩
  | beat | use => exact .inl rfl
  | load source => exact .inl (congrArg (·.pc) (cpu_loadProgram c source))

/-- Along every run the program counter is where it was at the start, or an instruction was
completed and it is not far past the end of memory.

**Proof sketch.** Induction on the moves from their end. If the last one does not move the program
counter, it is where it was; otherwise it is a step that completes an instruction. -/
theorem pc_play (h : c.machine.Bounded) :
    (∀ pre, pre ++ [.step] <+: moves → ¬ (c.play pre).Completes) ∧
        (c.play moves).machine.cpu.pc = c.machine.cpu.pc ∨
      (c.play moves).machine.cpu.pc.toNat ≤ 0x10FE := by
  induction moves using List.reverseRecOn with
  | nil => exact .inl ⟨fun pre hpre => by simp at hpre, rfl⟩
  | append_singleton moves mv ih =>
    have hbefore := bounded_play h moves
    rw [play_concat]
    by_cases hcompletes : mv = .step ∧ (c.play moves).Completes
    · right
      rcases pc_moved hbefore with hsame | ⟨-, -, hpc⟩
      · have hpc := hcompletes.2.toNat_pc hbefore
        rw [hsame]
        omega
      · exact hpc
    · have hsame : ((c.play moves).moved mv).machine.cpu.pc = (c.play moves).machine.cpu.pc := by
        rcases pc_moved hbefore with hsame | ⟨hmv, hdone, -⟩
        · exact hsame
        · exact absurd ⟨hmv, hdone⟩ hcompletes
      rw [hsame]
      rcases ih with ⟨hnone, hpc⟩ | hpc
      · refine .inl ⟨fun pre hpre hdone => ?_, hpc⟩
        rcases List.prefix_concat_iff.1 hpre with hall | hpre
        · obtain ⟨rfl, hmv⟩ := List.append_inj' hall rfl
          exact hcompletes ⟨(List.singleton_inj.1 hmv).symm, hdone⟩
        · exact hnone pre hpre hdone
      · exact .inr hpc

omit [Keypad κ] [Panel δ] [Speaker σ] in
/-- A console that just started is within its bounds. -/
theorem bounded_start (config : Config) (keypad : κ) (panel : δ) (speaker : σ)
    (random : RandomSource) (trace : Option Sink) :
    (start config keypad panel speaker random trace).machine.Bounded := by
  refine ⟨fun r hr => ?_, nofun⟩
  simp [Machine.live, start, Cpu.startingAt, CallStack.empty, CallStack.live] at hr

/-- **The program counter never wraps, and running off the end of memory is told.** Whatever
happens to a console after it started, its program counter is at the entry point if no instruction
was completed, and otherwise at most `0x10FE`; its return addresses are at most `0x1000`. A key that
ends a wait moves the program counter on without a wrap. An instruction that is taken is inside
memory, and none of the sums that it can make the program counter or a return address goes past the
last address. If there is no instruction at the program counter since that is too close to the end
of memory or past it, the step says so and executes nothing. -/
theorem pc_never_wraps (config : Config) (keypad : κ) (panel : δ) (speaker : σ)
    (random : RandomSource) (trace : Option Sink) (moves : List (Move κ)) :
    let c₀ := start config keypad panel speaker random trace
    let c := c₀.play moves
    ((∀ pre, pre ++ [.step] <+: moves → ¬ (c₀.play pre).Completes) ∧
        c.machine.cpu.pc = config.entryPoint ∨ c.machine.cpu.pc.toNat ≤ 0x10FE) ∧
      (∀ r ∈ c.machine.live, r.toNat ≤ 0x1000) ∧
      (c.machine.isWaiting = true →
        (c.machine.cpu.pc + Instruction.width).toNat = c.machine.cpu.pc.toNat + 2) ∧
      ∀ m, c.machine.Proceeds m →
        (∀ ins, m.fetch = .ok ins → m.cpu.pc.toNat ≤ 0xFFE ∧
          (m.cpu.pc + Instruction.width).toNat = m.cpu.pc.toNat + 2 ∧
          (m.cpu.pc + 2 * Instruction.width).toNat = m.cpu.pc.toNat + 4 ∧
          (ins.nnn + (m.register 0).toUInt16).toNat = ins.nnn.toNat + (m.register 0).toNat) ∧
        (0xFFE < m.cpu.pc.toNat →
          c.step = (.error (.outOfRange m.cpu.pc 2), c.onMachine m)) := by
  intro c₀ c
  have hstart : c₀.machine.Bounded := bounded_start config keypad panel speaker random trace
  have hbounded : c.machine.Bounded := bounded_play hstart moves
  refine ⟨pc_play hstart, hbounded.live, fun hwaits => ?_, fun m hm => ⟨fun ins hfetch => ?_, ?_⟩⟩
  · exact Machine.toNat_pc_add (hbounded.waiting hwaits) (by decide)
  · have hpc := Machine.toNat_pc_of_fetch_eq_ok hfetch
    refine ⟨hpc, Machine.toNat_pc_add hpc (by decide), Machine.toNat_pc_add hpc (by decide), ?_⟩
    have hnnn := ins.toNat_nnn_le
    have hv := (m.register 0).toNat_lt
    rw [toNat_add_of_lt, UInt8.toNat_toUInt16]
    rw [UInt8.toNat_toUInt16]
    omega
  · intro hpc
    exact (Takes.lost hm (Machine.fetch_of_lt hpc)).step_eq

/-- A program in the last two bytes of memory that skips an instruction. -/
theorem pc_never_wraps_after_skip :
    let c₀ : Console ScriptedKeypad NoPanel Mute :=
      start { entryPoint := 0xFFE } ⟨[]⟩ NoPanel.mk Mute.mk (RandomSource.seeded 0) none
    let c := c₀.play [.load (Source.ofBytes [0x30, 0x00]), .step]
    c.machine.cpu.pc = 0x1002 ∧ c.step.1 = .error (.outOfRange 0x1002 2) := by
  intro c₀ c
  obtain ⟨hawake, hpc⟩ : c.machine.cpu.awaiting = none ∧ c.machine.cpu.pc = 0x1002 := by
    decide +kernel
  have hproceeds : c.machine.Proceeds c.machine := .awake hawake
  have hlost : 0xFFE < c.machine.cpu.pc.toNat := by
    rw [hpc]
    decide
  obtain ⟨-, -, -, htaken⟩ := pc_never_wraps { entryPoint := 0xFFE } (⟨[]⟩ : ScriptedKeypad)
    NoPanel.mk Mute.mk (RandomSource.seeded 0) none [.load (Source.ofBytes [0x30, 0x00]), .step]
  have hstep : c.step.1 = .error (.outOfRange c.machine.cpu.pc 2) :=
    congrArg Prod.fst ((htaken c.machine hproceeds).2 hlost)
  exact ⟨hpc, hpc ▸ hstep⟩

end Console

end Chip8
