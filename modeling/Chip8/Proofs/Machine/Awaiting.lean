import Chip8.Proofs.Machine.Effects
import Chip8.Proofs.Machine.Failure

set_option relaxedAutoImplicit false
set_option autoImplicit false

/-!
# How a wait for a key begins

A machine that waits keeps the register that the key is for, and its program counter stays at the
instruction that asks for the key. Both say the same: only that instruction begins a wait, and
when it does, it changes nothing else. An instruction that fails begins no wait, whatever it was.

## Main definitions

* `Chip8.Machine.Coherent` — a machine that waits is at the instruction that asks for the key.

## Main results

* `Chip8.Machine.same_of_execute_error` — what stays when an instruction fails.
* `Chip8.Machine.awaits_of_execute` — how a wait begins.
* `Chip8.Machine.coherent_execute` — the instruction at the program counter leaves the machine
  coherent.
-/

namespace Chip8

namespace Machine

variable {κ δ : Type} {m m' : Machine κ δ}

/-- A machine that waits for a key is at the instruction that asks for it, and the key is for the
register that this instruction names. -/
def Coherent (m : Machine κ δ) : Prop :=
  ∀ x, m.cpu.awaiting = some x →
    ∃ ins, m.fetch = .ok ins ∧ ins.group = 0xF ∧ ins.nn = 0x0A ∧ ins.x = x

theorem coherent_of_awaiting_eq_none (h : m.cpu.awaiting = none) : m.Coherent := by
  intro x hx
  rw [h] at hx
  cases hx

/-- A machine with the same wait, program counter and memory is as coherent. -/
theorem Coherent.congr (h : m.Coherent) (hawaiting : Part.awaiting.Same m m')
    (hpc : Part.pc.Same m m') (hmemory : Part.memory.Same m m') : m'.Coherent := by
  intro x hx
  have hfetch : m'.fetch = m.fetch := by
    rw [fetch, fetch, show m'.cpu.pc = m.cpu.pc from hpc, show m'.memory = m.memory from hmemory]
  rw [show m'.cpu.awaiting = m.cpu.awaiting from hawaiting] at hx
  rw [hfetch]
  exact h x hx

variable [Keypad κ] [Panel δ] {p : Part} {op : Operation} {ins : Instruction} {e : Error}
  {s : Step}

/-! ## Instructions that fail -/

/-- An operation that fails changes no part but these. -/
theorem Refuses.same (h : m.Refuses op e m') (hp : p ∉ [.registers, .keypad, .screen]) :
    p.Same m m' := by
  simp only [List.mem_cons, List.not_mem_nil, or_false, not_or] at hp
  obtain ⟨hregisters, hkeypad, hscreen⟩ := hp
  cases h with
  | overflow | underflow | outside => exact .refl m p
  | unheard => exact m.same_keypad _ hkeypad
  | unshown hpainted hpresent =>
    have hparts : p ∉ op.parts := by
      rcases painted?_eq_some hpainted with ⟨rfl, -⟩ | ⟨x, y, height, rfl, -⟩
      · simpa [Operation.parts] using hscreen
      · simpa [Operation.parts] using ⟨hregisters, hscreen⟩
    have hsame := m.same_perform hparts
    rwa [perform_of_painted? hpainted, showFrame_of_error hpresent] at hsame

/-- An instruction that fails changes no part but these. -/
theorem same_of_execute_error (h : m.execute ins = (.error e, m'))
    (hp : p ∉ [.registers, .keypad, .screen]) : p.Same m m' := by
  obtain ⟨-, ⟨-, -, rfl⟩ | ⟨op, -, hperform⟩⟩ := execute_eq_error h
  · exact .refl m' p
  · exact (refuses_of_perform hperform).same hp

/-! ## Instructions that succeed -/

/-- A wait begins with the instruction that asks for a key, if there is none, and nothing else
happens. -/
theorem awaits_of_execute {x : Fin 16} (hawake : m.cpu.awaiting = none)
    (h : m.execute ins = (.ok s, m')) (hx : m'.cpu.awaiting = some x) :
    ins.group = 0xF ∧ ins.nn = 0x0A ∧ ins.x = x ∧ s = .waiting ∧
      ∃ keypad, Keypad.poll m.keypad = (.ok none, keypad) ∧
        m' = { m with keypad }.setAwaiting (some x) := by
  have hw : m.isWaiting = false := isWaiting_eq_false_iff.2 hawake
  obtain ⟨-, op, a, m₁, hop, hperform, hadvance⟩ := (execute_eq_ok h).resolve_left (by simp [hw])
  obtain rfl : m' = m₁.setPc (a.target m₁.cpu.pc) := by rw [← m₁.advance_snd a, hadvance]
  have hmem : .awaiting ∈ op.parts := by
    refine mem_parts_of_not_same hperform fun hsame => ?_
    have hnone : m₁.cpu.awaiting = none := Eq.trans hsame hawake
    simp [setPc, hnone] at hx
  cases op <;> simp only [Operation.parts, List.mem_cons, List.not_mem_nil, or_false, or_true,
    reduceCtorEq] at hmem
  case awaitKey r =>
    obtain ⟨hgroup, hbyte, rfl⟩ := Instruction.operation?_eq_some_iff.1 hop
    obtain ⟨keypad, hpoll, rfl, rfl⟩ | ⟨key, keypad, -, rfl, rfl⟩ := awaitKey_eq_ok hperform
    · cases hx
      exact ⟨hgroup, hbyte, rfl, (congrArg Prod.fst hadvance).symm, keypad, hpoll, rfl⟩
    · -- with a key the wait is over at once
      have hnone : m.cpu.awaiting = some x := hx
      rw [hawake] at hnone
      cases hnone

/-- The instruction at the program counter leaves the machine coherent, whether it succeeds or
fails. -/
theorem coherent_execute (hawake : m.cpu.awaiting = none) (hfetch : m.fetch = .ok ins) :
    (m.execute ins).2.Coherent := by
  rcases h : m.execute ins with ⟨e | s, m'⟩
  · have hsame : m'.cpu.awaiting = m.cpu.awaiting :=
      same_of_execute_error (p := .awaiting) h (by decide)
    exact coherent_of_awaiting_eq_none (hsame.trans hawake)
  · intro x hx
    obtain ⟨hgroup, hbyte, rfl, -, keypad, -, rfl⟩ := awaits_of_execute hawake h hx
    exact ⟨ins, hfetch, hgroup, hbyte, rfl⟩

end Machine

end Chip8
