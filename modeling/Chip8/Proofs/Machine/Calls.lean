import Chip8.Proofs.Decoding
import Chip8.Proofs.Machine.Run
import Mathlib.Data.List.Induction

set_option relaxedAutoImplicit false
set_option autoImplicit false

/-!
# Calls and returns

The return addresses are a list of at most sixteen: a call appends to it, a return takes the last
one away, and nothing else touches it. Between a call and the return that brings its depth back,
the list keeps everything that was there before the call and, after that, the address the call put
there.

## Main definitions

* `Chip8.Machine.live` — the return addresses in use.
* `Chip8.Machine.Calls`, `Chip8.Machine.Returns` — an action is a call, or a return, that succeeds.

## Main results

* `Chip8.Machine.live_after` — nothing but a call or a return touches the return addresses.
* `Chip8.Machine.prefix_live_run` — what stays between a call and its return.
* `Chip8.Machine.run_call_stack` — the return addresses along every run.
-/

namespace Chip8

/-- A call or a return may change the return addresses, and nothing else may. -/
theorem Operation.stack_mem_parts_iff {op : Operation} :
    .stack ∈ op.parts ↔ op = .ret ∨ ∃ target, op = .call target := by
  cases op <;> simp [parts]

namespace Machine

variable {κ δ : Type}

/-- The return addresses in use, the oldest first. -/
def live (m : Machine κ δ) : List UInt16 :=
  m.cpu.stack.live

theorem length_live (m : Machine κ δ) : m.live.length = m.cpu.stack.depth :=
  m.cpu.stack.length_live

/-- A machine that starts from a snapshot has its return addresses in use. -/
theorem live_boot {memory : Memory} {keypad : κ} {panel : δ} {random : RandomSource}
    {timers : Timers} {start : Snapshot} {m : Machine κ δ}
    (h : (boot memory keypad panel random timers start).1 = .ok m) :
    m.live = start.stack.toList.take start.sp.toNat := by
  by_cases hsp : start.sp.toNat ≤ stackDepth
  · simp only [boot, Cpu.ofSnapshot, CallStack.ofSlots?, hsp, dite_true] at h
    cases h
    rfl
  · simp only [boot, Cpu.ofSnapshot, CallStack.ofSlots?, hsp, dite_false, reduceCtorEq] at h

variable [Keypad κ] [Panel δ] {m : Machine κ δ} {ins : Instruction} {a : Action}

/-! ## Instructions -/

/-- A call fails if no slot is free, and otherwise appends the address of the instruction after it
and goes to its target. -/
theorem execute_call_cases (hw : m.isWaiting = false) (hgroup : ins.group = 0x2) :
    m.live.length = stackDepth ∧ m.execute ins = (.error (.stackOverflow m.cpu.pc), m) ∨
      m.live.length ≠ stackDepth ∧
        ∃ stack, m.execute ins = (.ok .executed, (m.setStack stack).setPc ins.nnn) ∧
          stack.live = m.live ++ [m.cpu.pc + 2] := by
  have hop : ins.operation? = some (.call ins.nnn) :=
    Instruction.operation?_eq_some_iff.2 ⟨hgroup, rfl⟩
  cases hpush : m.cpu.stack.push? (m.cpu.pc + Instruction.width) with
  | none =>
    have hp : m.perform (.call ins.nnn) = (.error (.stackOverflow m.cpu.pc), m) := by
      simp only [perform, call, hpush]
    exact Or.inl ⟨CallStack.push?_eq_none_iff.1 hpush, execute_of_perform_error hw hop hp⟩
  | some stack =>
    have hp : m.perform (.call ins.nnn) = (.ok (.jump ins.nnn), m.setStack stack) := by
      simp only [perform, call, hpush]
    have hfree : m.live.length ≠ stackDepth := fun hfull => by
      rw [CallStack.push?_eq_none_iff.2 hfull] at hpush
      cases hpush
    exact Or.inr ⟨hfree, stack, execute_of_perform_ok hw hop hp, CallStack.live_of_push? hpush⟩

/-- A return fails if no slot is in use, and otherwise takes the last address away and goes
there. -/
theorem execute_ret_cases (hw : m.isWaiting = false) (hgroup : ins.group = 0x0)
    (hbyte : ins.nn = 0xEE) :
    m.live = [] ∧ m.execute ins = (.error (.stackUnderflow m.cpu.pc), m) ∨
      ∃ stack target, m.execute ins = (.ok .executed, (m.setStack stack).setPc target) ∧
        m.live = stack.live ++ [target] := by
  have hop : ins.operation? = some .ret :=
    Instruction.operation?_eq_some_iff.2 ⟨hgroup, hbyte⟩
  cases hpop : m.cpu.stack.pop? with
  | none =>
    have hp : m.perform .ret = (.error (.stackUnderflow m.cpu.pc), m) := by
      simp only [perform, ret, hpop]
    exact Or.inl ⟨CallStack.pop?_eq_none_iff.1 hpop, execute_of_perform_error hw hop hp⟩
  | some popped =>
    obtain ⟨target, stack⟩ := popped
    have hp : m.perform .ret = (.ok (.jump target), m.setStack stack) := by
      simp only [perform, ret, hpop]
    exact Or.inr ⟨stack, target, execute_of_perform_ok hw hop hp, CallStack.live_of_pop? hpop⟩

/-! ## Actions -/

/-- An action is a call that succeeds. -/
def Calls (m : Machine κ δ) : Action → Prop
  | .execute ins => ins.group = 0x2 ∧ (m.execute ins).1 = .ok .executed
  | _ => False

/-- An action is a return that succeeds. -/
def Returns (m : Machine κ δ) : Action → Prop
  | .execute ins => ins.group = 0x0 ∧ ins.nn = 0xEE ∧ (m.execute ins).1 = .ok .executed
  | _ => False

/-- A machine that waits executes nothing. -/
theorem isWaiting_of_executed (h : (m.execute ins).1 = .ok .executed) : m.isWaiting = false := by
  cases hw : m.isWaiting with
  | false => rfl
  | true =>
    rw [execute_of_isWaiting hw] at h
    cases h

/-- What a call that succeeds does. -/
theorem Calls.live_after (h : m.Calls a) : (m.after a).live = m.live ++ [m.cpu.pc + 2] := by
  cases a
  case execute ins =>
    obtain ⟨hgroup, hok⟩ := h
    have hw := isWaiting_of_executed hok
    obtain ⟨-, hrun⟩ | ⟨-, stack, hrun, hlive⟩ := execute_call_cases hw hgroup
    · rw [hrun] at hok
      cases hok
    · simp only [after, hrun]
      exact hlive
  all_goals exact h.elim

/-- What a return that succeeds does. -/
theorem Returns.live_after (h : m.Returns a) :
    m.live = (m.after a).live ++ [(m.after a).cpu.pc] := by
  cases a
  case execute ins =>
    obtain ⟨hgroup, hbyte, hok⟩ := h
    have hw := isWaiting_of_executed hok
    obtain ⟨-, hrun⟩ | ⟨stack, target, hrun, hlive⟩ := execute_ret_cases hw hgroup hbyte
    · rw [hrun] at hok
      cases hok
    · simp only [after, hrun]
      exact hlive
  all_goals exact h.elim

/-- Nothing but a call or a return that succeeds touches the return addresses. -/
theorem live_after (hcalls : ¬ m.Calls a) (hreturns : ¬ m.Returns a) :
    (m.after a).live = m.live := by
  suffices hsame : Part.stack.Same m (m.after a) from congrArg CallStack.live hsame
  cases a
  case execute ins =>
    cases hw : m.isWaiting with
    | true =>
      simp only [after, execute_of_isWaiting hw]
      exact .refl m _
    | false =>
      by_cases hgroup : ins.group = 0x2
      · obtain ⟨-, hrun⟩ | ⟨-, stack, hrun, -⟩ := execute_call_cases hw hgroup
        · simp only [after, hrun]
          exact .refl m _
        · exact absurd ⟨hgroup, by rw [hrun]⟩ hcalls
      · by_cases hret : ins.group = 0x0 ∧ ins.nn = 0xEE
        · obtain ⟨hgroup, hbyte⟩ := hret
          obtain ⟨-, hrun⟩ | ⟨stack, target, hrun, -⟩ := execute_ret_cases hw hgroup hbyte
          · simp only [after, hrun]
            exact .refl m _
          · exact absurd ⟨hgroup, hbyte, by rw [hrun]⟩ hreturns
        · refine m.same_execute (fun op hop => ?_) (by decide)
          rw [Operation.stack_mem_parts_iff]
          have hcoded := Instruction.operation?_eq_some_iff.1 hop
          rintro (rfl | ⟨target, rfl⟩)
          · exact hret hcoded
          · exact hgroup hcoded.1
  all_goals exact m.same_after (by simp [Action.parts])

/-! ## Runs -/

/-- What stays between a call and its return: as long as no return goes below the addresses
`kept`, they stay the oldest ones.

**Proof sketch.** Induction on the run from its end. A call appends, and a return takes only the
last address away, which is not one of `kept` unless `kept` is all there is. -/
theorem prefix_live_run {kept : List UInt16} {actions : List Action} (hstart : kept <+: m.live)
    (habove : ∀ pre a, pre ++ [a] <+: actions → (m.run pre).Returns a →
      (m.run (pre ++ [a])).live.length + 1 ≠ kept.length) :
    kept <+: (m.run actions).live := by
  induction actions using List.reverseRecOn with
  | nil => exact hstart
  | append_singleton actions a ih =>
    have hbefore : kept <+: (m.run actions).live :=
      ih fun pre b hpre => habove pre b (hpre.trans (List.prefix_append _ _))
    have hlast := habove actions a (List.prefix_refl _)
    rw [run_concat] at hlast ⊢
    by_cases hcalls : (m.run actions).Calls a
    · rw [hcalls.live_after]
      exact hbefore.trans (List.prefix_append _ _)
    · by_cases hreturns : (m.run actions).Returns a
      · rw [hreturns.live_after, List.prefix_concat_iff] at hbefore
        rcases hbefore with rfl | hbefore
        · exact absurd (by simp) (hlast hreturns)
        · exact hbefore
      · rwa [live_after hcalls hreturns]

/-- A call and the first return that brings its depth back: the addresses from before the call
stay where they were all the time, and the return goes to the instruction after the call. -/
theorem run_matched {call last : Action} {between : List Action} (hcall : m.Calls call)
    (hlast : ((m.after call).run between).Returns last)
    (hdepth : (((m.after call).run between).after last).live.length = m.live.length)
    (hfirst : ∀ pre a, pre ++ [a] <+: between → ((m.after call).run pre).Returns a →
      ((m.after call).run (pre ++ [a])).live.length ≠ m.live.length) :
    (∀ pre, pre <+: between → m.live ++ [m.cpu.pc + 2] <+: ((m.after call).run pre).live) ∧
      (((m.after call).run between).after last).cpu.pc = m.cpu.pc + 2 ∧
      (((m.after call).run between).after last).live = m.live := by
  have hkept : ∀ pre, pre <+: between →
      m.live ++ [m.cpu.pc + 2] <+: ((m.after call).run pre).live := by
    intro pre hpre
    have hstart : m.live ++ [m.cpu.pc + 2] <+: (m.after call).live :=
      hcall.live_after ▸ List.prefix_refl _
    refine prefix_live_run hstart fun pre' a hpre' hreturns hlength => ?_
    refine hfirst pre' a (hpre'.trans hpre) hreturns ?_
    simpa using hlength
  have hend := hkept between (List.prefix_refl _)
  rw [hlast.live_after] at hend
  have hsame := hend.eq_of_length (by simp [hdepth])
  obtain ⟨hlive, hpc⟩ := List.append_inj' hsame rfl
  exact ⟨hkept, (List.singleton_inj.1 hpc).symm, hlive.symm⟩

/-- **Calls and returns along every run.** The return addresses are a list of at most sixteen,
which is the one of the snapshot at the start. A call fails exactly if there are sixteen, and
otherwise appends the address of the instruction after it and goes to its target. A return fails
exactly if there are none, and otherwise takes the last one away and goes there. Nothing else
touches the list. A call and the first return that brings its depth back leave the list as it was,
with the program counter after the call, whatever is called and returned from in between. -/
theorem run_call_stack {memory : Memory} {keypad : κ} {panel : δ} {random : RandomSource}
    {timers : Timers} {start : Snapshot} {m₀ : Machine κ δ}
    (hboot : (boot memory keypad panel random timers start).1 = .ok m₀) :
    m₀.live = start.stack.toList.take start.sp.toNat ∧
    ∀ before : List Action,
      let m := m₀.run before
      m.live.length = m.cpu.stack.depth ∧ m.live.length ≤ stackDepth ∧
      (∀ ins : Instruction, m.isWaiting = false → ins.group = 0x2 →
        ((m.execute ins).1 = .error (.stackOverflow m.cpu.pc) ↔ m.live.length = stackDepth) ∧
        (m.live.length ≠ stackDepth → (m.execute ins).1 = .ok .executed ∧
          (m.execute ins).2.live = m.live ++ [m.cpu.pc + 2] ∧
          (m.execute ins).2.cpu.pc = ins.nnn)) ∧
      (∀ ins : Instruction, m.isWaiting = false → ins.group = 0x0 → ins.nn = 0xEE →
        ((m.execute ins).1 = .error (.stackUnderflow m.cpu.pc) ↔ m.live = []) ∧
        ∀ older target, m.live = older ++ [target] → (m.execute ins).1 = .ok .executed ∧
          (m.execute ins).2.live = older ∧ (m.execute ins).2.cpu.pc = target) ∧
      (∀ a, ¬ m.Calls a → ¬ m.Returns a → (m.after a).live = m.live) ∧
      ∀ call between last, m.Calls call → ((m.after call).run between).Returns last →
        (((m.after call).run between).after last).live.length = m.live.length →
        (∀ pre a, pre ++ [a] <+: between → ((m.after call).run pre).Returns a →
          ((m.after call).run (pre ++ [a])).live.length ≠ m.live.length) →
        (∀ pre, pre <+: between → m.live ++ [m.cpu.pc + 2] <+: ((m.after call).run pre).live) ∧
        (((m.after call).run between).after last).cpu.pc = m.cpu.pc + 2 ∧
        (((m.after call).run between).after last).live = m.live := by
  refine ⟨live_boot hboot, fun before => ?_⟩
  intro m
  refine ⟨m.length_live, ?_, ?_, ?_, fun a => live_after, ?_⟩
  · exact m.length_live ▸ m.cpu.stack.depth_le
  · intro ins hw hgroup
    obtain ⟨hfull, hrun⟩ | ⟨hfree, stack, hrun, hlive⟩ := execute_call_cases hw hgroup
    · rw [hrun]
      exact ⟨iff_of_true rfl hfull, fun hfree => absurd hfull hfree⟩
    · rw [hrun]
      exact ⟨iff_of_false nofun hfree, fun _ => ⟨rfl, hlive, rfl⟩⟩
  · intro ins hw hgroup hbyte
    obtain ⟨hempty, hrun⟩ | ⟨stack, target, hrun, hlive⟩ := execute_ret_cases hw hgroup hbyte
    · rw [hrun]
      exact ⟨iff_of_true rfl hempty, fun older target hlive => by simp [hempty] at hlive⟩
    · rw [hrun]
      refine ⟨iff_of_false nofun (by simp [hlive]), fun older target' hlive' => ?_⟩
      obtain ⟨rfl, rfl⟩ : stack.live = older ∧ target = target' := by
        simpa using hlive.symm.trans hlive'
      exact ⟨rfl, rfl, rfl⟩
  · intro call between last hcall hlast hdepth hfirst
    exact run_matched hcall hlast hdepth hfirst

/-- A subroutine that calls another one: the second call is made with one address in use, and the
first return brings the depth back to that. -/
theorem run_call_stack_nested :
    let m₀ := switchedOn (⟨[]⟩ : ScriptedKeypad) NoPanel.mk
    let call : Action := .execute ⟨0x23, 0x00⟩
    let inner : Action := .execute ⟨0x24, 0x56⟩
    let ret : Action := .execute ⟨0x00, 0xEE⟩
    (boot Memory.fresh (⟨[]⟩ : ScriptedKeypad) NoPanel.mk (RandomSource.seeded 0) {}
      (Snapshot.startingAt 0x200)).1 = .ok m₀ ∧
      (m₀.run [call, inner]).live = [0x202, 0x302] ∧
      ((m₀.run [call, inner, ret]).after ret).cpu.pc = 0x202 ∧
      ((m₀.run [call, inner, ret]).after ret).live = [] := by
  intro m₀ call inner ret
  have hboot : (boot Memory.fresh (⟨[]⟩ : ScriptedKeypad) NoPanel.mk (RandomSource.seeded 0) {}
      (Snapshot.startingAt 0x200)).1 = .ok m₀ := rfl
  obtain ⟨-, hruns⟩ := run_call_stack hboot
  obtain ⟨-, -, -, -, -, hmatched⟩ := hruns []
  have hfirst : ∀ pre a, pre ++ [a] <+: [inner, ret] → ((m₀.after call).run pre).Returns a →
      ((m₀.after call).run (pre ++ [a])).live.length ≠ m₀.live.length := by
    intro pre a hpre hreturns
    rcases pre with _ | ⟨b, _ | ⟨c, pre⟩⟩
    · obtain rfl : a = inner := by simpa using hpre
      exact absurd hreturns.1 (by decide)
    · obtain ⟨rfl, rfl⟩ : b = inner ∧ a = ret := by simpa using hpre
      exact Nat.one_ne_zero
    · simp at hpre
  obtain ⟨-, hpc, hlive⟩ := hmatched call [inner, ret] ret ⟨by decide, rfl⟩
    ⟨by decide, by decide, rfl⟩ rfl hfirst
  exact ⟨hboot, rfl, hpc, hlive⟩

end Machine

end Chip8
