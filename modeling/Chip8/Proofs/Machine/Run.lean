import Chip8.Proofs.Machine.Footprint

set_option relaxedAutoImplicit false
set_option autoImplicit false

/-!
# Runs of a machine

Everything that can be asked of a machine, in any order. A failure is an answer like any other:
the run goes on with what it left behind.

## Main definitions

* `Chip8.Machine.Action` — what can be asked of a machine.
* `Chip8.Machine.after` — the machine after an action.
* `Chip8.Machine.run` — the machine after some actions.
* `Chip8.Machine.Action.parts` — the parts that an action may change.

## Main results

* `Chip8.Machine.same_after` — an action changes its parts only.
-/

namespace Chip8

namespace Machine

variable {κ δ : Type}

/-- What can be asked of a machine. -/
inductive Action where
  /-- To execute an instruction. -/
  | execute (ins : Instruction)
  /-- To finish a wait for a key, if a key is down. -/
  | proceed
  /-- To let the timers count down. -/
  | tick
  /-- To put bytes into memory. -/
  | write (addr : UInt16) (data : List UInt8)
  /-- To read a program into memory. -/
  | load (source : Source)
  /-- To let some nanoseconds pass on the keypad. -/
  | elapse (nanos : Nat)

/-- The parts that an action may change. -/
def Action.parts : Action → List Part
  | execute ins => .pc :: (ins.operation?.map Operation.parts).getD []
  | proceed => [.keypad, .registers, .awaiting, .pc]
  | tick => [.timers]
  | write .. | load _ => [.memory]
  | elapse _ => [.keypad]

variable [Keypad κ] [Panel δ]

/-- The machine after an action, whether that succeeded or not. -/
def after (m : Machine κ δ) : Action → Machine κ δ
  | .execute ins => (m.execute ins).2
  | .proceed => m.canProceed.2
  | .tick => m.tick.2
  | .write addr data => (m.write addr data).2
  | .load source => (m.loadProgram source).2
  | .elapse nanos => { m with keypad := Keypad.elapse nanos m.keypad }

/-- The machine after some actions. -/
def run (m : Machine κ δ) (actions : List Action) : Machine κ δ :=
  actions.foldl after m

@[simp] theorem run_concat (m : Machine κ δ) (actions : List Action) (a : Action) :
    m.run (actions ++ [a]) = (m.run actions).after a := by
  simp [run]

/-- An action changes its parts only. -/
theorem same_after (m : Machine κ δ) {a : Action} {p : Part} (hp : p ∉ a.parts) :
    p.Same m (m.after a) := by
  cases a with
  | execute ins =>
    simp only [Action.parts, List.mem_cons, not_or] at hp
    refine m.same_execute (fun op hop => ?_) hp.1
    simpa [hop] using hp.2
  | proceed => exact m.same_canProceed hp
  | tick => exact m.same_timers _ (by simpa [Action.parts] using hp)
  | write addr data =>
    simp only [after, write]
    split
    · exact .refl m p
    · exact m.same_memory _ (by simpa [Action.parts] using hp)
  | load source =>
    simp only [after, loadProgram]
    split
    · exact .refl m p
    · exact m.same_memory _ (by simpa [Action.parts] using hp)
  | elapse nanos => exact m.same_keypad _ (by simpa [Action.parts] using hp)

end Machine

end Chip8
