import Chip8.Console.Basic

set_option relaxedAutoImplicit false
set_option autoImplicit false

/-!
# The main loop

Steps one after another, each followed by the timer ticks that fall due, until a budget of steps
is spent, the user wants to stop, or a step fails.

## Main definitions

* `Chip8.Console.cycle` — a step and the ticks after it.
* `Chip8.Console.loop` — the loop, with the reason for its end.
* `Chip8.Console.mainLoop` — the loop as its callers see it.
-/

namespace Chip8

/-- Why the main loop ended. -/
inductive LoopEnd where
  /-- As many steps were taken as were asked for. -/
  | budgetSpent
  /-- The user wanted to stop. -/
  | quit
  /-- A step failed. -/
  | failed (error : Error)
  deriving DecidableEq, Repr

namespace Console

variable {κ δ σ : Type} [Keypad κ] [Panel δ] [Speaker σ]

/-- Let the time of one step pass: the keypad ages, and the timers tick as often as is due. -/
def pass (c : Console κ δ σ) : Console κ δ σ :=
  let (due, schedule) := c.schedule.next
  { c with
    schedule
    machine := { c.machine with
      keypad := Keypad.elapse c.schedule.stepTime c.machine.keypad } }.beats due

/-- A step and, if it succeeds, its time. -/
def cycle (c : Console κ δ σ) : Except Error Step × Console κ δ σ :=
  match c.step with
  | (.error e, c) => (.error e, c)
  | (.ok step, c) => (.ok step, c.pass)

/-- The loop: at most `budget` more steps after the `taken` ones before. -/
def loop (c : Console κ δ σ) (taken : Nat) : Nat → LoopEnd × Nat × Console κ δ σ
  | 0 => (.budgetSpent, taken, c)
  | budget + 1 =>
    if Keypad.quitRequested c.machine.keypad then
      (.quit, taken, c)
    else
      match c.cycle with
      | (.error e, c) => (.failed e, taken, c)
      | (.ok _, c) => c.loop (taken + 1) budget

/-- Take at most `budget` steps; gives how many were taken. -/
def mainLoop (c : Console κ δ σ) (budget : Nat) : Except Error Nat × Console κ δ σ :=
  match c.loop 0 budget with
  | (.failed e, _, c) => (.error e, c)
  | (_, taken, c) => (.ok taken, c)

end Console

end Chip8
