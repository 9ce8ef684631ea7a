import Chip8.Proofs.Console.Moves
import Chip8.Proofs.Machine.Devices

set_option relaxedAutoImplicit false
set_option autoImplicit false

/-!
# A console with devices behind devices

A step asks and tells the devices behind what it asks and tells those in front, and leads to the
same console with the devices behind. It may ask the keypad twice, first to end a wait and then for
the instruction after it; only these questions need be passed on.

## Main definitions

* `Chip8.Console.through` — the console with the devices behind.

## Main results

* `Chip8.Console.step_through` — a step with the devices behind.
-/

namespace Chip8

/-- What ends a wait with the keypad in front ends it with the one behind. -/
theorem Machine.Proceeds.through {κ δ κ' δ' : Type} [Keypad κ] [Keypad κ'] {f : κ → κ'}
    {g : δ → δ'} {m m' : Machine κ δ} (h : m.Proceeds m')
    (hf : m.isWaiting = true → Keypad.Relays f m.keypad) :
    (m.through f g).Proceeds (m'.through f g) := by
  cases h with
  | awake hx => exact .awake hx
  | @key x key keypad hx hpoll =>
    have hbehind : Keypad.poll (f m.keypad) = (.ok (some key), f keypad) := by
      rw [hf (by rw [isWaiting, hx]; rfl), hpoll]
    exact .key hx hbehind

namespace Console

variable {κ δ κ' δ' σ : Type} {f : κ → κ'} {g : δ → δ'} {c : Console κ δ σ}

/-- The console with the devices behind its own. -/
def through (f : κ → κ') (g : δ → δ') (c : Console κ δ σ) : Console κ' δ' σ where
  machine := c.machine.through f g
  ticker := c.ticker
  schedule := c.schedule
  config := c.config
  trace := c.trace

theorem record_through (pc : UInt16) (ins : Instruction) :
    (c.through f g).record pc ins = ((c.record pc ins).1, (c.record pc ins).2.through f g) := by
  have htrace : (c.through f g).trace = c.trace := rfl
  have hsnapshot : (c.through f g).machine.snapshot = c.machine.snapshot := rfl
  simp only [record, htrace, hsnapshot]
  cases c.trace with
  | none => rfl
  | some sink => simp only [through]

theorem loadProgram_through (source : Source) :
    (c.through f g).loadProgram source =
      ((c.loadProgram source).1, (c.loadProgram source).2.through f g) := by
  have hmemory : (c.through f g).machine.memory = c.machine.memory := rfl
  simp only [loadProgram, Machine.loadProgram, hmemory]
  cases c.machine.memory.loadProgram source with
  | error e => rfl
  | ok loaded => rfl

variable [Keypad κ] [Panel δ] [Keypad κ'] [Panel δ']

omit [Keypad κ] [Panel δ] in
/-- An instruction that does the same with the devices behind is recorded in the same way. The
devices behind may be others after it than before it. -/
theorem step_through_of_execute {f' : κ → κ'} {g' : δ → δ'} {m m' : Machine κ δ}
    {ins : Instruction} {s : Step} (hm : (c.through f g).machine.Proceeds (m.through f g))
    (hfetch : m.fetch = .ok ins) (hrun : (m.through f g).execute ins = (.ok s, m'.through f' g')) :
    (c.through f g).step =
      (((c.onMachine m').record m.cpu.pc ins).1.map fun _ => s,
        ((c.onMachine m').record m.cpu.pc ins).2.through f' g') := by
  have hrecord : ((c.through f g).onMachine (m'.through f' g')).record m.cpu.pc ins = _ :=
    record_through (c := c.onMachine m') m.cpu.pc ins
  rw [(Takes.done hm hfetch hrun).step_eq]
  refine Prod.ext ?_ ?_
  · exact congrArg (fun r => r.1.map fun _ => s) hrecord
  · exact congrArg (fun r => r.2) hrecord

/-- A step asks and tells the devices behind what it asks and tells those in front.

**Proof sketch.** Each of the ways a step can go is a way with the devices behind. A wait asks the
first question (`Machine.Proceeds.through`), and the instruction the second
(`Machine.execute_through`). -/
theorem step_through (hwait : c.machine.isWaiting = true → Keypad.Relays f c.machine.keypad)
    (hasks : ∀ m ins, c.machine.Proceeds m → m.fetch = .ok ins → ins.AsksKeypad →
      Keypad.Relays f m.keypad)
    (hg : ∀ panel frame, Panel.Relays g panel frame) :
    (c.through f g).step = (c.step.1, c.step.2.through f g) := by
  have hwaiting {x : Fin 16} (hx : c.machine.cpu.awaiting = some x) :
      Keypad.Relays f c.machine.keypad :=
    hwait (by rw [Machine.isWaiting, hx]; rfl)
  rcases hstep : c.step with ⟨r, c'⟩
  cases takes_of_step hstep with
  | @unheard x e keypad hx hpoll =>
    have hbehind : Keypad.poll (f c.machine.keypad) = (.error e, f keypad) := by
      rw [hwaiting hx, hpoll]
    exact (Takes.unheard (c := c.through f g) hx hbehind).step_eq
  | @silent x keypad hx hpoll =>
    have hbehind : Keypad.poll (f c.machine.keypad) = (.ok none, f keypad) := by
      rw [hwaiting hx, hpoll]
    exact (Takes.silent (c := c.through f g) hx hbehind).step_eq
  | lost hm hfetch =>
    exact (Takes.lost (c := c.through f g) (hm.through hwait) hfetch).step_eq
  | @refused m m' ins e hm hfetch hrun =>
    have hbehind : (m.through f g).execute ins = (.error e, m'.through f g) := by
      rw [Machine.execute_through (hasks m ins hm hfetch) fun _ _ _ _ => hg _ _, hrun]
    exact (Takes.refused (c := c.through f g) (hm.through hwait) hfetch hbehind).step_eq
  | @done m m' ins s hm hfetch hrun =>
    have hbehind : (m.through f g).execute ins = (.ok s, m'.through f g) := by
      rw [Machine.execute_through (hasks m ins hm hfetch) fun _ _ _ _ => hg _ _, hrun]
    exact step_through_of_execute (hm.through hwait) hfetch hbehind

end Console

end Chip8
