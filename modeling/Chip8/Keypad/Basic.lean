import Chip8.Error

set_option relaxedAutoImplicit false
set_option autoImplicit false

/-!
# Keypads

A keypad is asked, whenever the machine wants to know, which key is down; there is no queue and
no edge to detect. Keys are bytes, of which the machine's own are below 16.

## Main definitions

* `Chip8.Keypad` — which key is down, and whether the user wants to stop.
* `Chip8.ScriptedKeypad` — answers written down beforehand.
* `Chip8.FaultyKeypad` — a keypad whose polls sometimes fail, and which may want to stop.
-/

namespace Chip8

/-- A device that knows which key is down. -/
class Keypad (κ : Type) where
  /-- Ask which key is down, if one is. -/
  poll : κ → Except IoError (Option UInt8) × κ
  /-- Whether the user has asked to stop the machine. -/
  quitRequested : κ → Bool := fun _ => false
  /-- Let some nanoseconds pass. -/
  elapse : Nat → κ → κ := fun _ k => k

/-- Answers written down beforehand, one for each poll; after the last one no key is down. -/
structure ScriptedKeypad where
  /-- The answers to come. -/
  script : List (Option UInt8)
  deriving DecidableEq, Inhabited

namespace ScriptedKeypad

/-- One key down for a number of polls. -/
def held (key : UInt8) (polls : Nat) : ScriptedKeypad := ⟨List.replicate polls (some key)⟩

end ScriptedKeypad

instance : Keypad ScriptedKeypad where
  poll k := (.ok k.script.head?.join, ⟨k.script.tail⟩)

/-- One of two keypads. -/
instance {κ κ' : Type} [Keypad κ] [Keypad κ'] : Keypad (κ ⊕ κ') where
  poll
    | .inl k =>
      let (r, k) := Keypad.poll k
      (r, .inl k)
    | .inr k =>
      let (r, k) := Keypad.poll k
      (r, .inr k)
  quitRequested
    | .inl k => Keypad.quitRequested k
    | .inr k => Keypad.quitRequested k
  elapse t
    | .inl k => .inl (Keypad.elapse t k)
    | .inr k => .inr (Keypad.elapse t k)

/-- A keypad to which some polls never get: those whose number, counted from 1, is one of
`failures`. It uses nothing up in them. It also may want to stop, after a number of polls. -/
structure FaultyKeypad (κ : Type) where
  /-- The keypad behind. -/
  inner : κ
  /-- The numbers of the polls that fail. -/
  failures : List Nat := []
  /-- How a poll fails. -/
  error : IoError
  /-- After how many polls the user wants to stop, if ever. -/
  quitAfter : Option Nat := none
  /-- How many polls there were. -/
  polls : Nat := 0

instance {κ : Type} [Keypad κ] : Keypad (FaultyKeypad κ) where
  poll k :=
    let k := { k with polls := k.polls + 1 }
    if k.polls ∈ k.failures then (.error k.error, k)
    else
      let (r, inner) := Keypad.poll k.inner
      (r, { k with inner })
  quitRequested k :=
    match k.quitAfter with
    | none => Keypad.quitRequested k.inner
    | some n => decide (n ≤ k.polls) || Keypad.quitRequested k.inner
  elapse t k := { k with inner := Keypad.elapse t k.inner }

end Chip8
