set_option relaxedAutoImplicit false
set_option autoImplicit false

/-!
# The call stack

Sixteen slots for return addresses, of which the first `depth` are in use. An address that was
taken off stays in its slot until another one is put there; the addresses in use are the view
`live`.

## Main definitions

* `Chip8.CallStack` — the slots and how many are in use.
* `Chip8.CallStack.push?`, `Chip8.CallStack.pop?` — put an address on, take one off.
* `Chip8.CallStack.live` — the addresses in use, the oldest first.

## Main results

* `Chip8.CallStack.live_of_push?`, `Chip8.CallStack.live_of_pop?` — both through the view.
* `Chip8.CallStack.push?_eq_none_iff`, `Chip8.CallStack.pop?_eq_none_iff` — when they refuse.
-/

namespace Chip8

/-- The number of return addresses that can be kept. -/
def stackDepth : Nat := 16

/-- Slots for return addresses, some of them in use. -/
structure CallStack where
  /-- The slots. -/
  slots : Vector UInt16 stackDepth
  /-- How many slots are in use. -/
  depth : Nat
  /-- No more slots are in use than there are. -/
  depth_le : depth ≤ stackDepth
  deriving DecidableEq

namespace CallStack

/-- No slot is in use and all are zero. -/
def empty : CallStack := ⟨Vector.replicate stackDepth 0, 0, by decide⟩

instance : Inhabited CallStack := ⟨empty⟩

/-- Slots of which the first `depth` are in use, if there are that many. -/
def ofSlots? (slots : Vector UInt16 stackDepth) (depth : Nat) : Option CallStack :=
  if h : depth ≤ stackDepth then some ⟨slots, depth, h⟩ else none

/-- The addresses in use, the oldest first. -/
def live (s : CallStack) : List UInt16 :=
  s.slots.toList.take s.depth

/-- Put an address on, if a slot is free. -/
def push? (s : CallStack) (addr : UInt16) : Option CallStack :=
  if h : s.depth < stackDepth then some ⟨s.slots.set s.depth addr, s.depth + 1, h⟩ else none

/-- Take the newest address off, if there is one. -/
def pop? (s : CallStack) : Option (UInt16 × CallStack) :=
  if h : 0 < s.depth then
    have := s.depth_le
    some (s.slots[s.depth - 1], ⟨s.slots, s.depth - 1, by omega⟩)
  else
    none

/-! ## Interface lemmas -/

@[simp] theorem length_live (s : CallStack) : s.live.length = s.depth := by
  have := s.depth_le
  simp [live, Nat.min_eq_left this]

/-- Putting an address on refuses exactly when all slots are in use. -/
theorem push?_eq_none_iff {s : CallStack} {addr : UInt16} :
    s.push? addr = none ↔ s.live.length = stackDepth := by
  have := s.depth_le
  simp only [push?, length_live, dite_eq_right_iff, reduceCtorEq, imp_false]
  omega

/-- Taking an address off refuses exactly when none is in use. -/
theorem pop?_eq_none_iff {s : CallStack} : s.pop? = none ↔ s.live = [] := by
  rw [← List.length_eq_zero_iff, length_live]
  simp only [pop?, dite_eq_right_iff, reduceCtorEq, imp_false]
  omega

/-- Putting an address on makes it the newest in use. -/
theorem live_of_push? {s s' : CallStack} {addr : UInt16} (h : s.push? addr = some s') :
    s'.live = s.live ++ [addr] := by
  unfold push? at h
  split at h
  · cases h
    rename_i hfree
    simp only [live, Vector.toList_set]
    rw [List.take_add_one, List.take_set_of_le (Nat.le_refl _)]
    simp [hfree]
  · cases h

/-- Taking an address off gives the newest in use and leaves the others. -/
theorem live_of_pop? {s s' : CallStack} {addr : UInt16} (h : s.pop? = some (addr, s')) :
    s.live = s'.live ++ [addr] := by
  unfold pop? at h
  split at h
  · rename_i hpos
    simp only [Option.some.injEq, Prod.mk.injEq] at h
    obtain ⟨rfl, rfl⟩ := h
    have := s.depth_le
    obtain ⟨d, hd⟩ : ∃ d, s.depth = d + 1 := ⟨s.depth - 1, by omega⟩
    simp only [live, hd, Nat.add_sub_cancel, List.take_add_one]
    rw [List.getElem?_eq_getElem (by simp only [Vector.length_toList]; omega)]
    simp
  · cases h

end CallStack

end Chip8
