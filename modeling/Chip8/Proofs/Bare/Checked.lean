import Chip8.Bytes
import Mathlib.Algebra.Group.Nat.Defs

set_option relaxedAutoImplicit false
set_option autoImplicit false

/-!
# Checked computations

Computations on plain numbers that are given up as soon as they do something that has no meaning:
to ask a row for a place it does not have, to copy between runs of different lengths, to leave the
numbers of a width, or to shift a word by its whole width or more. A computation that is known to
stay clear of all that has a result, and the lemmas here say which.

## Main definitions

* `Chip8.Fault` — what has no meaning.
* `Chip8.Checked` — a computation that may be given up.
* `Chip8.Checked.get`, `Chip8.Checked.set` — a place of a row.
* `Chip8.Checked.slice`, `Chip8.Checked.fill` — a run of places.
* `Chip8.Checked.add`, `Chip8.Checked.mul`, `Chip8.Checked.sub` — numbers of a width.
* `Chip8.Checked.shiftLeft`, `Chip8.Checked.shiftRight` — words.
-/

namespace Chip8

/-- What was put into a row can be taken out again. -/
theorem Bytes.slice_overwrite {n : Nat} (row : Vector UInt8 n) (start : Nat) (data : List UInt8)
    (h : start + data.length ≤ n) :
    Bytes.slice (Bytes.overwrite row start data) start data.length h = data := by
  refine List.ext_getElem? fun k => ?_
  rw [Bytes.getElem?_slice]
  split
  · rename_i hk
    rw [Vector.getElem?_eq_getElem (show start + k < n by omega), Bytes.getElem_overwrite,
      if_pos (Nat.le_add_right ..), Nat.add_sub_cancel_left, List.getElem?_eq_getElem hk]
    rfl
  · rename_i hk
    rw [List.getElem?_eq_none (Nat.le_of_not_lt hk)]

/-- What has no meaning in a computation on plain numbers. -/
inductive Fault where
  /-- A place that a row does not have. -/
  | place (k size : Nat)
  /-- A run that a row does not have. -/
  | run (start stop size : Nat)
  /-- A copy between runs of different lengths. -/
  | lengths (target source : Nat)
  /-- A number that does not fit into its width, or is below zero. -/
  | overflow
  /-- A shift of a word by its width or more. -/
  | shift (amount width : Nat)
  deriving DecidableEq, Repr

/-- A computation that is given up at the first fault. -/
abbrev Checked (α : Type) := Except Fault α

namespace Checked

variable {α : Type} {n : Nat}

theorem ok_bind {β : Type} (a : α) (f : α → Checked β) : (Except.ok a >>= f) = f a :=
  rfl

/-! ## Rows -/

/-- What is at a place of a row. -/
def get (row : Vector α n) (k : Nat) : Checked α :=
  if h : k < n then .ok row[k] else .error (.place k n)

/-- The row with something else at a place. -/
def set (row : Vector α n) (k : Nat) (a : α) : Checked (Vector α n) :=
  if h : k < n then .ok (row.set k a) else .error (.place k n)

/-- The bytes from `start` up to, but not at, `stop`. -/
def slice (row : Vector UInt8 n) (start stop : Nat) : Checked (List UInt8) :=
  if h : start ≤ stop ∧ stop ≤ n then
    .ok (Bytes.slice row start (stop - start) (by omega))
  else
    .error (.run start stop n)

/-- The row with bytes copied to the places from `start` up to, but not at, `stop`. -/
def fill (row : Vector UInt8 n) (start stop : Nat) (data : List UInt8) :
    Checked (Vector UInt8 n) :=
  if start ≤ stop ∧ stop ≤ n then
    if data.length = stop - start then
      .ok (Bytes.overwrite row start data)
    else
      .error (.lengths (stop - start) data.length)
  else
    .error (.run start stop n)

theorem get_of_lt (row : Vector α n) {k : Nat} (h : k < n) : get row k = .ok row[k] :=
  dif_pos h

theorem set_of_lt (row : Vector α n) {k : Nat} (h : k < n) (a : α) :
    set row k a = .ok (row.set k a) :=
  dif_pos h

theorem slice_of_le (row : Vector UInt8 n) {start len : Nat} (h : start + len ≤ n) :
    slice row start (start + len) = .ok (Bytes.slice row start len h) := by
  have hrun : start ≤ start + len ∧ start + len ≤ n := ⟨Nat.le_add_right .., h⟩
  simp only [slice, hrun, and_self, dif_pos, Nat.add_sub_cancel_left]

theorem fill_of_le (row : Vector UInt8 n) {start : Nat} {data : List UInt8}
    (h : start + data.length ≤ n) :
    fill row start (start + data.length) data = .ok (Bytes.overwrite row start data) := by
  rw [fill, if_pos ⟨Nat.le_add_right .., h⟩, if_pos (Nat.add_sub_cancel_left ..).symm]

theorem slice_zero_of_le (row : Vector UInt8 n) {len : Nat} (h : 0 + len ≤ n) :
    slice row 0 len = .ok (Bytes.slice row 0 len h) := by
  have hslice := slice_of_le row h
  rwa [Nat.zero_add] at hslice

theorem fill_zero_of_le (row : Vector UInt8 n) {len : Nat} {data : List UInt8} (hlen : len ≤ n)
    (h : data.length = len) : fill row 0 len data = .ok (Bytes.overwrite row 0 data) := by
  have hfill : fill row 0 (0 + data.length) data = .ok (Bytes.overwrite row 0 data) :=
    fill_of_le row (by omega)
  rwa [Nat.zero_add, h] at hfill

/-- What was copied to the start of a row can be taken out again. -/
theorem slice_zero_overwrite (row : Vector UInt8 n) {len : Nat} {data : List UInt8}
    (hlen : len ≤ n) (h : data.length = len) :
    slice (Bytes.overwrite row 0 data) 0 len = .ok data := by
  subst h
  have hrun : 0 + data.length ≤ n := by omega
  rw [slice_zero_of_le _ hrun, Bytes.slice_overwrite]

/-! ## Numbers -/

/-- The sum of two numbers of some width in bits. -/
def add (width a b : Nat) : Checked Nat :=
  if a + b < 2 ^ width then .ok (a + b) else .error .overflow

/-- The product of two numbers of some width in bits. -/
def mul (width a b : Nat) : Checked Nat :=
  if a * b < 2 ^ width then .ok (a * b) else .error .overflow

/-- The difference of two numbers. -/
def sub (a b : Nat) : Checked Nat :=
  if b ≤ a then .ok (a - b) else .error .overflow

theorem add_of_lt {width a b : Nat} (h : a + b < 2 ^ width) : add width a b = .ok (a + b) :=
  if_pos h

theorem mul_of_lt {width a b : Nat} (h : a * b < 2 ^ width) : mul width a b = .ok (a * b) :=
  if_pos h

theorem sub_of_le {a b : Nat} (h : b ≤ a) : sub a b = .ok (a - b) :=
  if_pos h

/-! ## Words -/

/-- A word shifted to the left. -/
def shiftLeft {width : Nat} (word : BitVec width) (amount : Nat) : Checked (BitVec width) :=
  if amount < width then .ok (word <<< amount) else .error (.shift amount width)

/-- A word shifted to the right. -/
def shiftRight {width : Nat} (word : BitVec width) (amount : Nat) : Checked (BitVec width) :=
  if amount < width then .ok (word >>> amount) else .error (.shift amount width)

theorem shiftLeft_of_lt {width amount : Nat} (word : BitVec width) (h : amount < width) :
    shiftLeft word amount = .ok (word <<< amount) :=
  if_pos h

theorem shiftRight_of_lt {width amount : Nat} (word : BitVec width) (h : amount < width) :
    shiftRight word amount = .ok (word >>> amount) :=
  if_pos h

end Checked

end Chip8
