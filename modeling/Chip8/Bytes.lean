set_option relaxedAutoImplicit false
set_option autoImplicit false

/-!
# Runs of bytes

Taking a run of bytes out of a row of fixed length, and putting one in. Memory and the registers
are such rows.

## Main definitions

* `Chip8.Bytes.slice` — the bytes from a place on.
* `Chip8.Bytes.overwrite` — other bytes from a place on.

## Main results

* `Chip8.Bytes.getElem_overwrite` — each byte after `overwrite`.
* `Chip8.Bytes.getElem?_slice` — each byte of `slice`.
-/

namespace Chip8.Bytes

variable {n : Nat}

/-- The `len` bytes from `start` on. -/
def slice (row : Vector UInt8 n) (start len : Nat) (h : start + len ≤ n) : List UInt8 :=
  List.ofFn fun k : Fin len => row[start + k.val]

@[simp] theorem length_slice (row : Vector UInt8 n) (start len : Nat) (h : start + len ≤ n) :
    (slice row start len h).length = len := by
  simp [slice]

/-- A slice holds the bytes of the row, counted from its start. -/
theorem getElem?_slice (row : Vector UInt8 n) (start len : Nat) (h : start + len ≤ n) (k : Nat) :
    (slice row start len h)[k]? = if k < len then row[start + k]? else none := by
  simp only [slice, List.getElem?_ofFn]
  split
  · simp [Vector.getElem?_eq_getElem (show start + k < n by omega)]
  · rfl

/-- The row with `data` put at `start` and on, as far as the row goes. -/
def overwrite (row : Vector UInt8 n) (start : Nat) : List UInt8 → Vector UInt8 n
  | [] => row
  | b :: data => overwrite (row.setIfInBounds start b) (start + 1) data

/-- After overwriting, a byte comes from the data where that reaches and is the old one
elsewhere. -/
theorem getElem_overwrite (row : Vector UInt8 n) (start : Nat) (data : List UInt8) (k : Nat)
    (hk : k < n) :
    (overwrite row start data)[k] =
      if start ≤ k then data[k - start]?.getD row[k] else row[k] := by
  induction data generalizing row start with
  | nil => simp [overwrite]
  | cons b data ih =>
    rw [overwrite, ih]
    by_cases hlt : start < k
    · have hsub : k - start = k - (start + 1) + 1 := by omega
      rw [if_pos (show start + 1 ≤ k by omega), if_pos (show start ≤ k by omega), hsub,
        List.getElem?_cons_succ, Vector.getElem_setIfInBounds_ne hk (by omega)]
    · rw [if_neg (by omega)]
      by_cases heq : start = k
      · subst heq
        simp
      · rw [if_neg (by omega), Vector.getElem_setIfInBounds_ne hk heq]

end Chip8.Bytes
