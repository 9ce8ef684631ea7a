import Chip8.Text.Hex
import Mathlib.Algebra.Group.Nat.Defs
import Mathlib.Data.List.Basic
import Mathlib.Data.Nat.Basic

set_option relaxedAutoImplicit false
set_option autoImplicit false

/-!
# Digits of a number

The hexadecimal texts are the digits of the numbers that they show, as `Nat.toDigits` gives them:
without leading zeros, or padded with zeros to a width. Either way a text can be read back: leading
zeros do not change the number, and whatever is not a digit ends it.

## Main definitions

* `Chip8.Hex.value?` — the number that lower-case digits show.

## Main results

* `Chip8.Hex.fixed_lower`, `Chip8.Hex.fixed_upper` — a fixed form is padded.
* `Chip8.Hex.short_eq_toDigits` — a short form is not.
* `Chip8.Hex.value?_fixed`, `Chip8.Hex.value?_short` — both are read back.
-/

namespace Chip8.Hex

theorem digit_lower (d : Fin 16) : digit .lower d = Nat.digitChar d.val := by
  decide +revert

theorem digit_upper (d : Fin 16) : digit .upper d = (digit .lower d).toUpper := by
  decide +revert

/-- The two cases differ in the letters only. -/
theorem fixed_upper_eq_map (width n : Nat) :
    fixed .upper width n = (fixed .lower width n).map Char.toUpper := by
  induction width generalizing n with
  | zero => rfl
  | succ width ih => simp [fixed, ih, digit_upper]

/-- A digit on the right of a padded text leaves the padding as it is. -/
theorem leftpad_concat {α : Type} (width : Nat) (a d : α) (l : List α) :
    l.leftpad width a ++ [d] = (l ++ [d]).leftpad (width + 1) a := by
  simp [List.leftpad]

/-- A fixed form that is wide enough is the digits of the number, padded with zeros.

**Proof sketch.** Induction on the width. The last digit is the remainder by sixteen, and those
before it are the digits of the quotient, or zeros if that is zero. -/
theorem fixed_lower {width n : Nat} (hn : n < 16 ^ (width + 1)) :
    fixed .lower (width + 1) n = (Nat.toDigits 16 n).leftpad (width + 1) '0' := by
  induction width generalizing n with
  | zero =>
    have hlt : n < 16 := by simpa using hn
    rw [Nat.toDigits_of_lt_base hlt]
    simp [fixed, digit_lower, Nat.mod_eq_of_lt hlt, List.leftpad]
  | succ width ih =>
    have hquotient : n / 16 < 16 ^ (width + 1) := by
      rw [Nat.pow_succ] at hn
      exact Nat.div_lt_of_lt_mul (by omega)
    rw [fixed, ih hquotient, digit_lower, leftpad_concat]
    by_cases hlt : n < 16
    · rw [Nat.div_eq_of_lt hlt, Nat.toDigits_of_lt_base hlt]
      simp [List.leftpad, Nat.mod_eq_of_lt hlt, List.replicate_succ', Nat.digitChar]
    · rw [Nat.toDigits_eq_if (by decide) (n := n), if_neg hlt]

/-- The digits of a number that is not zero begin with one that is not zero. -/
theorem dropWhile_toDigits {n : Nat} (hn : 0 < n) :
    (Nat.toDigits 16 n).dropWhile (· == '0') = Nat.toDigits 16 n := by
  induction n using Nat.strongRecOn with
  | _ n ih =>
    rw [Nat.toDigits_eq_if (by decide)]
    by_cases hlt : n < 16
    · rw [if_pos hlt]
      have hdigit : ∀ d : Fin 16, 0 < d.val → (Nat.digitChar d.val == '0') = false := by decide
      simp [hdigit ⟨n, hlt⟩ hn]
    · rw [if_neg hlt, List.dropWhile_append, ih (n / 16) (by omega) (by omega)]
      have hpos : 0 < (Nat.toDigits 16 (n / 16)).length := Nat.length_toDigits_pos
      simp [List.length_pos_iff.1 hpos]

/-- A short form is the digits of the number. -/
theorem short_eq_toDigits (n : UInt16) : short n = Nat.toDigits 16 n.toNat := by
  by_cases hzero : n.toNat = 0
  · rw [short, hzero]
    rfl
  have hdigits : (fixed .lower 4 n.toNat).dropWhile (· == '0') = Nat.toDigits 16 n.toNat := by
    rw [fixed_lower n.toNat_lt, List.leftpad, List.dropWhile_append, List.dropWhile_replicate]
    simp [dropWhile_toDigits (Nat.pos_of_ne_zero hzero)]
  obtain ⟨d, ds, hcons⟩ := List.exists_cons_of_length_pos
    (Nat.length_toDigits_pos (b := 16) (n := n.toNat))
  simp only [short, hdigits, hcons]

/-- A fixed form in upper case is padded with zeros as well. -/
theorem fixed_upper {width n : Nat} (hn : n < 16 ^ (width + 1)) :
    fixed .upper (width + 1) n =
      ((Nat.toDigits 16 n).map Char.toUpper).leftpad (width + 1) '0' := by
  rw [fixed_upper_eq_map, fixed_lower hn]
  simp [List.leftpad]

/-! ## Reading numbers -/

/-- The digit that a character shows in lower case. -/
def digitValue? (c : Char) : Option (Fin 16) :=
  (List.finRange 16).find? fun d => digit .lower d == c

/-- The number that lower-case digits show, the most significant first. -/
def value? (cs : List Char) : Option Nat :=
  cs.foldlM (fun n c => (digitValue? c).map fun d => 16 * n + d.val) 0

@[simp] theorem digitValue?_digit (d : Fin 16) : digitValue? (digit .lower d) = some d := by
  decide +revert

theorem value?_concat (cs : List Char) (d : Fin 16) :
    value? (cs ++ [digit .lower d]) = (value? cs).map fun n => 16 * n + d.val := by
  cases h : value? cs with
  | none => simp_all [value?]
  | some n => simp_all [value?]

/-- A fixed form shows the number up to what is too big for its width. -/
theorem value?_fixed (width n : Nat) : value? (fixed .lower width n) = some (n % 16 ^ width) := by
  induction width generalizing n with
  | zero => simp [fixed, value?, Nat.mod_one]
  | succ width ih =>
    rw [fixed, value?_concat, ih, Nat.pow_succ', Nat.mod_mul]
    simp [Nat.add_comm]

/-- Leading zeros do not change the number. -/
theorem value?_dropWhile (cs : List Char) : value? (cs.dropWhile (· == '0')) = value? cs := by
  induction cs with
  | nil => rfl
  | cons c cs ih =>
    by_cases hzero : c = '0'
    · subst hzero
      have hdigit : digitValue? '0' = some 0 := digitValue?_digit 0
      rw [List.dropWhile_cons_of_pos (by simp), ih]
      simp [value?, hdigit]
    · rw [List.dropWhile_cons_of_neg (by simpa using hzero)]

/-- A short form shows its number. -/
theorem value?_short (n : UInt16) : value? (short n) = some n.toNat := by
  have hvalue : value? ((fixed .lower 4 n.toNat).dropWhile (· == '0')) = some n.toNat := by
    have hlt : n.toNat < 16 ^ 4 := n.toNat_lt
    rw [value?_dropWhile, value?_fixed, Nat.mod_eq_of_lt hlt]
  unfold short
  split
  · next hnil =>
    rw [hnil] at hvalue
    exact (value?_dropWhile ['0']).symm.trans hvalue
  · exact hvalue

/-! ## What is not in a number -/

/-- A fixed form has nothing but digits. -/
theorem exists_digit_of_mem_fixed {c : Char} {width n : Nat} (h : c ∈ fixed .lower width n) :
    ∃ d, c = digit .lower d := by
  induction width generalizing n with
  | zero => cases h
  | succ width ih =>
    rw [fixed, List.mem_append, List.mem_singleton] at h
    exact h.elim ih fun hc => ⟨_, hc⟩

/-- A short form has nothing but digits. -/
theorem exists_digit_of_mem_short {c : Char} {n : UInt16} (h : c ∈ short n) :
    ∃ d, c = digit .lower d := by
  unfold short at h
  split at h
  · exact ⟨0, List.mem_singleton.1 h⟩
  · exact exists_digit_of_mem_fixed ((List.dropWhile_sublist _).subset h)

/-- A character without a digit is none. -/
theorem ne_digit {c : Char} (hc : digitValue? c = none) (d : Fin 16) : c ≠ digit .lower d := by
  rintro rfl
  rw [digitValue?_digit] at hc
  cases hc

theorem not_mem_fixed {c : Char} (hc : digitValue? c = none) (width n : Nat) :
    c ∉ fixed .lower width n := by
  intro h
  obtain ⟨d, hd⟩ := exists_digit_of_mem_fixed h
  exact ne_digit hc d hd

theorem not_mem_short {c : Char} (hc : digitValue? c = none) (n : UInt16) : c ∉ short n := by
  intro h
  obtain ⟨d, hd⟩ := exists_digit_of_mem_short h
  exact ne_digit hc d hd

end Chip8.Hex
