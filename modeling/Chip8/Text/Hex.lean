set_option relaxedAutoImplicit false
set_option autoImplicit false

/-!
# Hexadecimal text

Numbers of the machine are shown in base sixteen, in two letter cases and three widths: a fixed
number of digits, as few digits as possible, or as few as possible but at least some number.
A digit list is built from the least significant end by structural recursion on its width, so
that closed instances evaluate in the kernel.

## Main definitions

* `Chip8.Hex.fixed` — the last `width` digits of a number.
* `Chip8.Hex.short` — a 16-bit number without leading zeros.
* `Chip8.Hex.atLeast` — the same, padded on the left to a least width.

## Main results

* `Chip8.Hex.length_fixed` — a fixed form has its width.
-/

namespace Chip8.Hex

/-- There are sixteen digits. -/
instance neZero_sixteen : @NeZero Nat Zero.ofOfNat0 16 := ⟨by decide⟩

/-- The letter case of the digits above nine. -/
inductive Case where
  | lower
  | upper
  deriving DecidableEq, Repr

/-- The character of a digit. -/
def digit : Case → Fin 16 → Char
  | .lower, d => "0123456789abcdef".toList.getD d '0'
  | .upper, d => "0123456789ABCDEF".toList.getD d '0'

/-- The last `width` digits of a number, the most significant first. -/
def fixed (c : Case) : Nat → Nat → List Char
  | 0, _ => []
  | width + 1, n => fixed c width (n / 16) ++ [digit c ⟨n % 16, Nat.mod_lt _ (by decide)⟩]

/-- A fixed form has its width. -/
@[simp] theorem length_fixed (c : Case) (width n : Nat) : (fixed c width n).length = width := by
  induction width generalizing n with
  | zero => rfl
  | succ width ih => simp [fixed, ih]

/-- The lower-case digits of a 16-bit number without leading zeros; zero itself is `0`. -/
def short (n : UInt16) : List Char :=
  match (fixed .lower 4 n.toNat).dropWhile (· == '0') with
  | [] => ['0']
  | ds => ds

/-- The short form, padded on the left with zeros to at least `width` digits. -/
def atLeast (width : Nat) (n : UInt16) : List Char :=
  (short n).leftpad width '0'

/-- A fixed form as a string. -/
def fixedString (c : Case) (width n : Nat) : String :=
  String.ofList (fixed c width n)

/-- The form `0x` followed by four upper-case digits. -/
def address (n : UInt16) : String :=
  "0x" ++ fixedString .upper 4 n.toNat

end Chip8.Hex
