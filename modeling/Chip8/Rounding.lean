set_option relaxedAutoImplicit false
set_option autoImplicit false

/-!
# Rounding

Quotients of natural numbers to the nearest whole number, and the reciprocal of a number as a
binary fraction of 53 significant bits.

## Main definitions

* `Chip8.Rounding.divNearest` — the nearest whole number, the even one of two.
* `Chip8.Rounding.reciprocal` — the nearest fraction of 53 significant bits.
-/

namespace Chip8.Rounding

/-- The whole number nearest to `num / den`; of two equally near ones, the even one. -/
def divNearest (num den : Nat) : Nat :=
  let q := num / den
  let r := num % den
  if 2 * r < den then q
  else if den < 2 * r then q + 1
  else q + q % 2

/-- The least power of two that is not below `n`, as an exponent. -/
def ceilLog2 (n : Nat) : Nat :=
  if Nat.pow 2 n.log2 = n then n.log2 else n.log2 + 1

/-- The fraction `m / 2 ^ e` of 53 significant bits that is nearest to `1 / n`, as `(m, e)`. -/
def reciprocal (n : Nat) : Nat × Nat :=
  let e := 52 + ceilLog2 n
  (divNearest (Nat.pow 2 e) n, e)

end Chip8.Rounding
