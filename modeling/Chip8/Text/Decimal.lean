set_option relaxedAutoImplicit false
set_option autoImplicit false

/-!
# Decimal numbers

Numbers read from text: digits with an optional sign and a bound.

## Main definitions

* `Chip8.Decimal.natural?` — a number without a minus sign, up to a bound.
* `Chip8.Decimal.integer?` — a number with either sign, between zero and a bound.
-/

namespace Chip8.Decimal

/-- The value of a list of digits, of which there must be one. -/
def digits? (cs : List Char) : Option Nat :=
  if cs.isEmpty || !cs.all Char.isDigit then none
  else some (cs.foldl (fun n c => 10 * n + (c.toNat - '0'.toNat)) 0)

/-- A number without a minus sign, at most `bound`. -/
def natural? (bound : Nat) (s : String) : Option Nat :=
  let value := match s.toList with
    | '+' :: cs => digits? cs
    | cs => digits? cs
  value.filter (· ≤ bound)

/-- A number with either sign, which must be between zero and `bound`. -/
def integer? (bound : Nat) (s : String) : Option Nat :=
  match s.toList with
  | '-' :: cs => (digits? cs).filter (· == 0)
  | _ => natural? bound s

end Chip8.Decimal
