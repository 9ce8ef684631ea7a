set_option relaxedAutoImplicit false
set_option autoImplicit false

/-!
# Random bytes

A stream of bytes of which a machine takes one after another. Any stream will do for reasoning;
for running there is one that mixes the bits of a counter.

## Main definitions

* `Chip8.RandomSource` — a stream and how much of it was taken.
* `Chip8.RandomSource.draw` — take the next byte.
* `Chip8.RandomSource.seeded` — the stream of a seed.
-/

namespace Chip8

/-- A stream of bytes and how many of them were taken. -/
structure RandomSource where
  /-- The bytes of the stream. -/
  byte : Nat → UInt8
  /-- How many were taken. -/
  taken : Nat := 0

namespace RandomSource

/-- Take the next byte. -/
def draw (r : RandomSource) : UInt8 × RandomSource :=
  (r.byte r.taken, { r with taken := r.taken + 1 })

/-- A number whose bits all depend on all bits of `z`. -/
def mix (z : UInt64) : UInt64 :=
  let z := (z ^^^ (z >>> 30)) * 0xBF58476D1CE4E5B9
  let z := (z ^^^ (z >>> 27)) * 0x94D049BB133111EB
  z ^^^ (z >>> 31)

/-- The stream of a seed. -/
def seeded (seed : UInt64) : RandomSource where
  byte k := (mix (seed + UInt64.ofNat (k + 1) * 0x9E3779B97F4A7C15)).toUInt8

instance : Inhabited RandomSource := ⟨seeded 0⟩

end RandomSource

end Chip8
