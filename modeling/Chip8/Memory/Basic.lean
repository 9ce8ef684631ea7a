import Chip8.Bytes
import Chip8.Error
import Chip8.Instruction
import Chip8.Memory.Font

set_option relaxedAutoImplicit false
set_option autoImplicit false

/-!
# Memory

4096 bytes, of which the first 80 start out as the font. Every access names an address and a
length and passes one range check: a range that leaves memory is refused as a whole, never
wrapped or clamped, and a refused write changes nothing.

## Main definitions

* `Chip8.Memory` — the bytes, with the addresses at which programs and glyphs are looked for.
* `Chip8.Memory.read`, `Chip8.Memory.write` — checked access to a range.
* `Chip8.Memory.fetch` — the instruction at an address.
* `Chip8.Memory.saveDecimal`, `Chip8.Memory.glyphAddress` — what the machine needs besides.

## Main results

* `Chip8.Memory.read_eq_ok_iff`, `Chip8.Memory.read_eq_error_iff` — when a read succeeds and
  what it gives.
* `Chip8.Memory.write_eq_ok_iff`, `Chip8.Memory.write_eq_error_iff` — the same for a write.
-/

namespace Chip8

/-- The number of bytes of memory. -/
def memorySize : Nat := 4096

/-- The bytes of memory, with the addresses at which programs and glyphs are looked for. -/
structure Memory where
  /-- The bytes. -/
  bytes : Vector UInt8 memorySize
  /-- Where a program is loaded. -/
  programStart : UInt16 := 0x200
  /-- Where the glyph of digit 0 is looked for. -/
  fontStart : UInt16 := 0
  deriving DecidableEq

namespace Memory

/-! ## The fresh memory -/

/-- Zeros with the font at the start. -/
def fresh : Memory where
  bytes := Bytes.overwrite (Vector.replicate memorySize 0) 0 Font.bytes

instance : Inhabited Memory := ⟨fresh⟩

/-! ## Checked access -/

/-- The `len` bytes at `addr`. -/
def read (m : Memory) (addr : UInt16) (len : Nat) : Except Error (List UInt8) :=
  if h : addr.toNat + len ≤ memorySize then
    .ok (Bytes.slice m.bytes addr.toNat len h)
  else
    .error (.outOfRange addr len)

/-- Put bytes at `addr`. -/
def write (m : Memory) (addr : UInt16) (data : List UInt8) : Except Error Memory :=
  if addr.toNat + data.length ≤ memorySize then
    .ok { m with bytes := Bytes.overwrite m.bytes addr.toNat data }
  else
    .error (.outOfRange addr data.length)

/-- The instruction at `addr`. -/
def fetch (m : Memory) (addr : UInt16) : Except Error Instruction :=
  (m.read addr Instruction.width.toNat).bind Instruction.ofBytes

/-- Put the hundreds, tens and ones of a byte at `addr` and on. -/
def saveDecimal (m : Memory) (addr : UInt16) (value : UInt8) : Except Error Memory :=
  m.write addr [value / 100, value / 10 % 10, value % 10]

/-- Where the glyph of a digit is; anything above 15 gets the glyph of 0. -/
def glyphAddress (m : Memory) (digit : UInt8) : UInt16 :=
  if digit.toNat < 16 then m.fontStart + digit.toUInt16 * UInt16.ofNat Font.glyphSize
  else m.fontStart

/-! ## Interface lemmas -/

/-- A read succeeds exactly on a range inside memory, and gives its bytes. -/
theorem read_eq_ok_iff {m : Memory} {addr : UInt16} {len : Nat} {data : List UInt8} :
    m.read addr len = .ok data ↔
      ∃ h : addr.toNat + len ≤ memorySize, data = Bytes.slice m.bytes addr.toNat len h := by
  unfold read
  split
  · constructor
    · intro h; cases h; exact ⟨‹_›, rfl⟩
    · rintro ⟨_, rfl⟩; rfl
  · constructor
    · intro h; cases h
    · rintro ⟨h, _⟩; contradiction

/-- A read fails exactly on a range that leaves memory, and names it. -/
theorem read_eq_error_iff {m : Memory} {addr : UInt16} {len : Nat} {e : Error} :
    m.read addr len = .error e ↔
      memorySize < addr.toNat + len ∧ e = .outOfRange addr len := by
  unfold read
  split
  · constructor
    · intro h; cases h
    · rintro ⟨h, _⟩; omega
  · constructor
    · intro h; cases h; exact ⟨by omega, rfl⟩
    · rintro ⟨_, rfl⟩; rfl

/-- A write succeeds exactly on a range inside memory, and stores the data. -/
theorem write_eq_ok_iff {m m' : Memory} {addr : UInt16} {data : List UInt8} :
    m.write addr data = .ok m' ↔
      addr.toNat + data.length ≤ memorySize ∧
        m' = { m with bytes := Bytes.overwrite m.bytes addr.toNat data } := by
  unfold write
  split
  · constructor
    · intro h; cases h; exact ⟨‹_›, rfl⟩
    · rintro ⟨_, rfl⟩; rfl
  · constructor
    · intro h; cases h
    · rintro ⟨h, _⟩; contradiction

/-- A write fails exactly on a range that leaves memory, and names it. -/
theorem write_eq_error_iff {m : Memory} {addr : UInt16} {data : List UInt8} {e : Error} :
    m.write addr data = .error e ↔
      memorySize < addr.toNat + data.length ∧ e = .outOfRange addr data.length := by
  unfold write
  split
  · constructor
    · intro h; cases h
    · rintro ⟨h, _⟩; omega
  · constructor
    · intro h; cases h; exact ⟨by omega, rfl⟩
    · rintro ⟨_, rfl⟩; rfl

end Memory

end Chip8
