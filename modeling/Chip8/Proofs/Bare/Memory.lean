import Chip8.Memory.Program
import Chip8.Proofs.Bare.Checked

set_option relaxedAutoImplicit false
set_option autoImplicit false

/-!
# Memory on plain numbers

Memory as a row of bytes of some size. One check decides whether the range that an access names
lies in it, and after that the access goes by plain numbers. The check keeps all of them in range:
what the memory of the machine gives is given without a fault.

## Main definitions

* `Chip8.BareMemory` — a row of bytes of some size.
* `Chip8.BareMemory.make` — the memory with the font.
* `Chip8.BareMemory.read`, `Chip8.BareMemory.write`, `Chip8.BareMemory.fetch`,
  `Chip8.BareMemory.saveDecimal`, `Chip8.BareMemory.glyphAddress`,
  `Chip8.BareMemory.loadProgram` — what the machine asks of it.
* `Chip8.Memory.bare` — the memory of the machine as such a row.
* `Chip8.Memory.HasGlyphs` — the glyphs have addresses.

## Main results

* `Chip8.BareMemory.make_eq` — the fresh memory.
* `Chip8.Memory.bare_read`, `Chip8.Memory.bare_write`, `Chip8.Memory.bare_fetch`,
  `Chip8.Memory.bare_saveDecimal`, `Chip8.Memory.bare_glyphAddress`,
  `Chip8.Memory.bare_loadProgram` — no fault, and the same answers.
-/

namespace Chip8

/-- A row of bytes of some size, with the addresses at which programs and glyphs are looked
for. -/
structure BareMemory where
  /-- How many bytes there are. -/
  size : Nat
  /-- The bytes. -/
  bytes : Vector UInt8 size
  /-- Where a program is loaded. -/
  programStart : UInt16 := 0x200
  /-- Where the glyph of digit 0 is looked for. -/
  fontStart : UInt16 := 0

namespace BareMemory

/-- Where the range of `len` bytes at `addr` starts and stops, if it lies in memory. A stop that
does not fit into 64 bits is not in memory. -/
def range (m : BareMemory) (addr : UInt16) (len : Nat) : Except Error (Nat × Nat) :=
  match Checked.add 64 addr.toNat len with
  | .ok stop => if stop ≤ m.size then .ok (addr.toNat, stop) else .error (.outOfRange addr len)
  | .error _ => .error (.outOfRange addr len)

/-- The `len` bytes at `addr`. -/
def read (m : BareMemory) (addr : UInt16) (len : Nat) : Checked (Except Error (List UInt8)) :=
  match m.range addr len with
  | .error e => return .error e
  | .ok (start, stop) => do
    let data ← Checked.slice m.bytes start stop
    return .ok data

/-- Put bytes at `addr`. -/
def write (m : BareMemory) (addr : UInt16) (data : List UInt8) :
    Checked (Except Error BareMemory) :=
  match m.range addr data.length with
  | .error e => return .error e
  | .ok (start, stop) => do
    let bytes ← Checked.fill m.bytes start stop data
    return .ok { m with bytes }

/-- Zeros with the font at the start. -/
def make : Checked (Except Error BareMemory) :=
  { size := memorySize, bytes := Vector.replicate memorySize 0 : BareMemory }.write 0 Font.bytes

/-- The instruction at `addr`. -/
def fetch (m : BareMemory) (addr : UInt16) : Checked (Except Error Instruction) := do
  let data ← m.read addr Instruction.width.toNat
  return data.bind Instruction.ofBytes

/-- Put the hundreds, tens and ones of a byte at `addr` and on. -/
def saveDecimal (m : BareMemory) (addr : UInt16) (value : UInt8) :
    Checked (Except Error BareMemory) :=
  m.write addr [value / 100, value / 10 % 10, value % 10]

/-- Where the glyph of a digit is; anything above 15 gets the glyph of 0. -/
def glyphAddress (m : BareMemory) (digit : UInt8) : Checked UInt16 :=
  if digit.toNat < 16 then do
    let offset ← Checked.mul 16 digit.toNat Font.glyphSize
    let addr ← Checked.add 16 m.fontStart.toNat offset
    return UInt16.ofNat addr
  else
    return m.fontStart

/-- Read a source to where programs are loaded; gives the program's size. -/
def loadProgram (m : BareMemory) (source : Source) : Checked (Except Error (Nat × BareMemory)) :=
  match source.readAll with
  | .error e => return .error (.io e)
  | .ok program =>
    match Checked.sub memorySize m.programStart.toNat with
    | .error _ => return .error (.outOfRange m.programStart program.length)
    | .ok max =>
      if max < program.length then
        return .error (.programTooLarge program.length max)
      else do
        let written ← m.write m.programStart program
        return written.map fun m => (program.length, m)

end BareMemory

namespace Memory

/-- The memory as a row of bytes of some size. -/
def bare (m : Memory) : BareMemory where
  size := memorySize
  bytes := m.bytes
  programStart := m.programStart
  fontStart := m.fontStart

/-- The glyphs have addresses: that of the last digit fits into 16 bits. -/
def HasGlyphs (m : Memory) : Prop :=
  m.fontStart.toNat + 15 * Font.glyphSize < 2 ^ 16

variable (m : Memory) (addr : UInt16)

theorem bare_range_of_le {len : Nat} (h : addr.toNat + len ≤ memorySize) :
    m.bare.range addr len = .ok (addr.toNat, addr.toNat + len) := by
  have hwidth : addr.toNat + len < 2 ^ 64 := Nat.lt_of_le_of_lt h (by decide)
  rw [BareMemory.range, Checked.add_of_lt hwidth]
  exact if_pos h

theorem bare_range_of_lt {len : Nat} (h : memorySize < addr.toNat + len) :
    m.bare.range addr len = .error (.outOfRange addr len) := by
  have hsize : ¬ addr.toNat + len ≤ m.bare.size := Nat.not_le_of_lt h
  rw [BareMemory.range, Checked.add]
  split
  · rename_i stop hstop
    split at hstop
    · cases hstop
      exact if_neg hsize
    · cases hstop
  · rfl

/-- A range that lies in memory is read without a fault, and any other is refused. -/
theorem bare_read (len : Nat) : m.bare.read addr len = .ok (m.read addr len) := by
  by_cases h : addr.toNat + len ≤ memorySize
  · rw [BareMemory.read, m.bare_range_of_le addr h]
    dsimp only
    rw [Checked.slice_of_le m.bare.bytes h, Checked.ok_bind, read, dif_pos h]
    rfl
  · rw [BareMemory.read, m.bare_range_of_lt addr (Nat.lt_of_not_le h), read, dif_neg h]
    rfl

/-- A range that lies in memory is written without a fault, and any other is refused. -/
theorem bare_write (data : List UInt8) :
    m.bare.write addr data = .ok ((m.write addr data).map bare) := by
  by_cases h : addr.toNat + data.length ≤ memorySize
  · rw [BareMemory.write, m.bare_range_of_le addr h]
    dsimp only
    rw [Checked.fill_of_le m.bare.bytes h, Checked.ok_bind, write, if_pos h]
    rfl
  · rw [BareMemory.write, m.bare_range_of_lt addr (Nat.lt_of_not_le h), write, if_neg h]
    rfl

theorem bare_fetch : m.bare.fetch addr = .ok (m.fetch addr) := by
  rw [BareMemory.fetch, bare_read, Checked.ok_bind]
  rfl

theorem bare_saveDecimal (value : UInt8) :
    m.bare.saveDecimal addr value = .ok ((m.saveDecimal addr value).map bare) :=
  m.bare_write addr _

variable {m} in
/-- The addresses of all glyphs fit into 16 bits if that of the last one does. -/
theorem bare_glyphAddress (h : m.HasGlyphs) (digit : UInt8) :
    m.bare.glyphAddress digit = .ok (m.glyphAddress digit) := by
  rw [BareMemory.glyphAddress, glyphAddress]
  split
  · rename_i hdigit
    have hfont : m.fontStart.toNat + digit.toNat * Font.glyphSize < 2 ^ 16 := by
      simp only [HasGlyphs, Font.glyphSize] at h ⊢
      omega
    rw [Checked.mul_of_lt (by omega), Checked.ok_bind, bare, Checked.add_of_lt hfont,
      Checked.ok_bind, UInt16.ofNat_add, UInt16.ofNat_mul, UInt16.ofNat_toNat,
      UInt16.ofNat_uInt8ToNat]
    rfl
  · rfl

/-- Glyphs at the end of the addresses would be a fault. -/
example (m : BareMemory) : { m with fontStart := 0xFFFF }.glyphAddress 1 = .error .overflow :=
  rfl

/-- A program is loaded without a fault, or refused. -/
theorem bare_loadProgram (source : Source) :
    m.bare.loadProgram source =
      .ok ((m.loadProgram source).map fun loaded => (loaded.1, loaded.2.bare)) := by
  rw [BareMemory.loadProgram, loadProgram]
  cases source.readAll with
  | error e => rfl
  | ok program =>
    dsimp only
    by_cases hstart : m.programStart.toNat ≤ memorySize
    · rw [bare, Checked.sub_of_le hstart]
      dsimp only
      rw [install, if_neg (Nat.not_lt_of_le hstart)]
      split
      · rfl
      · rw [← bare, bare_write, Checked.ok_bind]
        cases m.write m.programStart program with
        | error e => rfl
        | ok m' => rfl
    · rw [bare, Checked.sub, if_neg hstart, install, if_pos (Nat.lt_of_not_le hstart)]
      rfl

end Memory

/-- The memory with the font is made without a fault. -/
theorem BareMemory.make_eq : make = .ok (.ok Memory.fresh.bare) :=
  ({ bytes := Vector.replicate memorySize 0 } : Memory).bare_write 0 Font.bytes

end Chip8
