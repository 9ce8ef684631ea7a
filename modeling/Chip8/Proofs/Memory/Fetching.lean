import Chip8.Proofs.Memory.Accesses
import Chip8.Proofs.Words

set_option relaxedAutoImplicit false
set_option autoImplicit false

/-!
# Fetching

An instruction is two bytes of memory, and nothing is lost on the way from the bytes to the views of
its word: the nibbles make up the word again, and the word makes up the instruction. The bytes can
lie at any address that has a next one, be it even or odd.

## Main definitions

* `Chip8.Bytes.bigEndian` — the number that some bytes spell.
* `Chip8.Memory.Holds` — some bytes lie at an address.

## Main results

* `Chip8.Instruction.ofBytes_eq_ok_iff` — which bytes are an instruction.
* `Chip8.Memory.holds_of_write`, `Chip8.Memory.Holds.read_eq` — what was written lies there, and
  what lies there is read.
* `Chip8.Memory.fetch_eq_ok_iff`, `Chip8.Memory.Holds.fetch_eq` — what is fetched, and from where.
* `Chip8.Memory.fetch_recovers_bytes` — from the bytes to the views and back.
-/

namespace Chip8

namespace Bytes

/-- The number that some bytes spell, the first one counting most. -/
def bigEndian (bytes : List UInt8) : Nat :=
  bytes.foldl (fun number b => 256 * number + b.toNat) 0

theorem bigEndian_pair (hi lo : UInt8) : bigEndian [hi, lo] = 256 * hi.toNat + lo.toNat := by
  simp [bigEndian]

end Bytes

/-! ## Bytes, words and views -/

namespace Instruction

variable {bytes : List UInt8} {ins : Instruction}

/-- An instruction is made of its two bytes, and of nothing else. -/
theorem ofBytes_eq_ok_iff : ofBytes bytes = .ok ins ↔ bytes = [ins.hi, ins.lo] := by
  constructor
  · intro h
    unfold ofBytes at h
    split at h
    · cases h
      rfl
    · cases h
  · rintro rfl
    rfl

/-- Any number of bytes other than two is refused with that number. -/
theorem ofBytes_of_length_ne (h : bytes.length ≠ 2) :
    ofBytes bytes = .error (.malformedInstruction bytes.length) := by
  unfold ofBytes
  split
  · exact absurd rfl h
  · rfl

/-- Two bytes are an instruction. -/
theorem exists_ofBytes_eq_ok_iff : (∃ ins, ofBytes bytes = .ok ins) ↔ bytes.length = 2 := by
  constructor
  · rintro ⟨ins, h⟩
    rw [ofBytes_eq_ok_iff.1 h]
    rfl
  · intro h
    match bytes, h with
    | [hi, lo], _ => exact ⟨⟨hi, lo⟩, rfl⟩

/-- A byte is its two nibbles. -/
theorem toNat_eq_nibbles (b : UInt8) :
    b.toNat = 16 * (highNibble b).val + (lowNibble b).val := by
  simp only [highNibble, lowNibble]
  omega

/-- The word is its first nibble and the other three. -/
theorem toNat_word_eq_group (ins : Instruction) :
    ins.word.toNat = 4096 * ins.group.val + ins.nnn.toNat := by
  have hhi : ins.hi.toNat = 16 * ins.group.val + ins.x.val := toNat_eq_nibbles ins.hi
  have hlo : ins.nn.toNat = ins.lo.toNat := rfl
  rw [toNat_word, toNat_nnn, hhi, hlo]
  omega

end Instruction

/-! ## What lies at an address -/

namespace Memory

variable {m m' : Memory} {addr : UInt16} {data : List UInt8} {ins : Instruction}

/-- Some bytes lie at an address, all of them in memory. -/
def Holds (m : Memory) (addr : UInt16) (data : List UInt8) : Prop :=
  ∀ k b, data[k]? = some b → m.bytes[addr.toNat + k]? = some b

/-- What was written at an address lies there. -/
theorem holds_of_write (h : m.write addr data = .ok m') : m'.Holds addr data := by
  obtain ⟨hin, rfl⟩ := write_eq_ok_iff.1 h
  intro k b hb
  have hk : k < data.length := (List.getElem?_eq_some_iff.1 hb).1
  refine Vector.getElem?_eq_some_iff.2 ⟨by omega, ?_⟩
  rw [Bytes.getElem_overwrite, if_pos (Nat.le_add_right ..), Nat.add_sub_cancel_left, hb,
    Option.getD_some]

/-- A write changes no byte outside of its range. -/
theorem getElem?_of_write (h : m.write addr data = .ok m') {k : Nat}
    (hk : k < addr.toNat ∨ addr.toNat + data.length ≤ k) : m'.bytes[k]? = m.bytes[k]? := by
  obtain ⟨-, rfl⟩ := write_eq_ok_iff.1 h
  by_cases hsize : k < memorySize
  · rw [Vector.getElem?_eq_getElem hsize, Vector.getElem?_eq_getElem hsize,
      Bytes.getElem_overwrite]
    split
    · rw [List.getElem?_eq_none (by omega), Option.getD_none]
    · rfl
  · rw [Vector.getElem?_eq_none (by omega), Vector.getElem?_eq_none (by omega)]

/-- What lies at an address ends inside memory. -/
theorem Holds.le (h : m.Holds addr data) (hpos : 0 < data.length) :
    addr.toNat + data.length ≤ memorySize := by
  have hlast : data[data.length - 1]? = some data[data.length - 1] :=
    List.getElem?_eq_getElem (by omega)
  obtain ⟨hin, -⟩ := Vector.getElem?_eq_some_iff.1 (h _ _ hlast)
  omega

/-- What lies at an address is read from there. -/
theorem Holds.read_eq (h : m.Holds addr data) (hin : addr.toNat + data.length ≤ memorySize) :
    m.read addr data.length = .ok data := by
  refine read_eq_ok_iff.2 ⟨hin, List.ext_getElem? fun k => ?_⟩
  rw [Bytes.getElem?_slice]
  split
  · rename_i hk
    rw [h k _ (List.getElem?_eq_getElem hk), List.getElem?_eq_getElem hk]
  · rename_i hk
    rw [List.getElem?_eq_none (by omega)]

/-- The two bytes of an instruction are fetched from where they lie. -/
theorem Holds.fetch_eq (h : m.Holds addr [ins.hi, ins.lo]) : m.fetch addr = .ok ins := by
  have hread : m.read addr Instruction.width.toNat = .ok [ins.hi, ins.lo] :=
    h.read_eq (h.le Nat.two_pos)
  rw [fetch, hread]
  rfl

/-- What is fetched are the two bytes at an address, which have to lie in memory. -/
theorem fetch_eq_ok_iff : m.fetch addr = .ok ins ↔
    ∃ h : addr.toNat + 2 ≤ memorySize,
      ins = ⟨m.bytes[addr.toNat], m.bytes[addr.toNat + 1]⟩ := by
  by_cases h : addr.toNat + 2 ≤ memorySize
  · have hread : m.read addr Instruction.width.toNat = .ok (Bytes.slice m.bytes addr.toNat 2 h) :=
      read_eq_ok_iff.2 ⟨h, rfl⟩
    have hfetch : m.fetch addr = .ok ⟨m.bytes[addr.toNat], m.bytes[addr.toNat + 1]⟩ := by
      rw [fetch, hread]
      rfl
    rw [hfetch, Except.ok.injEq, eq_comm, exists_prop_of_true h]
  · rw [fetch_of_lt (Nat.lt_of_not_le h)]
    constructor
    · intro hok
      cases hok
    · rintro ⟨hin, -⟩
      exact absurd hin h

/-- A fetch is refused for its address only, never for its bytes. -/
theorem fetch_ne_malformed (len : Nat) : m.fetch addr ≠ .error (.malformedInstruction len) := by
  intro h
  by_cases hin : addr.toNat + 2 ≤ memorySize
  · rw [fetch_eq_ok_iff.2 ⟨hin, rfl⟩] at h
    cases h
  · rw [fetch_of_lt (Nat.lt_of_not_le hin)] at h
    cases h

/-- **What is fetched is exactly what is in memory.** Bytes are an instruction exactly if there are
two of them, and are refused with their number otherwise. The word of an instruction is the number
that its bytes spell, the word gives the same instruction back, and the views make up the word. An
instruction is fetched exactly at the addresses up to 4094, with the bytes there as its word, and is
never refused for its bytes. So the two bytes of any word, written wherever they fit, are fetched
from there as the instruction of that word. -/
theorem fetch_recovers_bytes :
    (∀ bytes : List UInt8,
      ((∃ ins, Instruction.ofBytes bytes = .ok ins) ↔ bytes.length = 2) ∧
      (bytes.length ≠ 2 →
        Instruction.ofBytes bytes = .error (.malformedInstruction bytes.length)) ∧
      ∀ ins, Instruction.ofBytes bytes = .ok ins →
        ins.word.toNat = Bytes.bigEndian bytes ∧ Instruction.ofWord ins.word = ins) ∧
    (∀ ins : Instruction,
      ins.word.toNat = 4096 * ins.group.val + ins.nnn.toNat ∧
      ins.nnn.toNat = 256 * ins.x.val + ins.nn.toNat ∧
      ins.nn.toNat = 16 * ins.y.val + ins.n.val ∧ ins.n = ins.subGroup) ∧
    (∀ (m : Memory) (addr : UInt16),
      ((∃ ins, m.fetch addr = .ok ins) ↔ addr.toNat ≤ 4094) ∧
      (∀ ins, m.fetch addr = .ok ins → ∃ h : addr.toNat + 2 ≤ memorySize,
        ins.word.toNat = 256 * m.bytes[addr.toNat].toNat + m.bytes[addr.toNat + 1].toNat) ∧
      ∀ len, m.fetch addr ≠ .error (.malformedInstruction len)) ∧
    ∀ (m : Memory) (addr word : UInt16), addr.toNat + 2 ≤ 4096 →
      ∃ m', m.write addr [UInt8.ofNat (word.toNat / 256), UInt8.ofNat (word.toNat % 256)] = .ok m' ∧
        m'.fetch addr = .ok (.ofWord word) := by
  refine ⟨fun bytes => ⟨Instruction.exists_ofBytes_eq_ok_iff, Instruction.ofBytes_of_length_ne,
    fun ins h => ⟨?_, ins.ofWord_word⟩⟩, fun ins => ⟨ins.toNat_word_eq_group, ins.toNat_nnn,
    Instruction.toNat_eq_nibbles ins.lo, rfl⟩, fun m addr => ⟨⟨?_, fun h => ?_⟩, fun ins h => ?_,
    fetch_ne_malformed⟩, fun m addr word h => ?_⟩
  · rw [Instruction.ofBytes_eq_ok_iff.1 h, Bytes.bigEndian_pair, ins.toNat_word]
  · rintro ⟨ins, h⟩
    obtain ⟨hin, -⟩ := fetch_eq_ok_iff.1 h
    simp only [memorySize] at hin
    omega
  · have hin : addr.toNat + 2 ≤ memorySize := by simp only [memorySize]; omega
    exact ⟨_, fetch_eq_ok_iff.2 ⟨hin, rfl⟩⟩
  · obtain ⟨hin, rfl⟩ := fetch_eq_ok_iff.1 h
    exact ⟨hin, Instruction.toNat_word _⟩
  · have hhi : UInt8.ofNat (word.toNat / 256) = (Instruction.ofWord word).hi := by
      rw [← Instruction.toNat_hi_ofWord, UInt8.ofNat_toNat]
    have hlo : UInt8.ofNat (word.toNat % 256) = (Instruction.ofWord word).lo := by
      rw [← Instruction.toNat_lo_ofWord, UInt8.ofNat_toNat]
    rw [hhi, hlo]
    have hwrite : m.write addr [(Instruction.ofWord word).hi, (Instruction.ofWord word).lo] =
        .ok _ := write_eq_ok_iff.2 ⟨h, rfl⟩
    exact ⟨_, hwrite, (holds_of_write hwrite).fetch_eq⟩

/-- A word at an odd address, the last two bytes of memory, the byte after them, and three bytes
that are no instruction. -/
theorem fetch_recovers_bytes_at_end :
    (∃ m', fresh.write 0x301 [0xD0, 0x15] = .ok m' ∧ m'.fetch 0x301 = .ok (.ofWord 0xD015)) ∧
      (∃ ins, fresh.fetch 0xFFE = .ok ins) ∧ (¬ ∃ ins, fresh.fetch 0xFFF = .ok ins) ∧
      Instruction.ofBytes [0x00, 0xE0, 0x00] = .error (.malformedInstruction 3) := by
  obtain ⟨hbytes, -, hfetch, hwritten⟩ := fetch_recovers_bytes
  refine ⟨hwritten fresh 0x301 0xD015 (by decide), (hfetch fresh 0xFFE).1.2 (by decide), ?_,
    (hbytes [0x00, 0xE0, 0x00]).2.1 (by decide)⟩
  intro h
  exact absurd ((hfetch fresh 0xFFF).1.1 h) (by decide)

end Memory

end Chip8
