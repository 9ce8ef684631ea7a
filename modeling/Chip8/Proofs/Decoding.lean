import Chip8.Operation

set_option relaxedAutoImplicit false
set_option autoImplicit false

/-!
# The table of instructions

Decoding takes a word apart step by step. The table below says for each operation, on its own,
which words ask for it, and the two agree: a word has an operation exactly if the table says so.

## Main definitions

* `Chip8.AluOp.nibble` — the fourth nibble that selects a function of two registers.
* `Chip8.Operation.Coded` — the words that ask for an operation.

## Main results

* `Chip8.Instruction.operation?_eq_some_iff` — decoding follows the table.
-/

namespace Chip8

/-- The fourth nibble that selects a function of two registers. -/
def AluOp.nibble : AluOp → Fin 16
  | copy => 0x0
  | or => 0x1
  | and => 0x2
  | xor => 0x3
  | add => 0x4
  | sub => 0x5
  | shiftRight => 0x6
  | subFrom => 0x7
  | shiftLeft => 0xE

/-- Whether an instruction asks for an operation. Nibbles that are not mentioned are free. -/
def Operation.Coded (ins : Instruction) : Operation → Prop
  | clearScreen => ins.group = 0x0 ∧ ins.nn = 0xE0
  | ret => ins.group = 0x0 ∧ ins.nn = 0xEE
  | jump target => ins.group = 0x1 ∧ ins.nnn = target
  | call target => ins.group = 0x2 ∧ ins.nnn = target
  | skipEqual x byte => ins.group = 0x3 ∧ ins.x = x ∧ ins.nn = byte
  | skipNotEqual x byte => ins.group = 0x4 ∧ ins.x = x ∧ ins.nn = byte
  | skipSame x y => ins.group = 0x5 ∧ ins.n = 0x0 ∧ ins.x = x ∧ ins.y = y
  | load x byte => ins.group = 0x6 ∧ ins.x = x ∧ ins.nn = byte
  | addByte x byte => ins.group = 0x7 ∧ ins.x = x ∧ ins.nn = byte
  | alu op x y => ins.group = 0x8 ∧ ins.n = op.nibble ∧ ins.x = x ∧ ins.y = y
  | skipDifferent x y => ins.group = 0x9 ∧ ins.n = 0x0 ∧ ins.x = x ∧ ins.y = y
  | setIndex addr => ins.group = 0xA ∧ ins.nnn = addr
  | jumpOffset base => ins.group = 0xB ∧ ins.nnn = base
  | random x mask => ins.group = 0xC ∧ ins.x = x ∧ ins.nn = mask
  | draw x y height => ins.group = 0xD ∧ ins.x = x ∧ ins.y = y ∧ ins.n = height
  | skipKeyDown x => ins.group = 0xE ∧ ins.nn = 0x9E ∧ ins.x = x
  | skipKeyUp x => ins.group = 0xE ∧ ins.nn = 0xA1 ∧ ins.x = x
  | readDelay x => ins.group = 0xF ∧ ins.nn = 0x07 ∧ ins.x = x
  | awaitKey x => ins.group = 0xF ∧ ins.nn = 0x0A ∧ ins.x = x
  | setDelay x => ins.group = 0xF ∧ ins.nn = 0x15 ∧ ins.x = x
  | setSound x => ins.group = 0xF ∧ ins.nn = 0x18 ∧ ins.x = x
  | addIndex x => ins.group = 0xF ∧ ins.nn = 0x1E ∧ ins.x = x
  | glyph x => ins.group = 0xF ∧ ins.nn = 0x29 ∧ ins.x = x
  | storeDecimal x => ins.group = 0xF ∧ ins.nn = 0x33 ∧ ins.x = x
  | save x => ins.group = 0xF ∧ ins.nn = 0x55 ∧ ins.x = x
  | restore x => ins.group = 0xF ∧ ins.nn = 0x65 ∧ ins.x = x

namespace Instruction

/-- Group 8 has a function exactly for the nibbles of the table. -/
theorem aluOp?_eq_some_iff {ins : Instruction} {op : AluOp} :
    ins.aluOp? = some op ↔ ins.n = op.nibble := by
  constructor
  · intro h
    unfold aluOp? at h
    split at h <;> cases h <;> assumption
  · intro h
    cases op <;> simp [aluOp?, h, AluOp.nibble]

/-- A nibble that is none of the first fifteen is the last one. -/
theorem nibble_eq_last {g : Fin 16} (h : g ≠ 0x0 ∧ g ≠ 0x1 ∧ g ≠ 0x2 ∧ g ≠ 0x3 ∧ g ≠ 0x4 ∧
    g ≠ 0x5 ∧ g ≠ 0x6 ∧ g ≠ 0x7 ∧ g ≠ 0x8 ∧ g ≠ 0x9 ∧ g ≠ 0xA ∧ g ≠ 0xB ∧ g ≠ 0xC ∧ g ≠ 0xD ∧
    g ≠ 0xE) : g = 0xF := by
  omega

/-- What a word is decoded to stands in the table.

**Proof sketch.** By group. Groups 0, 8, E and F are decoded further, by the low byte or by the
fourth nibble; the others give their operation at once. -/
theorem coded_of_operation? {ins : Instruction} {op : Operation}
    (h : ins.operation? = some op) : op.Coded ins := by
  unfold operation? at h
  split at h
  case h_1 hg =>
    unfold systemOperation? at h
    split at h <;> cases h <;> exact ⟨hg, ‹_›⟩
  case h_9 hg =>
    obtain ⟨f, hf, rfl⟩ := Option.map_eq_some_iff.1 h
    exact ⟨hg, aluOp?_eq_some_iff.1 hf, rfl, rfl⟩
  case h_15 hg =>
    unfold keyOperation? at h
    split at h <;> cases h <;> exact ⟨hg, ‹_›, rfl⟩
  case h_16 h0 h1 h2 h3 h4 h5 h6 h7 h8 h9 h10 h11 h12 h13 h14 =>
    -- the last group is the default of the match
    have hg := nibble_eq_last ⟨h0, h1, h2, h3, h4, h5, h6, h7, h8, h9, h10, h11, h12, h13, h14⟩
    unfold miscOperation? at h
    split at h <;> cases h <;> exact ⟨hg, ‹_›, rfl⟩
  all_goals
    try split at h
    all_goals cases h
    simp_all [Operation.Coded]

/-- Decoding follows the table. -/
theorem operation?_eq_some_iff {ins : Instruction} {op : Operation} :
    ins.operation? = some op ↔ op.Coded ins := by
  refine ⟨coded_of_operation?, fun h => ?_⟩
  cases op <;> simp only [Operation.Coded] at h <;>
    simp [operation?, systemOperation?, aluOp?_eq_some_iff, keyOperation?, miscOperation?, h]

end Instruction

end Chip8
