import Chip8.Proofs.Decoding

set_option relaxedAutoImplicit false
set_option autoImplicit false

/-!
# Words

An instruction is a word, and its views are the four hexadecimal digits of that word. Which words
mean something is a list of patterns, in each of which some digits are fixed and the others free.
The list speaks about numbers only; that decoding agrees with it is a theorem.

## Main definitions

* `Chip8.WordPattern`, `Chip8.WordPattern.Matches` — patterns, and the words that match one.
* `Chip8.wordPatterns` — the patterns of all words that mean something.

## Main results

* `Chip8.Instruction.word_ofWord`, `Chip8.Instruction.ofWord_word` — words and instructions are
  the same.
* `Chip8.Instruction.operation?_ofWord_eq_none_iff` — a word means nothing exactly if it matches
  no pattern.
-/

namespace Chip8

/-! ## Words and instructions -/

namespace Instruction

theorem toNat_hi_ofWord (w : UInt16) : (ofWord w).hi.toNat = w.toNat / 256 := by
  have hw := w.toNat_lt
  have hshift : (w >>> 8).toNat = w.toNat / 256 := by
    rw [UInt16.toNat_shiftRight]
    exact Nat.shiftRight_eq_div_pow w.toNat 8
  rw [ofWord, UInt16.toNat_toUInt8, hshift]
  omega

theorem toNat_lo_ofWord (w : UInt16) : (ofWord w).lo.toNat = w.toNat % 256 :=
  UInt16.toNat_toUInt8 w

/-- A byte in front of another one counts 256 times as much. -/
theorem toNat_joined (hi lo : UInt8) :
    (hi.toUInt16 <<< 8 ||| lo.toUInt16).toNat = 256 * hi.toNat + lo.toNat := by
  have hhi := hi.toNat_lt
  have hlo : lo.toNat < 2 ^ 8 := lo.toNat_lt
  have hshift : (hi.toUInt16 <<< 8).toNat = 2 ^ 8 * hi.toNat := by
    rw [UInt16.toNat_shiftLeft, UInt8.toNat_toUInt16, Nat.shiftLeft_eq]
    simp only [UInt16.toNat_ofNat, Nat.reducePow, Nat.reduceMod]
    omega
  rw [UInt16.toNat_or, hshift, UInt8.toNat_toUInt16, ← Nat.two_pow_add_eq_or_of_lt hlo hi.toNat]

theorem toNat_word (ins : Instruction) :
    ins.word.toNat = 256 * ins.hi.toNat + ins.lo.toNat :=
  toNat_joined ..

theorem toNat_nnn (ins : Instruction) :
    ins.nnn.toNat = 256 * ins.x.val + ins.nn.toNat := by
  have hmask : (ins.hi &&& 0x0F).toNat = ins.hi.toNat % 16 := by
    rw [UInt8.toNat_and]
    exact Nat.and_two_pow_sub_one_eq_mod ins.hi.toNat 4
  rw [nnn, toNat_joined, hmask]
  rfl

/-- The instruction of a word has that word. -/
theorem word_ofWord (w : UInt16) : (ofWord w).word = w := by
  rw [← UInt16.toNat_inj, toNat_word, toNat_hi_ofWord, toNat_lo_ofWord]
  omega

/-- Every instruction is the one of its word. -/
theorem ofWord_word (ins : Instruction) : ofWord ins.word = ins := by
  obtain ⟨hi, lo⟩ := ins
  have hlo := lo.toNat_lt
  rw [Instruction.mk.injEq, ← UInt8.toNat_inj, ← UInt8.toNat_inj, toNat_hi_ofWord,
    toNat_lo_ofWord, toNat_word]
  dsimp only
  omega

/-! ## Nibbles -/

/-- The low byte is its two nibbles. -/
theorem nn_eq_iff {ins : Instruction} {b : UInt8} :
    ins.nn = b ↔ ins.y = highNibble b ∧ ins.n = lowNibble b := by
  have hnn := ins.nn.toNat_lt
  have hb := b.toNat_lt
  rw [← UInt8.toNat_inj]
  simp only [y, n, nn, highNibble, lowNibble, Fin.mk.injEq]
  omega

end Instruction

/-! ## Patterns -/

/-- A pattern for the four hexadecimal digits of a word; `none` stands for any digit. -/
structure WordPattern where
  /-- The first digit. -/
  first : Fin 16
  /-- The second digit. -/
  second : Option (Fin 16)
  /-- The third digit. -/
  third : Option (Fin 16)
  /-- The fourth digit. -/
  fourth : Option (Fin 16)
  deriving DecidableEq, Repr

/-- Whether the digits of a word are as a pattern says. -/
def WordPattern.Matches (p : WordPattern) (w : UInt16) : Prop :=
  w.toNat / 4096 = p.first.val ∧ (∀ d ∈ p.second, w.toNat / 256 % 16 = d.val) ∧
    (∀ d ∈ p.third, w.toNat / 16 % 16 = d.val) ∧ ∀ d ∈ p.fourth, w.toNat % 16 = d.val

instance (p : WordPattern) (w : UInt16) : Decidable (p.Matches w) :=
  inferInstanceAs (Decidable (_ ∧ _ ∧ _ ∧ _))

/-- The words that mean something. -/
def wordPatterns : List WordPattern := [
  ⟨0x0, none, some 0xE, some 0x0⟩,
  ⟨0x0, none, some 0xE, some 0xE⟩,
  ⟨0x1, none, none, none⟩,
  ⟨0x2, none, none, none⟩,
  ⟨0x3, none, none, none⟩,
  ⟨0x4, none, none, none⟩,
  ⟨0x5, none, none, some 0x0⟩,
  ⟨0x6, none, none, none⟩,
  ⟨0x7, none, none, none⟩,
  ⟨0x8, none, none, some 0x0⟩,
  ⟨0x8, none, none, some 0x1⟩,
  ⟨0x8, none, none, some 0x2⟩,
  ⟨0x8, none, none, some 0x3⟩,
  ⟨0x8, none, none, some 0x4⟩,
  ⟨0x8, none, none, some 0x5⟩,
  ⟨0x8, none, none, some 0x6⟩,
  ⟨0x8, none, none, some 0x7⟩,
  ⟨0x8, none, none, some 0xE⟩,
  ⟨0x9, none, none, some 0x0⟩,
  ⟨0xA, none, none, none⟩,
  ⟨0xB, none, none, none⟩,
  ⟨0xC, none, none, none⟩,
  ⟨0xD, none, none, none⟩,
  ⟨0xE, none, some 0x9, some 0xE⟩,
  ⟨0xE, none, some 0xA, some 0x1⟩,
  ⟨0xF, none, some 0x0, some 0x7⟩,
  ⟨0xF, none, some 0x0, some 0xA⟩,
  ⟨0xF, none, some 0x1, some 0x5⟩,
  ⟨0xF, none, some 0x1, some 0x8⟩,
  ⟨0xF, none, some 0x1, some 0xE⟩,
  ⟨0xF, none, some 0x2, some 0x9⟩,
  ⟨0xF, none, some 0x3, some 0x3⟩,
  ⟨0xF, none, some 0x5, some 0x5⟩,
  ⟨0xF, none, some 0x6, some 0x5⟩]

namespace WordPattern

/-- The digits of a word are the nibbles of its instruction. -/
theorem matches_iff {p : WordPattern} {w : UInt16} :
    p.Matches w ↔ (Instruction.ofWord w).group = p.first ∧
      (∀ d ∈ p.second, (Instruction.ofWord w).x = d) ∧
      (∀ d ∈ p.third, (Instruction.ofWord w).y = d) ∧
      ∀ d ∈ p.fourth, (Instruction.ofWord w).n = d := by
  have hgroup : (Instruction.ofWord w).group.val = w.toNat / 4096 := by
    simp only [Instruction.group, Instruction.highNibble, Instruction.toNat_hi_ofWord]
    omega
  have hx : (Instruction.ofWord w).x.val = w.toNat / 256 % 16 := by
    simp only [Instruction.x, Instruction.lowNibble, Instruction.toNat_hi_ofWord]
  have hy : (Instruction.ofWord w).y.val = w.toNat / 16 % 16 := by
    simp only [Instruction.y, Instruction.highNibble, Instruction.toNat_lo_ofWord]
    omega
  have hn : (Instruction.ofWord w).n.val = w.toNat % 16 := by
    simp only [Instruction.n, Instruction.lowNibble, Instruction.toNat_lo_ofWord]
    omega
  simp only [Matches, Fin.ext_iff, hgroup, hx, hy, hn]

end WordPattern

namespace Operation

/-- The pattern of the words that ask for an operation. -/
def pattern : Operation → WordPattern
  | clearScreen => ⟨0x0, none, some 0xE, some 0x0⟩
  | ret => ⟨0x0, none, some 0xE, some 0xE⟩
  | jump _ => ⟨0x1, none, none, none⟩
  | call _ => ⟨0x2, none, none, none⟩
  | skipEqual .. => ⟨0x3, none, none, none⟩
  | skipNotEqual .. => ⟨0x4, none, none, none⟩
  | skipSame .. => ⟨0x5, none, none, some 0x0⟩
  | load .. => ⟨0x6, none, none, none⟩
  | addByte .. => ⟨0x7, none, none, none⟩
  | alu f _ _ => ⟨0x8, none, none, some f.nibble⟩
  | skipDifferent .. => ⟨0x9, none, none, some 0x0⟩
  | setIndex _ => ⟨0xA, none, none, none⟩
  | jumpOffset _ => ⟨0xB, none, none, none⟩
  | random .. => ⟨0xC, none, none, none⟩
  | draw .. => ⟨0xD, none, none, none⟩
  | skipKeyDown _ => ⟨0xE, none, some 0x9, some 0xE⟩
  | skipKeyUp _ => ⟨0xE, none, some 0xA, some 0x1⟩
  | readDelay _ => ⟨0xF, none, some 0x0, some 0x7⟩
  | awaitKey _ => ⟨0xF, none, some 0x0, some 0xA⟩
  | setDelay _ => ⟨0xF, none, some 0x1, some 0x5⟩
  | setSound _ => ⟨0xF, none, some 0x1, some 0x8⟩
  | addIndex _ => ⟨0xF, none, some 0x1, some 0xE⟩
  | glyph _ => ⟨0xF, none, some 0x2, some 0x9⟩
  | storeDecimal _ => ⟨0xF, none, some 0x3, some 0x3⟩
  | save _ => ⟨0xF, none, some 0x5, some 0x5⟩
  | restore _ => ⟨0xF, none, some 0x6, some 0x5⟩

end Operation

/-- The list holds the patterns of the operations. -/
theorem mem_wordPatterns_iff {p : WordPattern} :
    p ∈ wordPatterns ↔ ∃ op : Operation, op.pattern = p := by
  constructor
  · revert p
    simp only [wordPatterns, List.forall_mem_cons]
    exact ⟨⟨.clearScreen, rfl⟩, ⟨.ret, rfl⟩, ⟨.jump 0, rfl⟩, ⟨.call 0, rfl⟩, ⟨.skipEqual 0 0, rfl⟩,
      ⟨.skipNotEqual 0 0, rfl⟩, ⟨.skipSame 0 0, rfl⟩, ⟨.load 0 0, rfl⟩, ⟨.addByte 0 0, rfl⟩,
      ⟨.alu .copy 0 0, rfl⟩, ⟨.alu .or 0 0, rfl⟩, ⟨.alu .and 0 0, rfl⟩, ⟨.alu .xor 0 0, rfl⟩,
      ⟨.alu .add 0 0, rfl⟩, ⟨.alu .sub 0 0, rfl⟩, ⟨.alu .shiftRight 0 0, rfl⟩,
      ⟨.alu .subFrom 0 0, rfl⟩, ⟨.alu .shiftLeft 0 0, rfl⟩, ⟨.skipDifferent 0 0, rfl⟩,
      ⟨.setIndex 0, rfl⟩, ⟨.jumpOffset 0, rfl⟩, ⟨.random 0 0, rfl⟩, ⟨.draw 0 0 0, rfl⟩,
      ⟨.skipKeyDown 0, rfl⟩, ⟨.skipKeyUp 0, rfl⟩, ⟨.readDelay 0, rfl⟩, ⟨.awaitKey 0, rfl⟩,
      ⟨.setDelay 0, rfl⟩, ⟨.setSound 0, rfl⟩, ⟨.addIndex 0, rfl⟩, ⟨.glyph 0, rfl⟩,
      ⟨.storeDecimal 0, rfl⟩, ⟨.save 0, rfl⟩, ⟨.restore 0, rfl⟩, nofun⟩
  · rintro ⟨op, rfl⟩
    cases op <;> simp only [Operation.pattern]
    case alu f _ _ => cases f <;> decide
    all_goals decide

/-- The words that ask for an operation match its pattern. -/
theorem Operation.Coded.matches_pattern {w : UInt16} {op : Operation} (h : op.Coded (.ofWord w)) :
    op.pattern.Matches w := by
  rw [WordPattern.matches_iff]
  cases op <;> simp only [Operation.Coded, Instruction.nn_eq_iff] at h <;>
    simp [Operation.pattern, h, Instruction.highNibble, Instruction.lowNibble]

/-- A word that matches the pattern of an operation asks for one, with operands of its own. -/
theorem exists_coded_of_matches_pattern {w : UInt16} {op : Operation}
    (h : op.pattern.Matches w) : ∃ op' : Operation, op'.Coded (.ofWord w) := by
  obtain ⟨hgroup, -, hy, hn⟩ := WordPattern.matches_iff.1 h
  have hlow {b : UInt8} (hhigh : op.pattern.third = some (Instruction.highNibble b))
      (hlow : op.pattern.fourth = some (Instruction.lowNibble b)) :
      (Instruction.ofWord w).nn = b :=
    Instruction.nn_eq_iff.2 ⟨hy _ hhigh, hn _ hlow⟩
  cases op with
  | clearScreen => exact ⟨.clearScreen, hgroup, hlow rfl rfl⟩
  | ret => exact ⟨.ret, hgroup, hlow rfl rfl⟩
  | jump => exact ⟨.jump _, hgroup, rfl⟩
  | call => exact ⟨.call _, hgroup, rfl⟩
  | skipEqual => exact ⟨.skipEqual _ _, hgroup, rfl, rfl⟩
  | skipNotEqual => exact ⟨.skipNotEqual _ _, hgroup, rfl, rfl⟩
  | skipSame => exact ⟨.skipSame _ _, hgroup, hn _ rfl, rfl, rfl⟩
  | skipDifferent => exact ⟨.skipDifferent _ _, hgroup, hn _ rfl, rfl, rfl⟩
  | load => exact ⟨.load _ _, hgroup, rfl, rfl⟩
  | addByte => exact ⟨.addByte _ _, hgroup, rfl, rfl⟩
  | alu f => exact ⟨.alu f _ _, hgroup, hn _ rfl, rfl, rfl⟩
  | setIndex => exact ⟨.setIndex _, hgroup, rfl⟩
  | jumpOffset => exact ⟨.jumpOffset _, hgroup, rfl⟩
  | random => exact ⟨.random _ _, hgroup, rfl, rfl⟩
  | draw => exact ⟨.draw _ _ _, hgroup, rfl, rfl, rfl⟩
  | skipKeyDown => exact ⟨.skipKeyDown _, hgroup, hlow rfl rfl, rfl⟩
  | skipKeyUp => exact ⟨.skipKeyUp _, hgroup, hlow rfl rfl, rfl⟩
  | readDelay => exact ⟨.readDelay _, hgroup, hlow rfl rfl, rfl⟩
  | awaitKey => exact ⟨.awaitKey _, hgroup, hlow rfl rfl, rfl⟩
  | setDelay => exact ⟨.setDelay _, hgroup, hlow rfl rfl, rfl⟩
  | setSound => exact ⟨.setSound _, hgroup, hlow rfl rfl, rfl⟩
  | addIndex => exact ⟨.addIndex _, hgroup, hlow rfl rfl, rfl⟩
  | glyph => exact ⟨.glyph _, hgroup, hlow rfl rfl, rfl⟩
  | storeDecimal => exact ⟨.storeDecimal _, hgroup, hlow rfl rfl, rfl⟩
  | save => exact ⟨.save _, hgroup, hlow rfl rfl, rfl⟩
  | restore => exact ⟨.restore _, hgroup, hlow rfl rfl, rfl⟩

/-- A word means nothing exactly if it matches no pattern. -/
theorem Instruction.operation?_ofWord_eq_none_iff {w : UInt16} :
    (ofWord w).operation? = none ↔ ∀ p ∈ wordPatterns, ¬ p.Matches w := by
  rw [Option.eq_none_iff_forall_ne_some]
  constructor
  · intro hnone p hp hmatches
    obtain ⟨op, rfl⟩ := mem_wordPatterns_iff.1 hp
    obtain ⟨op', hcoded⟩ := exists_coded_of_matches_pattern hmatches
    exact hnone op' (operation?_eq_some_iff.2 hcoded)
  · intro hno op hop
    refine hno op.pattern (mem_wordPatterns_iff.2 ⟨op, rfl⟩) ?_
    exact (operation?_eq_some_iff.1 hop).matches_pattern

end Chip8
