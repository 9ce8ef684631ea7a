import Chip8.Proofs.Decoding
import Chip8.Proofs.Machine.Footprint
import Mathlib.Data.Nat.Bitwise
import Mathlib.Logic.Function.Basic

set_option relaxedAutoImplicit false
set_option autoImplicit false

/-!
# Arithmetic in numbers

What the instructions that compute leave in the registers, said about numbers. The operands are
read before anything is stored, the result is stored first and the flag after it. So the flag stays
if both go to the same register, and it does not matter which registers the operands come from.

## Main definitions

* `Chip8.AluOp.onNumbers` — the result and the flag of a function of two registers.
* `Chip8.Machine.values` — the registers in numbers.
* `Chip8.Machine.stored` — the registers after a result and its flag were stored.
* `Chip8.Machine.Leaves` — an instruction leaves some numbers and touches nothing else.

## Main results

* `Chip8.AluOp.apply_eq_onNumbers` — bytes are computed with as numbers.
* `Chip8.Machine.leaves_alu` — the functions of two registers.
* `Chip8.Machine.execute_arithmetic` — all instructions that compute.
-/

namespace Chip8

/-! ## Bytes and numbers -/

namespace AluOp

/-- The result and the flag of a function of two registers, of which the first holds `a` and the
second `b`. -/
def onNumbers (a b : Nat) : AluOp → Nat × Option Bool
  | copy => (b, none)
  | or => (a ||| b, none)
  | and => (a &&& b, none)
  | xor => (a ^^^ b, none)
  | add => ((a + b) % 256, some (255 < a + b))
  | sub => ((256 + a - b) % 256, some (b ≤ a))
  | shiftRight => (a / 2, some (a % 2 = 1))
  | subFrom => ((256 + b - a) % 256, some (a ≤ b))
  | shiftLeft => (2 * a % 256, some (128 ≤ a))

/-- A difference of bytes wraps around. -/
theorem toNat_sub_wrapping (a b : UInt8) : (a - b).toNat = (256 + a.toNat - b.toNat) % 256 := by
  have hb := b.toNat_lt
  rw [UInt8.toNat_sub]
  omega

/-- The lowest bit of a byte tells whether it is odd. -/
theorem lowest_ne_zero (a : UInt8) : (a &&& 0x01 != 0) = decide (a.toNat % 2 = 1) := by
  have hbit : (a &&& 0x01).toNat = a.toNat % 2 := by
    rw [UInt8.toNat_and]
    exact Nat.and_one_is_mod a.toNat
  rw [Bool.eq_iff_iff, bne_iff_ne, decide_eq_true_iff, Ne, ← UInt8.toNat_inj, hbit]
  simp only [UInt8.toNat_zero]
  omega

/-- The highest bit of a byte tells whether it is at least 128. -/
theorem highest_ne_zero (a : UInt8) : (a &&& 0x80 != 0) = decide (128 ≤ a.toNat) := by
  have ha := a.toNat_lt
  have hbit : (a &&& 0x80).toNat = (a.toNat.testBit 7).toNat * 128 := by
    rw [UInt8.toNat_and]
    exact Nat.and_two_pow a.toNat 7
  have htest : a.toNat.testBit 7 = decide (128 ≤ a.toNat) := by
    rw [Nat.testBit_eq_decide_div_mod_eq, decide_eq_decide]
    omega
  rw [Bool.eq_iff_iff, bne_iff_ne, Ne, ← UInt8.toNat_inj, hbit, htest]
  by_cases h : 128 ≤ a.toNat <;> simp [h]

/-- Bytes are computed with as numbers. -/
theorem apply_eq_onNumbers (f : AluOp) (a b : UInt8) :
    ((f.apply a b).1.toNat, (f.apply a b).2) = f.onNumbers a.toNat b.toNat := by
  cases f with
  | copy => rfl
  | or => exact Prod.ext (UInt8.toNat_or a b) rfl
  | and => exact Prod.ext (UInt8.toNat_and a b) rfl
  | xor => exact Prod.ext (UInt8.toNat_xor a b) rfl
  | add => exact Prod.ext (UInt8.toNat_add a b) rfl
  | sub =>
    refine Prod.ext (toNat_sub_wrapping a b) ?_
    simp only [apply, onNumbers, UInt8.le_iff_toNat_le]
  | subFrom =>
    refine Prod.ext (toNat_sub_wrapping b a) ?_
    simp only [apply, onNumbers, UInt8.le_iff_toNat_le]
  | shiftRight =>
    refine Prod.ext ?_ (congrArg some (lowest_ne_zero a))
    simp [apply, onNumbers, UInt8.toNat_shiftRight, Nat.shiftRight_eq_div_pow]
  | shiftLeft =>
    refine Prod.ext ?_ (congrArg some (highest_ne_zero a))
    simp [apply, onNumbers, UInt8.toNat_shiftLeft, Nat.shiftLeft_eq, Nat.mul_comm]

end AluOp

namespace Machine

variable {κ δ : Type}

/-! ## Registers in numbers -/

/-- The registers in numbers. -/
def values (m : Machine κ δ) (r : Fin 16) : Nat :=
  (m.register r).toNat

/-- The registers after a result was stored in `x` and then its flag, if it has one, in the flag
register. -/
def stored (V : Fin 16 → Nat) (x : Fin 16) : Nat × Option Bool → Fin 16 → Nat
  | (result, none) => Function.update V x result
  | (result, some flag) =>
    Function.update (Function.update V x result) flagRegister (if flag then 1 else 0)

/-- The flag is what the flag register holds, wherever the result went. -/
@[simp] theorem stored_flagRegister (V : Fin 16 → Nat) (x : Fin 16) (result : Nat) (flag : Bool) :
    stored V x (result, some flag) flagRegister = if flag then 1 else 0 := by
  rw [stored, Function.update_self]

/-- Other registers than the first one and the flag register stay. -/
theorem stored_of_ne (V : Fin 16 → Nat) {x r : Fin 16} (result : Nat × Option Bool) (hx : r ≠ x)
    (hflag : r ≠ flagRegister) : stored V x result r = V r := by
  rcases result with ⟨v, _ | flag⟩
  · rw [stored, Function.update_of_ne hx]
  · rw [stored, Function.update_of_ne hflag, Function.update_of_ne hx]

theorem values_setRegister (m : Machine κ δ) (x : Fin 16) (v : UInt8) :
    (m.setRegister x v).values = Function.update m.values x v.toNat := by
  funext r
  by_cases h : r = x
  · subst h
    simp [values]
  · simp [values, register_setRegister_of_ne m v h, Function.update_of_ne h]

theorem values_setFlag (m : Machine κ δ) (flag : Bool) :
    (m.setFlag flag).values = Function.update m.values flagRegister (if flag then 1 else 0) := by
  rw [setFlag, values_setRegister]
  cases flag <;> rfl

theorem values_setResult (m : Machine κ δ) (x : Fin 16) (result : UInt8 × Option Bool) :
    (m.setResult x result).values = stored m.values x (result.1.toNat, result.2) := by
  rcases result with ⟨v, _ | flag⟩
  · exact m.values_setRegister x v
  · simp only [setResult, stored, values_setFlag, values_setRegister]

/-- A result and its flag go to registers and nowhere else. -/
theorem setResult_eq (m : Machine κ δ) (x : Fin 16) (result : UInt8 × Option Bool) :
    m.setResult x result = { m with cpu := { m.cpu with
      registers := (m.setResult x result).cpu.registers } } := by
  rcases result with ⟨v, _ | flag⟩
  · rfl
  · rfl

/-! ## Instructions that compute -/

variable [Keypad κ] [Panel δ] {m : Machine κ δ} {ins : Instruction}

/-- An instruction runs to its end and leaves some numbers in the registers and in the index.
Besides, it moves the program counter on and touches nothing. -/
def Leaves (m : Machine κ δ) (ins : Instruction) (V : Fin 16 → Nat) (index : Nat) : Prop :=
  ∃ m', m.execute ins = (.ok .executed, m') ∧ m'.values = V ∧ m'.cpu.index.toNat = index ∧
    m' = { m with cpu := { m.cpu with
      registers := m'.cpu.registers, index := m'.cpu.index, pc := m.cpu.pc + 2 } }

/-- An operation that touches nothing but registers and the index, and then goes on. -/
theorem leaves_of_perform {m₁ : Machine κ δ} {op : Operation} (hw : m.isWaiting = false)
    (hop : ins.operation? = some op) (hp : m.perform op = (.ok .next, m₁))
    (hrest : m₁ = { m with cpu := { m.cpu with
      registers := m₁.cpu.registers, index := m₁.cpu.index } }) :
    m.Leaves ins m₁.values m₁.cpu.index.toNat := by
  have hpc : m₁.cpu.pc = m.cpu.pc := by rw [hrest]
  refine ⟨m₁.setPc (m₁.cpu.pc + 2), execute_of_perform_ok hw hop hp, rfl, rfl, ?_⟩
  rw [hpc]
  exact congrArg (·.setPc (m.cpu.pc + 2)) hrest

/-- The functions of two registers. -/
theorem leaves_alu {f : AluOp} (hw : m.isWaiting = false) (hgroup : ins.group = 0x8)
    (hn : ins.n = f.nibble) :
    m.Leaves ins (stored m.values ins.x (f.onNumbers (m.values ins.x) (m.values ins.y)))
      m.cpu.index.toNat := by
  have hop : ins.operation? = some (.alu f ins.x ins.y) :=
    Instruction.operation?_eq_some_iff.2 ⟨hgroup, hn, rfl, rfl⟩
  have hindex : Part.index.Same m
      (m.setResult ins.x (f.apply (m.register ins.x) (m.register ins.y))) :=
    m.same_setResult _ _ (by decide)
  have hleaves := leaves_of_perform hw hop rfl ((m.setResult_eq _ _).trans (by rw [hindex]))
  rwa [values_setResult, f.apply_eq_onNumbers, hindex] at hleaves

/-- A byte is added without a flag. -/
theorem leaves_addByte (hw : m.isWaiting = false) (hgroup : ins.group = 0x7) :
    m.Leaves ins (stored m.values ins.x ((m.values ins.x + ins.nn.toNat) % 256, none))
      m.cpu.index.toNat := by
  have hop : ins.operation? = some (.addByte ins.x ins.nn) :=
    Instruction.operation?_eq_some_iff.2 ⟨hgroup, rfl, rfl⟩
  have hleaves := leaves_of_perform hw hop rfl rfl
  rwa [values_setRegister, UInt8.toNat_add] at hleaves

/-- A register is added to the index, and the flag tells whether that left memory. -/
theorem leaves_addIndex (hw : m.isWaiting = false) (hgroup : ins.group = 0xF)
    (hbyte : ins.nn = 0x1E) :
    m.Leaves ins
      (Function.update m.values flagRegister
        (if 4095 < m.cpu.index.toNat + m.values ins.x then 1 else 0))
      ((m.cpu.index.toNat + m.values ins.x) % 65536) := by
  have hop : ins.operation? = some (.addIndex ins.x) :=
    Instruction.operation?_eq_some_iff.2 ⟨hgroup, hbyte, rfl⟩
  have hindex : (m.addIndex ins.x).cpu.index.toNat =
      (m.cpu.index.toNat + m.values ins.x) % 65536 := by
    rw [values, ← UInt8.toNat_toUInt16, ← UInt16.toNat_add]
    rfl
  have hflag : (m.addIndex ins.x).values = Function.update m.values flagRegister
      (if 4095 < m.cpu.index.toNat + m.values ins.x then 1 else 0) := by
    rw [addIndex, values_setFlag]
    simp only [decide_eq_true_iff]
    rfl
  have hleaves := leaves_of_perform hw hop rfl rfl
  rwa [hindex, hflag] at hleaves

/-- **What computing leaves.** An instruction that combines two registers, adds a byte or adds to
the index runs to its end on every machine that takes one. It computes with the registers as they
were before, whichever those are: sums, differences and shifts wrap around at 256, and the index at
65536. The result goes to the first register, and then the flag, where there is one, to the flag
register, which so holds it even if the result went there as well. The flag tells of a sum above
255, of a difference that is not below zero, of the bit that a shift loses, and of an index past the
end of memory. No other register, and nothing else but the program counter, changes. -/
theorem execute_arithmetic (hw : m.isWaiting = false) (ins : Instruction) :
    let V := m.values
    let vx := V ins.x
    let vy := V ins.y
    let I := m.cpu.index.toNat
    (ins.group = 0x7 → m.Leaves ins (stored V ins.x ((vx + ins.nn.toNat) % 256, none)) I) ∧
    (ins.group = 0x8 →
      (ins.n = 0x0 → m.Leaves ins (stored V ins.x (vy, none)) I) ∧
      (ins.n = 0x1 → m.Leaves ins (stored V ins.x (vx ||| vy, none)) I) ∧
      (ins.n = 0x2 → m.Leaves ins (stored V ins.x (vx &&& vy, none)) I) ∧
      (ins.n = 0x3 → m.Leaves ins (stored V ins.x (vx ^^^ vy, none)) I) ∧
      (ins.n = 0x4 →
        m.Leaves ins (stored V ins.x ((vx + vy) % 256, some (255 < vx + vy))) I) ∧
      (ins.n = 0x5 →
        m.Leaves ins (stored V ins.x ((256 + vx - vy) % 256, some (vy ≤ vx))) I) ∧
      (ins.n = 0x6 → m.Leaves ins (stored V ins.x (vx / 2, some (vx % 2 = 1))) I) ∧
      (ins.n = 0x7 →
        m.Leaves ins (stored V ins.x ((256 + vy - vx) % 256, some (vx ≤ vy))) I) ∧
      (ins.n = 0xE → m.Leaves ins (stored V ins.x (2 * vx % 256, some (128 ≤ vx))) I)) ∧
    (ins.group = 0xF → ins.nn = 0x1E →
      m.Leaves ins (Function.update V flagRegister (if 4095 < I + vx then 1 else 0))
        ((I + vx) % 65536)) := by
  intro V vx vy I
  refine ⟨leaves_addByte hw, fun hgroup => ?_, leaves_addIndex hw⟩
  have halu (f : AluOp) (hn : ins.n = f.nibble) :
      m.Leaves ins (stored V ins.x (f.onNumbers vx vy)) I := leaves_alu hw hgroup hn
  exact ⟨halu .copy, halu .or, halu .and, halu .xor, halu .add, halu .sub, halu .shiftRight,
    halu .subFrom, halu .shiftLeft⟩

/-- The flag register added to itself and to the index: the sums are lost where they meet the flag,
and the index wraps around. -/
theorem execute_arithmetic_of_flagRegister :
    let m := ((switchedOn (⟨[]⟩ : ScriptedKeypad) NoPanel.mk).setRegister flagRegister 200).setIndex
      0xFFFF
    let doubled := (m.execute ⟨0x8F, 0xF4⟩).2
    let moved := (m.execute ⟨0xFF, 0x1E⟩).2
    doubled.values flagRegister = 1 ∧ doubled.values 3 = 0 ∧
      moved.values flagRegister = 1 ∧ moved.cpu.index.toNat = 199 := by
  intro m doubled moved
  have hflag : m.values flagRegister = 200 := by decide
  obtain ⟨-, halu, -⟩ := execute_arithmetic (m := m) rfl ⟨0x8F, 0xF4⟩
  obtain ⟨m₁, hrun₁, hvalues₁, -, -⟩ := (halu (by decide)).2.2.2.2.1 (by decide)
  obtain ⟨-, -, haddIndex⟩ := execute_arithmetic (m := m) rfl ⟨0xFF, 0x1E⟩
  obtain ⟨m₂, hrun₂, hvalues₂, hindex₂, -⟩ := haddIndex (by decide) (by decide)
  have hdoubled : doubled = m₁ := congrArg Prod.snd hrun₁
  have hmoved : moved = m₂ := congrArg Prod.snd hrun₂
  refine ⟨?_, ?_, ?_, ?_⟩
  · rw [hdoubled, hvalues₁, stored_flagRegister]
    decide
  · rw [hdoubled, hvalues₁, stored_of_ne _ _ (by decide) (by decide)]
    decide
  · rw [hmoved, hvalues₂, Function.update_self]
    decide
  · rw [hmoved, hindex₂]
    decide

end Machine

end Chip8
