import Chip8.Proofs.Machine.Failure
import Chip8.Proofs.Machine.Run
import Chip8.Proofs.Memory.Fetching
import Mathlib.Data.List.Induction

set_option relaxedAutoImplicit false
set_option autoImplicit false

/-!
# Blocks of memory

Three instructions move bytes between the registers and the memory at the index: the registers up to
one are saved or restored, and a register is stored as three decimal digits. Either all bytes are
moved or none is. What was saved is restored, as long as nobody touches the index or the block in
between, and the digits make up the number again.

## Main definitions

* `Chip8.Instruction.Transfers` — how many bytes an instruction moves.
* `Chip8.Machine.SameBlock` — two machines have the same bytes at the same index.
* `Chip8.Machine.digits` — the decimal digits of a byte.

## Main results

* `Chip8.Machine.SameBlock.holds`, `Chip8.Machine.sameBlock_run` — what lies at the index stays
  there, also along a run.
* `Chip8.Machine.execute_save`, `Chip8.Machine.execute_storeDecimal`,
  `Chip8.Machine.execute_restore` — what is put at the index, and that what lies there is restored.
* `Chip8.Machine.execute_restore_registers`, `Chip8.Machine.execute_restore_digits` — what the
  registers hold then.
* `Chip8.Machine.execute_outside` — a block that leaves memory is refused as a whole.
* `Chip8.Machine.blocks_round_trip` — what was saved is restored.
-/

namespace Chip8

/-- An instruction moves `n` bytes between the registers and memory. -/
def Instruction.Transfers (ins : Instruction) (n : Nat) : Prop :=
  ins.group = 0xF ∧
    (ins.nn = 0x33 ∧ n = 3 ∨ (ins.nn = 0x55 ∨ ins.nn = 0x65) ∧ n = ins.x.val + 1)

namespace Machine

variable {κ δ : Type} {m m' : Machine κ δ} {data : List UInt8} {n : Nat}

/-! ## What lies at the index -/

/-- Two machines have the same index and the same `n` bytes there. -/
def SameBlock (n : Nat) (m m' : Machine κ δ) : Prop :=
  m'.cpu.index = m.cpu.index ∧ ∀ k < n,
    m'.memory.bytes[m.cpu.index.toNat + k]? = m.memory.bytes[m.cpu.index.toNat + k]?

theorem SameBlock.refl (n : Nat) (m : Machine κ δ) : SameBlock n m m :=
  ⟨rfl, fun _ _ => rfl⟩

theorem SameBlock.trans {m₁ : Machine κ δ} (h : SameBlock n m m₁) (h' : SameBlock n m₁ m') :
    SameBlock n m m' := by
  refine ⟨h'.1.trans h.1, fun k hk => ?_⟩
  have hlast := h'.2 k hk
  rw [h.1] at hlast
  exact hlast.trans (h.2 k hk)

/-- What lies at the index still lies there if the block is the same. -/
theorem SameBlock.holds (hsame : SameBlock n m m') (hlen : data.length ≤ n)
    (h : m.memory.Holds m.cpu.index data) : m'.memory.Holds m'.cpu.index data := by
  intro k b hb
  have hk : k < data.length := (List.getElem?_eq_some_iff.1 hb).1
  rw [hsame.1, hsame.2 k (by omega)]
  exact h k b hb

/-! ## Registers -/

/-- The registers up to one, one by one. -/
theorem getElem?_registersUpTo (m : Machine κ δ) (x : Fin 16) (k : Nat) :
    (m.registersUpTo x)[k]? = if k ≤ x.val then m.cpu.registers[k]? else none := by
  rw [registersUpTo, Bytes.getElem?_slice, Nat.zero_add]
  simp only [Nat.lt_succ_iff]

theorem length_registersUpTo (m : Machine κ δ) (x : Fin 16) :
    (m.registersUpTo x).length = x.val + 1 :=
  Bytes.length_slice ..

/-- Where the registers up to one lie, the registers up to a lower one lie as well. -/
theorem holds_registersUpTo_of_le {memory : Memory} {addr : UInt16} {x y : Fin 16}
    (h : memory.Holds addr (m.registersUpTo x)) (hy : y ≤ x) :
    memory.Holds addr (m.registersUpTo y) := by
  intro k b hb
  refine h k b ?_
  rw [getElem?_registersUpTo] at hb ⊢
  split at hb
  · rename_i hk
    rwa [if_pos (by omega)]
  · cases hb

/-- The machine with its first registers replaced. -/
def fillRegisters (m : Machine κ δ) (data : List UInt8) : Machine κ δ :=
  { m with cpu := { m.cpu with registers := Bytes.overwrite m.cpu.registers 0 data } }

/-- A register is replaced if there is a byte for it. -/
theorem register_fillRegisters (m : Machine κ δ) (data : List UInt8) (r : Fin 16) :
    (m.fillRegisters data).register r = data[r.val]?.getD (m.register r) := by
  simp only [register, fillRegisters, Fin.getElem_fin, Bytes.getElem_overwrite, Nat.zero_le,
    if_true, Nat.sub_zero]

/-- The registers of another machine up to one are taken over, and the others stay. -/
theorem register_fillRegisters_registersUpTo (m' m : Machine κ δ) (x r : Fin 16) :
    (m'.fillRegisters (m.registersUpTo x)).register r =
      if r ≤ x then m.register r else m'.register r := by
  have hr : r.val < registerCount := r.isLt
  rw [register_fillRegisters, getElem?_registersUpTo]
  by_cases h : r ≤ x
  · rw [if_pos h, if_pos (by omega), Vector.getElem?_eq_getElem hr, Option.getD_some]
    rfl
  · rw [if_neg h, if_neg (by omega), Option.getD_none]

/-! ## Instructions -/

variable [Keypad κ] [Panel δ] {ins : Instruction} {op : Operation}

/-- Bytes that fit are written at the index. -/
theorem execute_of_write (hw : m.isWaiting = false) (hop : ins.operation? = some op)
    (hp : m.perform op = m.replaceMemory (m.memory.write m.cpu.index data))
    (h : m.cpu.index.toNat + data.length ≤ memorySize) :
    ∃ memory, m.memory.write m.cpu.index data = .ok memory ∧
      m.execute ins = (.ok .executed, { m with memory }.setPc (m.cpu.pc + 2)) := by
  have hwrite : m.memory.write m.cpu.index data = .ok _ := Memory.write_eq_ok_iff.2 ⟨h, rfl⟩
  rw [hwrite] at hp
  exact ⟨_, hwrite, execute_of_perform_ok hw hop hp⟩

/-- The registers up to one are saved. -/
theorem execute_save (hw : m.isWaiting = false) (hgroup : ins.group = 0xF) (hbyte : ins.nn = 0x55)
    (h : m.cpu.index.toNat + (ins.x.val + 1) ≤ memorySize) :
    ∃ memory, m.memory.write m.cpu.index (m.registersUpTo ins.x) = .ok memory ∧
      m.execute ins = (.ok .executed, { m with memory }.setPc (m.cpu.pc + 2)) := by
  have hop : ins.operation? = some (.save ins.x) :=
    Instruction.operation?_eq_some_iff.2 ⟨hgroup, hbyte, rfl⟩
  exact execute_of_write hw hop rfl (by rwa [length_registersUpTo])

/-- The decimal digits of a byte, the hundreds first. -/
def digits (v : UInt8) : List UInt8 :=
  [v / 100, v / 10 % 10, v % 10]

/-- The decimal digits of a register are stored. -/
theorem execute_storeDecimal (hw : m.isWaiting = false) (hgroup : ins.group = 0xF)
    (hbyte : ins.nn = 0x33) (h : m.cpu.index.toNat + 3 ≤ memorySize) :
    ∃ memory, m.memory.write m.cpu.index (digits (m.register ins.x)) = .ok memory ∧
      m.execute ins = (.ok .executed, { m with memory }.setPc (m.cpu.pc + 2)) := by
  have hop : ins.operation? = some (.storeDecimal ins.x) :=
    Instruction.operation?_eq_some_iff.2 ⟨hgroup, hbyte, rfl⟩
  exact execute_of_write hw hop rfl h

/-- What lies at the index is restored. -/
theorem execute_restore (hw : m.isWaiting = false) (hgroup : ins.group = 0xF)
    (hbyte : ins.nn = 0x65) (h : m.memory.Holds m.cpu.index data)
    (hlen : data.length = ins.x.val + 1) :
    m.execute ins = (.ok .executed, (m.fillRegisters data).setPc (m.cpu.pc + 2)) := by
  have hop : ins.operation? = some (.restore ins.x) :=
    Instruction.operation?_eq_some_iff.2 ⟨hgroup, hbyte, rfl⟩
  have hread : m.memory.read m.cpu.index (ins.x.val + 1) = .ok data := by
    rw [← hlen]
    exact h.read_eq (h.le (by omega))
  have hp : m.perform (.restore ins.x) = (.ok .next, m.fillRegisters data) := by
    simp only [perform, restore, hread]
    rfl
  exact execute_of_perform_ok hw hop hp

/-- A block that lies in memory is moved. -/
theorem execute_inside (hw : m.isWaiting = false) (hn : ins.Transfers n)
    (h : m.cpu.index.toNat + n ≤ memorySize) : (m.execute ins).1 = .ok .executed := by
  obtain ⟨hgroup, ⟨hbyte, rfl⟩ | ⟨hbyte | hbyte, rfl⟩⟩ := hn
  · obtain ⟨memory, -, hrun⟩ := execute_storeDecimal hw hgroup hbyte h
    rw [hrun]
  · obtain ⟨memory, -, hrun⟩ := execute_save hw hgroup hbyte h
    rw [hrun]
  · have hholds : m.memory.Holds m.cpu.index
        (Bytes.slice m.memory.bytes m.cpu.index.toNat (ins.x.val + 1) h) := by
      intro k b hb
      rw [Bytes.getElem?_slice] at hb
      split at hb
      · exact hb
      · cases hb
    rw [execute_restore hw hgroup hbyte hholds (Bytes.length_slice ..)]

/-- A block that leaves memory is refused as a whole. -/
theorem execute_outside (hw : m.isWaiting = false) (hn : ins.Transfers n)
    (h : memorySize < m.cpu.index.toNat + n) :
    m.execute ins = (.error (.outOfRange m.cpu.index n), m) := by
  obtain ⟨op, hop, hspan⟩ : ∃ op, ins.operation? = some op ∧ op.span = some n := by
    obtain ⟨hgroup, ⟨hbyte, rfl⟩ | ⟨hbyte | hbyte, rfl⟩⟩ := hn
    · exact ⟨.storeDecimal ins.x,
        Instruction.operation?_eq_some_iff.2 ⟨hgroup, hbyte, rfl⟩, rfl⟩
    · exact ⟨.save ins.x, Instruction.operation?_eq_some_iff.2 ⟨hgroup, hbyte, rfl⟩, rfl⟩
    · exact ⟨.restore ins.x, Instruction.operation?_eq_some_iff.2 ⟨hgroup, hbyte, rfl⟩, rfl⟩
  exact execute_of_perform_error hw hop (perform_eq_error_iff.2 (.outside hspan h))

/-- The digits of a byte make it up, and each of them is a digit. -/
theorem digits_add_up (v : UInt8) :
    (v / 100).toNat ≤ 9 ∧ (v / 10 % 10).toNat ≤ 9 ∧ (v % 10).toNat ≤ 9 ∧
      100 * (v / 100).toNat + 10 * (v / 10 % 10).toNat + (v % 10).toNat = v.toNat := by
  have hv := v.toNat_lt
  simp only [UInt8.toNat_div, UInt8.toNat_mod, UInt8.reduceToNat]
  omega

/-- The registers of another machine are restored from where they lie. -/
theorem execute_restore_registers {m₀ : Machine κ δ} (hw : m.isWaiting = false)
    (hgroup : ins.group = 0xF) (hbyte : ins.nn = 0x65)
    (h : m.memory.Holds m.cpu.index (m₀.registersUpTo ins.x)) :
    let loaded := (m.execute ins).2
    (m.execute ins).1 = .ok .executed ∧
      (∀ r ≤ ins.x, loaded.register r = m₀.register r) ∧
      (∀ r, ins.x < r → loaded.register r = m.register r) ∧
      loaded.cpu.index = m.cpu.index ∧ loaded.memory = m.memory := by
  intro loaded
  have hrun := execute_restore hw hgroup hbyte h (m₀.length_registersUpTo ins.x)
  have hloaded : loaded = (m.fillRegisters (m₀.registersUpTo ins.x)).setPc (m.cpu.pc + 2) :=
    congrArg Prod.snd hrun
  have hregister (r : Fin 16) :
      loaded.register r = if r ≤ ins.x then m₀.register r else m.register r := by
    rw [hloaded]
    exact register_fillRegisters_registersUpTo m m₀ ins.x r
  refine ⟨by rw [hrun], fun r hr => ?_, fun r hr => ?_, by rw [hloaded]; rfl, by rw [hloaded]; rfl⟩
  · rw [hregister, if_pos hr]
  · rw [hregister, if_neg (by omega)]

/-- The decimal digits of a byte are restored from where they lie, and make it up. -/
theorem execute_restore_digits {v : UInt8} (hw : m.isWaiting = false)
    (h : m.memory.Holds m.cpu.index (digits v)) :
    let loaded := (m.execute ⟨0xF2, 0x65⟩).2
    (m.execute ⟨0xF2, 0x65⟩).1 = .ok .executed ∧
      (loaded.register 0).toNat ≤ 9 ∧ (loaded.register 1).toNat ≤ 9 ∧
      (loaded.register 2).toNat ≤ 9 ∧
      100 * (loaded.register 0).toNat + 10 * (loaded.register 1).toNat +
        (loaded.register 2).toNat = v.toNat := by
  intro loaded
  have hx : Instruction.x ⟨0xF2, 0x65⟩ = 2 := by decide
  have hlen : (digits v).length = (Instruction.x ⟨0xF2, 0x65⟩).val + 1 := by
    rw [hx]
    rfl
  have hrun := execute_restore hw (rfl : Instruction.group ⟨0xF2, 0x65⟩ = 0xF) rfl h hlen
  have hregister (r : Fin 16) : loaded.register r = (digits v)[r.val]?.getD (m.register r) := by
    rw [show loaded = _ from congrArg Prod.snd hrun]
    exact register_fillRegisters m _ r
  refine ⟨by rw [hrun], ?_⟩
  rw [hregister 0, hregister 1, hregister 2]
  exact digits_add_up v

/-! ## Runs -/

/-- A block that every action leaves alone is the same after a run. -/
theorem sameBlock_run {actions : List Action}
    (h : ∀ pre a, pre ++ [a] <+: actions → SameBlock n (m.run pre) ((m.run pre).after a)) :
    SameBlock n m (m.run actions) := by
  induction actions using List.reverseRecOn with
  | nil => exact .refl n m
  | append_singleton actions a ih =>
    have hbefore : SameBlock n m (m.run actions) :=
      ih fun pre b hpre => h pre b (hpre.trans (List.prefix_append _ _))
    rw [run_concat]
    exact hbefore.trans (h actions a (List.prefix_refl _))

/-- **What was saved is restored.** On a machine that takes an instruction, a block of registers or
of decimal digits is moved exactly if all of it lies in memory, wherever the index points; otherwise
the instruction is refused with the index and the number of bytes, and nothing at all changes.

After the registers up to one were saved, the index and all bytes outside of the block are as they
were. Whatever is done then, as long as the index and the block are the same in the end, restoring
these registers or fewer gives them the values that were saved, and leaves the other registers, the
index and memory alone. The index and the block are the same in the end if each action of a run
leaves them alone.

The three decimal digits of a register, once restored, are digits that make up its value. -/
theorem blocks_round_trip (hw : m.isWaiting = false) :
    (∀ (ins : Instruction) (n : Nat), ins.Transfers n →
      (m.cpu.index.toNat + n ≤ 4096 → (m.execute ins).1 = .ok .executed) ∧
      (4096 < m.cpu.index.toNat + n →
        m.execute ins = (.error (.outOfRange m.cpu.index n), m))) ∧
    (∀ save : Instruction, save.group = 0xF → save.nn = 0x55 →
      m.cpu.index.toNat + save.x.val + 1 ≤ 4096 →
      let saved := (m.execute save).2
      saved.cpu.index = m.cpu.index ∧
      (∀ k, k < m.cpu.index.toNat ∨ m.cpu.index.toNat + save.x.val < k →
        saved.memory.bytes[k]? = m.memory.bytes[k]?) ∧
      ∀ between : List Action,
        let late := saved.run between
        SameBlock (save.x.val + 1) saved late → late.isWaiting = false →
        ∀ load : Instruction, load.group = 0xF → load.nn = 0x65 → load.x ≤ save.x →
          let loaded := (late.execute load).2
          (late.execute load).1 = .ok .executed ∧
          (∀ r ≤ load.x, loaded.register r = m.register r) ∧
          (∀ r, load.x < r → loaded.register r = late.register r) ∧
          loaded.cpu.index = m.cpu.index ∧ loaded.memory = late.memory) ∧
    (∀ (n : Nat) (start : Machine κ δ) (actions : List Action),
      (∀ pre a, pre ++ [a] <+: actions → SameBlock n (start.run pre) ((start.run pre).after a)) →
      SameBlock n start (start.run actions)) ∧
    ∀ store : Instruction, store.group = 0xF → store.nn = 0x33 → m.cpu.index.toNat + 3 ≤ 4096 →
      let stored := (m.execute store).2
      let loaded := (stored.execute ⟨0xF2, 0x65⟩).2
      (stored.execute ⟨0xF2, 0x65⟩).1 = .ok .executed ∧
      (loaded.register 0).toNat ≤ 9 ∧ (loaded.register 1).toNat ≤ 9 ∧
      (loaded.register 2).toNat ≤ 9 ∧
      100 * (loaded.register 0).toNat + 10 * (loaded.register 1).toNat +
        (loaded.register 2).toNat = (m.register store.x).toNat := by
  refine ⟨fun ins n hn => ⟨execute_inside hw hn, execute_outside hw hn⟩, ?_,
    fun n start actions h => sameBlock_run h, ?_⟩
  · intro save hgroup hbyte hfits saved
    obtain ⟨memory, hwrite, hrun⟩ := execute_save hw hgroup hbyte hfits
    have hsaved : saved = { m with memory }.setPc (m.cpu.pc + 2) := congrArg Prod.snd hrun
    have hholds : saved.memory.Holds saved.cpu.index (m.registersUpTo save.x) := by
      rw [hsaved]
      exact Memory.holds_of_write hwrite
    have hlen := m.length_registersUpTo save.x
    have hindex : saved.cpu.index = m.cpu.index := by rw [hsaved]; rfl
    refine ⟨hindex, fun k hk => ?_, ?_⟩
    · rw [hsaved]
      exact Memory.getElem?_of_write hwrite (by omega)
    · intro between late hsame hw' load hgroup' hbyte' hle
      have hlate : late.memory.Holds late.cpu.index (m.registersUpTo load.x) :=
        holds_registersUpTo_of_le (hsame.holds (Nat.le_of_eq hlen) hholds) hle
      obtain ⟨hanswer, hlow, hhigh, hkept, hmemory⟩ :=
        execute_restore_registers hw' hgroup' hbyte' hlate
      exact ⟨hanswer, hlow, hhigh, hkept.trans (hsame.1.trans hindex), hmemory⟩
  · intro store hgroup hbyte hfits stored
    obtain ⟨memory, hwrite, hrun⟩ := execute_storeDecimal hw hgroup hbyte hfits
    have hstored : stored = { m with memory }.setPc (m.cpu.pc + 2) := congrArg Prod.snd hrun
    have hholds : stored.memory.Holds stored.cpu.index (digits (m.register store.x)) := by
      rw [hstored]
      exact Memory.holds_of_write hwrite
    have hw' : stored.isWaiting = false := by rw [hstored]; exact hw
    exact execute_restore_digits hw' hholds

/-- Three registers saved right up to the end of memory, overwritten, and two of them restored; a
fourth one does not fit, and neither do the digits of a register one address further on. -/
theorem blocks_round_trip_at_end :
    let m := (((switchedOn (⟨[]⟩ : ScriptedKeypad) NoPanel.mk).setRegister 0 7).setRegister 1
      254).setIndex 0xFFD
    let late := (m.execute ⟨0xF2, 0x55⟩).2.run [.execute ⟨0x60, 0x63⟩, .tick, .execute ⟨0x81, 0x00⟩]
    let loaded := (late.execute ⟨0xF1, 0x65⟩).2
    loaded.register 0 = 7 ∧ loaded.register 1 = 254 ∧
      m.execute ⟨0xF3, 0x55⟩ = (.error (.outOfRange 0xFFD 4), m) ∧
      (m.setIndex 0xFFE).execute ⟨0xF1, 0x33⟩ =
        (.error (.outOfRange 0xFFE 3), m.setIndex 0xFFE) ∧
      (((m.execute ⟨0xF1, 0x33⟩).2.execute ⟨0xF2, 0x65⟩).2.register 0).toNat ≤ 9 := by
  intro m late loaded
  obtain ⟨hmoved, hsave, hkept, hstore⟩ := blocks_round_trip (m := m) rfl
  have hlate : SameBlock 3 (m.execute ⟨0xF2, 0x55⟩).2 late := by
    refine hkept 3 _ _ fun pre a hpre => ?_
    rcases pre with _ | ⟨b, _ | ⟨c, _ | ⟨d, pre⟩⟩⟩
    · obtain rfl : a = .execute ⟨0x60, 0x63⟩ := by simpa using hpre
      exact ⟨rfl, fun _ _ => rfl⟩
    · obtain ⟨rfl, rfl⟩ : b = .execute ⟨0x60, 0x63⟩ ∧ a = .tick := by simpa using hpre
      exact ⟨rfl, fun _ _ => rfl⟩
    · obtain ⟨rfl, rfl, rfl⟩ : b = .execute ⟨0x60, 0x63⟩ ∧ c = .tick ∧
          a = .execute ⟨0x81, 0x00⟩ := by simpa using hpre
      exact ⟨rfl, fun _ _ => rfl⟩
    · simp at hpre
  obtain ⟨-, -, hround⟩ := hsave ⟨0xF2, 0x55⟩ (by decide) (by decide) (by decide)
  obtain ⟨-, hlow, -⟩ := hround _ hlate rfl ⟨0xF1, 0x65⟩ (by decide) (by decide) (by decide)
  refine ⟨(hlow 0 (by decide)).trans (by decide), (hlow 1 (by decide)).trans (by decide),
    (hmoved ⟨0xF3, 0x55⟩ 4 ?_).2 (by decide), ?_, ?_⟩
  · exact ⟨by decide, Or.inr ⟨Or.inl (by decide), by decide⟩⟩
  · refine ((blocks_round_trip (m := m.setIndex 0xFFE) rfl).1 ⟨0xF1, 0x33⟩ 3 ?_).2 (by decide)
    exact ⟨by decide, Or.inl ⟨by decide, rfl⟩⟩
  · exact (hstore ⟨0xF1, 0x33⟩ (by decide) (by decide) (by decide)).2.1

end Machine

end Chip8
