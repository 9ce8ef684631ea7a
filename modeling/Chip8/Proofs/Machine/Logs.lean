import Chip8.Machine.Basic
import Chip8.Memory.Dump
import Chip8.Proofs.Digits

set_option relaxedAutoImplicit false
set_option autoImplicit false

/-!
# What logs and dumps show

A log shows the parts of a machine, each on a line of its own and with as many digits as it needs;
a dump shows the bytes of a memory, sixteen on a line and with two digits each. Both are spelled out
here from the parts themselves.

## Main definitions

* `Chip8.Machine.status` — the lines of a log.
* `Chip8.Memory.listing` — the lines of a dump.
* `Chip8.Machine.diagnostics` — both, one after the other.

## Main results

* `Chip8.Machine.log_eq_status`, `Chip8.Memory.dump_eq_listing` — logs and dumps show just that.
-/

namespace Chip8

/-! ## Logs -/

/-- A name and a number on a line. -/
def Hex.numberLine (name : List Char) (n : Nat) : List Char :=
  name ++ " = ".toList ++ Nat.toDigits 16 n ++ ['\n']

namespace Snapshot

theorem line_short (name : String) (n : UInt16) :
    line name (Hex.short n) = Hex.numberLine name.toList n.toNat := by
  rw [line, Hex.short_eq_toDigits, Hex.numberLine]

/-- The line of a stack has its slots between brackets. -/
theorem line_stack (slots : List UInt16) :
    line "stack" (listed (slots.map Hex.short)) =
      "stack = [".toList ++
        List.intercalate ", ".toList (slots.map fun addr => Nat.toDigits 16 addr.toNat) ++
        "]\n".toList := by
  have hshort : Hex.short = fun n => Nat.toDigits 16 n.toNat := funext Hex.short_eq_toDigits
  rw [hshort]
  simp [line, listed]

/-- The name of a register has the digit of its number. -/
theorem registerLine_eq_numberLine (s : Snapshot) (k : Fin registerCount) :
    s.registerLine k =
      Hex.numberLine ("register[".toList ++ Nat.toDigits 16 k.val ++ [']'])
        (s.register k).toNat := by
  have hk : (UInt16.ofNat k.val).toNat = k.val := by
    have hlt : k.val < 16 := k.isLt
    rw [UInt16.toNat_ofNat', Nat.mod_eq_of_lt (by omega)]
  unfold registerLine
  rw [line_short, String.toList_ofList, Hex.short_eq_toDigits, hk, UInt8.toNat_toUInt16]

end Snapshot

namespace Machine

variable {κ δ : Type}

/-- The program counter, how many return addresses are in use, both timers, the index, all slots
for return addresses, and the registers, one after another. -/
def status (m : Machine κ δ) : List Char :=
  Hex.numberLine "pc".toList m.cpu.pc.toNat ++
    Hex.numberLine "sp".toList m.cpu.stack.depth ++
    Hex.numberLine "dt".toList m.timers.delay.toNat ++
    Hex.numberLine "st".toList m.timers.sound.toNat ++
    Hex.numberLine "i".toList m.cpu.index.toNat ++
    ("stack = [".toList ++
      List.intercalate ", ".toList
        (m.cpu.stack.slots.toList.map fun addr => Nat.toDigits 16 addr.toNat) ++
      "]\n".toList) ++
    (List.finRange 16).flatMap fun k =>
      Hex.numberLine ("register[".toList ++ Nat.toDigits 16 k.val ++ [']'])
        (m.cpu.registers.get k).toNat

/-- A log shows the parts of its machine. -/
theorem log_eq_status (m : Machine κ δ) : m.log = m.status := by
  have hdepth : (UInt8.ofNat m.cpu.stack.depth).toNat = m.cpu.stack.depth := by
    have hle : m.cpu.stack.depth ≤ 16 := m.cpu.stack.depth_le
    rw [UInt8.toNat_ofNat', Nat.mod_eq_of_lt (by omega)]
  have hregisters : m.snapshot.registerLine = _ := funext m.snapshot.registerLine_eq_numberLine
  rw [log, Snapshot.text, hregisters]
  simp only [Snapshot.line_short, Snapshot.line_stack, UInt8.toNat_toUInt16, snapshot,
    Cpu.snapshot, hdepth]
  rfl

end Machine

/-! ## Dumps -/

namespace Memory

/-- Three digits of an address, a colon, two digits for each of the sixteen bytes from there, with a
blank before them, and the end of the line. -/
def listingLine (m : Memory) (k : Nat) : List Char :=
  (Nat.toDigits 16 (16 * k)).leftpad 3 '0' ++ ':' ::
    ((m.bytes.toList.drop (16 * k)).take 16).flatMap
      (fun b => ' ' :: (Nat.toDigits 16 b.toNat).leftpad 2 '0') ++ ['\n']

/-- A line for every sixteen bytes. -/
def listing (m : Memory) : List Char :=
  (List.range 256).flatMap m.listingLine

/-- The bytes of a line stand one after another in memory. -/
theorem map_dumpAddress (m : Memory) (k : Fin 256) :
    (List.finRange 16).map (fun j => m.bytes.get (dumpAddress k j)) =
      (m.bytes.toList.drop (16 * k.val)).take 16 := by
  have hroom : 16 * k.val + 15 < memorySize := (dumpAddress k 15).isLt
  apply List.ext_getElem
  · simp only [List.length_map, List.length_finRange, List.length_take, List.length_drop,
      Vector.length_toList]
    omega
  · intro j hj hj'
    rw [List.getElem_map, List.getElem_finRange, List.getElem_take, List.getElem_drop]
    rfl

theorem dumpLine_eq_listingLine (m : Memory) (k : Fin 256) :
    m.dumpLine k = m.listingLine k.val := by
  have haddress : 16 * k.val < 16 ^ 3 := by omega
  have hbyte (b : UInt8) : Hex.fixed .lower 2 b.toNat =
      (Nat.toDigits 16 b.toNat).leftpad 2 '0' := Hex.fixed_lower b.toNat_lt
  rw [dumpLine, listingLine, Hex.fixed_lower haddress, ← m.map_dumpAddress, List.flatMap_map]
  simp only [hbyte]
  rfl

/-- A dump shows the bytes of its memory. -/
theorem dump_eq_listing (m : Memory) : m.dump = m.listing := by
  have hlines : m.dumpLine = fun k => m.listingLine k.val := funext m.dumpLine_eq_listingLine
  rw [dump, hlines, listing, ← List.map_coe_finRange_eq_range, List.flatMap_map]

end Memory

/-! ## Both -/

/-- The lines of a log, and then those of a dump. -/
def Machine.diagnostics {κ δ : Type} (m : Machine κ δ) : List Char :=
  m.status ++ m.memory.listing

end Chip8
