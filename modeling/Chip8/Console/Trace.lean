import Chip8.Instruction
import Chip8.Snapshot

set_option relaxedAutoImplicit false
set_option autoImplicit false

/-!
# Trace entries

What a trace says about an executed instruction: its address and its word, and the log of the
machine after it. An entry is written piece by piece, and a buffer in front of a file keeps or
passes on whole pieces, so the pieces are definitions of their own. Every fixed text and every
number is a piece, and every zero that only fills up a number is one by itself.

## Main definitions

* `Chip8.Trace.entry` — the text of an entry.
* `Chip8.Trace.pieces` — the pieces of an entry.

## Main results

* `Chip8.Trace.flatten_pieces` — the pieces make up the entry.
-/

namespace Chip8

/-! ## The pieces of a log -/

namespace Snapshot

/-- The pieces of a line: its name, those of its value, and its end. -/
def linePieces (name : String) (value : List (List Char)) : List (List Char) :=
  (name.toList ++ " = ".toList) :: value ++ [['\n']]

/-- The pieces of a list. -/
def listedPieces (items : List (List Char)) : List (List Char) :=
  ['['] :: items.intersperse ", ".toList ++ [[']']]

/-- The pieces of the line of a register. -/
def registerPieces (s : Snapshot) (k : Fin registerCount) : List (List Char) :=
  ["register[".toList, Hex.short (UInt16.ofNat k.val), "] = ".toList,
    Hex.short (s.register k).toUInt16, ['\n']]

/-- The pieces of a log. -/
def pieces (s : Snapshot) : List (List Char) :=
  linePieces "pc" [Hex.short s.pc] ++
    linePieces "sp" [Hex.short s.sp.toUInt16] ++
    linePieces "dt" [Hex.short s.delay.toUInt16] ++
    linePieces "st" [Hex.short s.sound.toUInt16] ++
    linePieces "i" [Hex.short s.index] ++
    linePieces "stack" (listedPieces (s.stack.toList.map Hex.short)) ++
    (List.finRange registerCount).flatMap s.registerPieces

theorem flatten_linePieces (name : String) (value : List (List Char)) :
    (linePieces name value).flatten = line name value.flatten := by
  simp [linePieces, line]

theorem flatten_listedPieces (items : List (List Char)) :
    (listedPieces items).flatten = listed items := by
  simp [listedPieces, listed, List.intercalate]

theorem flatten_registerPieces (s : Snapshot) (k : Fin registerCount) :
    (s.registerPieces k).flatten = s.registerLine k := by
  simp [registerPieces, registerLine, line]

/-- The pieces make up the log. -/
theorem flatten_pieces (s : Snapshot) : s.pieces.flatten = s.text := by
  simp [pieces, text, flatten_linePieces, flatten_listedPieces, List.flatMap_def,
    List.flatten_flatten, Function.comp_def, flatten_registerPieces]

end Snapshot

/-! ## The pieces of an entry -/

namespace Trace

/-- The text of an entry. -/
def entry (pc : UInt16) (ins : Instruction) (after : Snapshot) : List Char :=
  Hex.atLeast 3 pc ++ ": ".toList ++ ins.text ++ '\n' :: after.text

/-- The pieces of a number that is filled up with zeros. -/
def filledPieces (digits : List Char) : List (List Char) :=
  (digits.takeWhile (· == '0')).map (fun c => [c]) ++ [digits.dropWhile (· == '0')]

/-- The pieces of an entry. -/
def pieces (pc : UInt16) (ins : Instruction) (after : Snapshot) : List (List Char) :=
  filledPieces (Hex.atLeast 3 pc) ++ ": ".toList :: filledPieces ins.text ++ ['\n'] :: after.pieces

theorem flatten_filledPieces (digits : List Char) : (filledPieces digits).flatten = digits := by
  have h (cs : List Char) : (cs.map fun c => [c]).flatten = cs := by
    induction cs with
    | nil => rfl
    | cons c cs ih => simp [ih]
  simp [filledPieces, h]

/-- The pieces make up the entry. -/
theorem flatten_pieces (pc : UInt16) (ins : Instruction) (after : Snapshot) :
    (pieces pc ins after).flatten = entry pc ins after := by
  simp [pieces, entry, flatten_filledPieces, Snapshot.flatten_pieces]

end Trace

end Chip8
