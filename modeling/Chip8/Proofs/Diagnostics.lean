import Chip8.Console.Run
import Chip8.Proofs.Text.Reading

set_option relaxedAutoImplicit false
set_option autoImplicit false

/-!
# Diagnostic dumps are complete

The log of a machine and the dump of its memory are one text, which can be read back: it tells
every number of the snapshot and every byte of memory, so that machines with the same text have the
same of both. The numbers of the log have as many digits as they need, and end where a line, an
entry of a list or the list ends; the bytes of the dump have two digits each.

## Main definitions

* `Chip8.Snapshot.reader`, `Chip8.Memory.reader` — what reads a log and a dump.
* `Chip8.Diagnostics.read` — what reads both, one after the other.
* `Chip8.Snapshot.textLines` — the lines of a log.

## Main results

* `Chip8.Snapshot.reads_text`, `Chip8.Memory.reads_dump` — both are read back.
* `Chip8.Snapshot.lines_text`, `Chip8.Memory.lines_dump` — the lines of both.
* `Chip8.Diagnostics.dump_determines_machine` — the text tells the machine.
-/

namespace Chip8

open Reader

/-! ## Logs -/

namespace Snapshot

/-- The name of a register in the log. -/
def registerName (k : Fin registerCount) : String :=
  String.ofList ("register[".toList ++ Hex.short (UInt16.ofNat k.val) ++ [']'])

/-- A line with a number. -/
def lineReader (name : String) : Reader Nat := do
  token (name.toList ++ " = ".toList)
  number '\n' []

/-- The line of a stack. All entries but the last one are followed by another. -/
def slotsReader (n : Nat) : Reader (Vector UInt16 (n + 1)) := do
  token "stack = [".toList
  let front ← vector n fun _ => do
    return UInt16.ofNat (← number ',' [' '])
  let last ← number ']' ['\n']
  return front.push (UInt16.ofNat last)

/-- A log. -/
def reader : Reader Snapshot := do
  let pc ← lineReader "pc"
  let sp ← lineReader "sp"
  let delay ← lineReader "dt"
  let sound ← lineReader "st"
  let index ← lineReader "i"
  let stack ← slotsReader 15
  let registers ← vector registerCount fun k => do
    return UInt8.ofNat (← lineReader (registerName k))
  return {
    pc := UInt16.ofNat pc
    sp := UInt8.ofNat sp
    delay := UInt8.ofNat delay
    sound := UInt8.ofNat sound
    index := UInt16.ofNat index
    stack
    registers }

theorem reads_line (name : String) (n : UInt16) :
    Reads (lineReader name) (line name (Hex.short n)) n.toNat := by
  have htext : line name (Hex.short n) =
      (name.toList ++ " = ".toList) ++ (Hex.short n ++ ['\n']) := by
    simp [line]
  rw [htext]
  exact Reads.bind (reads_token _) (reads_number rfl [] n)

theorem reads_registerLine (s : Snapshot) (k : Fin registerCount) :
    Reads (do return UInt8.ofNat (← lineReader (registerName k))) (s.registerLine k)
      (s.register k) := by
  have hread := (reads_line (registerName k) (s.register k).toUInt16).map UInt8.ofNat
  rwa [UInt8.toNat_toUInt16, UInt8.ofNat_toNat] at hread

/-- All texts but the last one are followed by what stands between them. -/
theorem intercalate_concat (sep : List Char) (items : List (List Char)) (last : List Char) :
    List.intercalate sep (items ++ [last]) = items.flatMap (· ++ sep) ++ last := by
  induction items with
  | nil => simp
  | cons item items ih =>
    rw [List.cons_append, List.intercalate_cons_of_ne_nil (by simp), ih]
    simp

/-- The line of a stack is read back: a comma ends each entry but the last one, which the bracket
ends. -/
theorem reads_slots {n : Nat} (stack : Vector UInt16 (n + 1)) :
    Reads (slotsReader n) (line "stack" (listed (stack.toList.map Hex.short))) stack := by
  have hcomma : Hex.digitValue? ',' = none := rfl
  have hbracket : Hex.digitValue? ']' = none := rfl
  have hslots : stack.toList = stack.pop.toList ++ [stack.back] := by
    rw [← Vector.toList_push, stack.push_pop_back]
  have hfront : stack.pop.toList = (List.finRange n).map fun k => stack.pop[k] := by
    apply List.ext_getElem <;> simp
  have htext : line "stack" (listed (stack.toList.map Hex.short)) =
      "stack = [".toList ++ ((List.finRange n).flatMap (fun k =>
        Hex.short stack.pop[k] ++ ',' :: [' ']) ++ (Hex.short stack.back ++ ']' :: ['\n'])) := by
    rw [hslots, List.map_append, List.map_singleton, listed, intercalate_concat, hfront]
    simp [line, List.flatMap_map]
  have hentry (k : Fin n) : Reads (do return UInt16.ofNat (← number ',' [' ']))
      (Hex.short stack.pop[k] ++ ',' :: [' ']) stack.pop[k] := by
    have hread := (reads_number hcomma [' '] stack.pop[k]).map UInt16.ofNat
    rwa [UInt16.ofNat_toNat] at hread
  rw [htext]
  refine Reads.bind (reads_token _) (Reads.bind (Reads.vector hentry) ?_)
  have hlast := (reads_number hbracket ['\n'] stack.back).map fun last =>
    stack.pop.push (UInt16.ofNat last)
  rwa [UInt16.ofNat_toNat, stack.push_pop_back] at hlast

/-- A log is read back. -/
theorem reads_text (s : Snapshot) : Reads reader s.text s := by
  have htext : s.text = line "pc" (Hex.short s.pc) ++ (line "sp" (Hex.short s.sp.toUInt16) ++
      (line "dt" (Hex.short s.delay.toUInt16) ++ (line "st" (Hex.short s.sound.toUInt16) ++
      (line "i" (Hex.short s.index) ++ (line "stack" (listed (s.stack.toList.map Hex.short)) ++
      (List.finRange registerCount).flatMap s.registerLine))))) := by
    simp [text]
  rw [htext]
  refine Reads.bind (reads_line _ _) (Reads.bind (reads_line _ _) (Reads.bind (reads_line _ _) ?_))
  refine Reads.bind (reads_line _ _) (Reads.bind (reads_line _ _) (Reads.bind (reads_slots _) ?_))
  have hlast := (Reads.vector s.reads_registerLine).map fun registers =>
    ({ pc := UInt16.ofNat s.pc.toNat
       sp := UInt8.ofNat s.sp.toUInt16.toNat
       delay := UInt8.ofNat s.delay.toUInt16.toNat
       sound := UInt8.ofNat s.sound.toUInt16.toNat
       index := UInt16.ofNat s.index.toNat
       stack := s.stack
       registers } : Snapshot)
  simpa using hlast

/-! ### The lines of a log -/

theorem isLine_line {name : String} {value : List Char} (hname : '\n' ∉ name.toList)
    (hvalue : '\n' ∉ value) : Text.IsLine (line name value) := by
  refine ⟨name.toList ++ " = ".toList ++ value, ?_, rfl⟩
  simp [hname, hvalue]

/-- A list without ends of lines in its entries has none. -/
theorem not_mem_listed {items : List (List Char)} (h : ∀ item ∈ items, '\n' ∉ item) :
    '\n' ∉ listed items := by
  rcases List.eq_nil_or_concat items with rfl | ⟨front, last, rfl⟩
  · decide
  · obtain ⟨hfront, hlast⟩ : (∀ item ∈ front, '\n' ∉ item) ∧ '\n' ∉ last := by
      simpa [or_imp, forall_and] using h
    have hentries : '\n' ∉ front.flatMap (· ++ ", ".toList) := by
      simpa using hfront
    have hinner : '\n' ∉ List.intercalate ", ".toList (front ++ [last]) := by
      rw [intercalate_concat]
      exact fun h => (List.mem_append.1 h).elim hentries hlast
    rw [List.concat_eq_append]
    simpa [listed] using hinner

/-- The lines of a log. -/
def textLines (s : Snapshot) : List (List Char) :=
  [line "pc" (Hex.short s.pc), line "sp" (Hex.short s.sp.toUInt16),
    line "dt" (Hex.short s.delay.toUInt16), line "st" (Hex.short s.sound.toUInt16),
    line "i" (Hex.short s.index)] ++
    line "stack" (listed (s.stack.toList.map Hex.short)) ::
      (List.finRange registerCount).map s.registerLine

theorem flatten_textLines (s : Snapshot) : s.textLines.flatten = s.text := by
  simp [textLines, text, List.flatMap_def]

theorem not_mem_registerName (k : Fin registerCount) : '\n' ∉ (registerName k).toList := by
  unfold registerName
  rw [String.toList_ofList, List.mem_append, List.mem_append, not_or, not_or]
  exact ⟨⟨by decide, Hex.not_mem_short rfl _⟩, by decide⟩

theorem isLine_of_mem_textLines {s : Snapshot} {l : List Char} (h : l ∈ s.textLines) :
    Text.IsLine l := by
  have hshort (n : UInt16) : '\n' ∉ Hex.short n := Hex.not_mem_short rfl n
  have hslots : ∀ item ∈ s.stack.toList.map Hex.short, '\n' ∉ item :=
    List.forall_mem_map.2 fun n _ => hshort n
  rcases List.mem_append.1 h with h | h
  · simp only [List.mem_cons, List.not_mem_nil, or_false] at h
    rcases h with rfl | rfl | rfl | rfl | rfl
    all_goals exact isLine_line (by decide) (hshort _)
  rcases List.mem_cons.1 h with rfl | h
  · exact isLine_line (by decide) (not_mem_listed hslots)
  · obtain ⟨k, -, rfl⟩ := List.mem_map.1 h
    exact isLine_line (not_mem_registerName k) (hshort _)

theorem lines_text (s : Snapshot) : Text.lines s.text = s.textLines := by
  rw [← s.flatten_textLines]
  exact Text.lines_flatten fun l hl => isLine_of_mem_textLines hl

/-- One line for each of five numbers, one for the stack, and one for each register. -/
theorem length_textLines (s : Snapshot) : s.textLines.length = 22 := by
  have hregisters : ((List.finRange registerCount).map s.registerLine).length = 16 := by
    rw [List.length_map, List.length_finRange]
    rfl
  rw [textLines, List.length_append]
  exact congrArg (fun n => 5 + (n + 1)) hregisters

end Snapshot

/-! ## Dumps -/

namespace Memory

/-- The line of a byte. -/
def lineOf (a : Fin memorySize) : Fin 256 :=
  ⟨a.val / 16, Nat.div_lt_of_lt_mul a.isLt⟩

/-- The place of a byte in its line. -/
def placeOf (a : Fin memorySize) : Fin 16 :=
  ⟨a.val % 16, Nat.mod_lt _ (by decide)⟩

theorem dumpAddress_lineOf (a : Fin memorySize) : dumpAddress (lineOf a) (placeOf a) = a :=
  Fin.ext (Nat.div_add_mod a.val 16)

/-- A byte of a dump. -/
def byteReader : Reader UInt8 := do
  token [' ']
  let digits ← take 2
  let n ← given (Hex.value? digits)
  return UInt8.ofNat n

/-- A line of a dump. -/
def lineReader (k : Fin 256) : Reader (Vector UInt8 16) := do
  token (Hex.fixed .lower 3 (16 * k.val) ++ [':'])
  let row ← vector 16 fun _ => byteReader
  token ['\n']
  return row

/-- A dump. -/
def reader : Reader (Vector UInt8 memorySize) := do
  let rows ← vector 256 lineReader
  return Vector.ofFn fun a => rows[lineOf a][placeOf a]

/-- The bytes of a line. -/
def row (m : Memory) (k : Fin 256) : Vector UInt8 16 :=
  Vector.ofFn fun j => m.bytes.get (dumpAddress k j)

theorem reads_byte (b : UInt8) : Reads byteReader (' ' :: Hex.fixed .lower 2 b.toNat) b := by
  have hvalue : Hex.value? (Hex.fixed .lower 2 b.toNat) = some b.toNat := by
    have hlt : b.toNat < 16 ^ 2 := b.toNat_lt
    rw [Hex.value?_fixed, Nat.mod_eq_of_lt hlt]
  have hdigits := reads_take (Hex.fixed .lower 2 b.toNat)
  rw [Hex.length_fixed] at hdigits
  have hbyte := (reads_given hvalue).map UInt8.ofNat
  rw [UInt8.ofNat_toNat] at hbyte
  rw [← List.append_nil (Hex.fixed .lower 2 b.toNat), ← List.singleton_append]
  exact Reads.bind (reads_token _) (Reads.bind hdigits hbyte)

theorem reads_dumpLine (m : Memory) (k : Fin 256) :
    Reads (lineReader k) (m.dumpLine k) (m.row k) := by
  have htext : m.dumpLine k = (Hex.fixed .lower 3 (16 * k.val) ++ [':']) ++
      ((List.finRange 16).flatMap (fun j =>
        ' ' :: Hex.fixed .lower 2 m.bytes[dumpAddress k j].toNat) ++ ['\n']) := by
    simp [dumpLine]
  have hbytes (j : Fin 16) : Reads byteReader
      (' ' :: Hex.fixed .lower 2 m.bytes[dumpAddress k j].toNat) (m.row k)[j] := by
    have hbyte : (m.row k)[j] = m.bytes.get (dumpAddress k j) := by simp [row]
    rw [hbyte]
    exact reads_byte (m.bytes.get (dumpAddress k j))
  rw [htext]
  refine Reads.bind (reads_token _) (Reads.bind (Reads.vector hbytes) ?_)
  exact (reads_token ['\n']).map fun _ => m.row k

/-- A dump is read back. -/
theorem reads_dump (m : Memory) : Reads reader m.dump m.bytes := by
  have hrows (k : Fin 256) : Reads (lineReader k) (m.dumpLine k) (Vector.ofFn m.row)[k] := by
    have hrow : (Vector.ofFn m.row)[k] = m.row k := by simp
    rw [hrow]
    exact m.reads_dumpLine k
  have hbytes : (Vector.ofFn fun a => (Vector.ofFn m.row)[lineOf a][placeOf a]) = m.bytes := by
    ext a ha
    have haddress : dumpAddress (lineOf ⟨a, ha⟩) (placeOf ⟨a, ha⟩) = ⟨a, ha⟩ :=
      dumpAddress_lineOf ⟨a, ha⟩
    simp only [Fin.getElem_fin, Vector.getElem_ofFn, row, Fin.eta, haddress]
    rfl
  have hread := (Reads.vector hrows).map fun rows =>
    (Vector.ofFn fun a => rows[lineOf a][placeOf a] : Vector UInt8 memorySize)
  rwa [hbytes] at hread

/-- The dump shows the bytes and nothing else. -/
theorem dump_congr {m m' : Memory} (h : m.bytes = m'.bytes) : m.dump = m'.dump := by
  have hlines : m.dumpLine = m'.dumpLine := by
    funext k
    simp only [dumpLine, h]
  rw [dump, dump, hlines]

/-! ### The lines of a dump -/

theorem isLine_dumpLine (m : Memory) (k : Fin 256) : Text.IsLine (m.dumpLine k) := by
  have hfixed (width n : Nat) : '\n' ∉ Hex.fixed .lower width n :=
    Hex.not_mem_fixed rfl width n
  refine ⟨_, ?_, rfl⟩
  simp [hfixed]

/-- A line has three digits of its address, a colon, sixteen bytes of two digits, each with a blank
before it, and an end. -/
theorem length_dumpLine (m : Memory) (k : Fin 256) : (m.dumpLine k).length = 53 := by
  simp [dumpLine]

theorem lines_dump (m : Memory) :
    Text.lines m.dump = (List.finRange 256).map m.dumpLine := by
  rw [dump, List.flatMap_def]
  exact Text.lines_flatten (List.forall_mem_map.2 fun k _ => m.isLine_dumpLine k)

/-- A line begins with the three digits of its address. -/
theorem address_isPrefix_dumpLine (m : Memory) (k : Fin 256) :
    (Nat.toDigits 16 (16 * k.val)).leftpad 3 '0' <+: m.dumpLine k := by
  have hk : 16 * k.val < 16 ^ 3 := by
    have hlt := k.isLt
    omega
  rw [← Hex.fixed_lower hk, dumpLine, List.append_assoc]
  exact List.prefix_append _ _

end Memory

/-! ## Logs with dumps -/

namespace Diagnostics

/-- A log and then a dump. -/
def reader : Reader (Snapshot × Vector UInt8 memorySize) := do
  let snapshot ← Snapshot.reader
  let bytes ← Memory.reader
  return (snapshot, bytes)

/-- The numbers and bytes that a text tells, if it is a log and a dump and nothing else. -/
def read (text : List Char) : Option (Snapshot × Vector UInt8 memorySize) :=
  match reader text with
  | some (found, []) => some found
  | _ => none

/-- A log and a dump are read back. -/
theorem read_text_append_dump (s : Snapshot) (m : Memory) :
    read (s.text ++ m.dump) = some (s, m.bytes) := by
  have hreads : Reads reader (s.text ++ m.dump) (s, m.bytes) :=
    Reads.bind s.reads_text (m.reads_dump.map fun bytes => (s, bytes))
  have hread := hreads []
  rw [List.append_nil] at hread
  simp only [read, hread]

/-- Two logs with dumps are the same text only if they show the same. -/
theorem text_append_dump_eq_iff {s s' : Snapshot} {m m' : Memory} :
    s.text ++ m.dump = s'.text ++ m'.dump ↔ s = s' ∧ m.bytes = m'.bytes := by
  constructor
  · intro htext
    have hread := congrArg read htext
    rw [read_text_append_dump, read_text_append_dump] at hread
    simpa using hread
  · rintro ⟨rfl, hbytes⟩
    rw [Memory.dump_congr hbytes]

/-- The lines of a log and a dump are those of the log and those of the dump. -/
theorem lines_text_append_dump (s : Snapshot) (m : Memory) :
    Text.lines (s.text ++ m.dump) = Text.lines s.text ++ Text.lines m.dump := by
  rw [s.lines_text, m.lines_dump, ← s.flatten_textLines, Memory.dump, List.flatMap_def,
    ← List.flatten_append]
  refine Text.lines_flatten fun l hl => ?_
  rcases List.mem_append.1 hl with hl | hl
  · exact Snapshot.isLine_of_mem_textLines hl
  · obtain ⟨k, -, rfl⟩ := List.mem_map.1 hl
    exact m.isLine_dumpLine k

/-- **A diagnostic dump tells the machine.** The log of a snapshot and the dump of a memory,
whatever they hold, are read back as the snapshot and the bytes, so that the texts are the same only
if both are. The text has 22 lines of the log and then 256 lines of the dump, which have 53
characters each with the end of the line, and begin with the three digits of the address of their
first byte. -/
theorem dump_determines_machine (s : Snapshot) (m : Memory) :
    read (s.text ++ m.dump) = some (s, m.bytes) ∧
    (∀ (s' : Snapshot) (m' : Memory), s.text ++ m.dump = s'.text ++ m'.dump ↔
      s = s' ∧ m.bytes = m'.bytes) ∧
    Text.lines (s.text ++ m.dump) = Text.lines s.text ++ Text.lines m.dump ∧
    (Text.lines s.text).length = 22 ∧ (Text.lines m.dump).length = 256 ∧
    ∀ k : Fin 256, ∃ line, (Text.lines m.dump)[k.val]? = some line ∧ line.length = 53 ∧
      (Nat.toDigits 16 (16 * k.val)).leftpad 3 '0' <+: line := by
  refine ⟨read_text_append_dump s m, fun s' m' => text_append_dump_eq_iff,
    lines_text_append_dump s m, ?_, ?_, fun k => ?_⟩
  · rw [s.lines_text, s.length_textLines]
  · rw [m.lines_dump, List.length_map, List.length_finRange]
  · refine ⟨m.dumpLine k, ?_, m.length_dumpLine k, m.address_isPrefix_dumpLine k⟩
    rw [m.lines_dump]
    simp

end Diagnostics

/-- Runs that leave the same dump behind ended with the same snapshot and the same bytes. -/
theorem Console.diagnosticDump_eq_iff {κ δ σ : Type} {c c' : Console κ δ σ} :
    c.diagnosticDump = c'.diagnosticDump ↔
      c.machine.snapshot = c'.machine.snapshot ∧
        c.machine.memory.bytes = c'.machine.memory.bytes :=
  Diagnostics.text_append_dump_eq_iff

end Chip8
