import Chip8.Memory.Program
import Chip8.Proofs.Memory.Fetching

set_option relaxedAutoImplicit false
set_option autoImplicit false

/-!
# Loading

A source delivers its bytes in pieces or breaks off with a failure, and how the bytes are cut into
pieces is not seen by whoever reads all of it. A read that is merely interrupted is made again and
does not count as one. A program that was read fits into memory or is refused, and the checks that
come before it is written leave nothing to refuse to the write. What was loaded lies in memory as it
was delivered, so that its words are fetched one after another.

## Main definitions

* `Chip8.Source.Delivers`, `Chip8.Source.Breaks` — what the reads of a source come to.
* `Chip8.Bytes.words` — the words that some bytes make up.

## Main results

* `Chip8.Source.delivers_or_breaks` — a source does one or the other.
* `Chip8.Memory.install_of_fits`, `Chip8.Memory.write_of_loadProgram` — a program that fits is
  written, and to load one is no more than that.
* `Chip8.Memory.Holds.fetch_word` — the words of a program are fetched from where it lies.
-/

namespace Chip8

/-! ## Sources -/

namespace Source

variable {s : Source} {data : List UInt8} {e : IoError}

/-- The reads of a source give some bytes in pieces, and then it is at its end: there are no more
reads, or one gives nothing. -/
def Delivers (s : Source) (data : List UInt8) : Prop :=
  ∃ (pieces : List (List UInt8)) (rest : List (Except IoError (List UInt8))),
    s.reads = pieces.map .ok ++ rest ∧ (∀ piece ∈ pieces, piece ≠ []) ∧
      pieces.flatten = data ∧ (rest = [] ∨ ∃ more, rest = .ok [] :: more)

/-- Some reads of a source give bytes, and the one after them fails. -/
def Breaks (s : Source) (e : IoError) : Prop :=
  ∃ (pieces : List (List UInt8)) (rest : List (Except IoError (List UInt8))),
    s.reads = pieces.map .ok ++ .error e :: rest ∧ ∀ piece ∈ pieces, piece ≠ []

/-- Pieces that are not empty come in front of whatever the other reads give.

**Proof sketch.** Induction on the pieces: none of them is taken for the end. -/
theorem gather_append {pieces : List (List UInt8)} (h : ∀ piece ∈ pieces, piece ≠ [])
    (rest : List (Except IoError (List UInt8))) :
    gather (pieces.map .ok ++ rest) = (gather rest).map (pieces.flatten ++ ·) := by
  induction pieces with
  | nil => cases hrest : gather rest <;> simp [hrest, Except.map]
  | cons piece pieces ih =>
    rw [List.forall_mem_cons] at h
    obtain ⟨b, piece, rfl⟩ := List.exists_cons_of_ne_nil h.1
    rw [List.map_cons, List.cons_append, gather, ih h.2]
    cases gather rest <;> simp [Except.map]

/-- What is delivered is read. -/
theorem Delivers.readAll_eq (h : s.Delivers data) : s.readAll = .ok data := by
  obtain ⟨pieces, rest, hreads, hpieces, rfl, hend⟩ := h
  have hrest : gather rest = .ok [] := by
    rcases hend with rfl | ⟨more, rfl⟩
    · rfl
    · rfl
  rw [readAll, hreads, gather_append hpieces, hrest]
  simp [Except.map]

/-- A failure before the end is all that is read. -/
theorem Breaks.readAll_eq (h : s.Breaks e) : s.readAll = .error e := by
  obtain ⟨pieces, rest, hreads, hpieces⟩ := h
  rw [readAll, hreads, gather_append hpieces]
  rfl

/-- A source delivers its bytes or breaks off.

**Proof sketch.** Induction on the reads. A failure, a read that gives nothing and the end of the
reads settle the matter, and any other read is one more piece in front. -/
theorem delivers_or_breaks (s : Source) : (∃ data, s.Delivers data) ∨ ∃ e, s.Breaks e := by
  obtain ⟨reads⟩ := s
  induction reads with
  | nil => exact Or.inl ⟨[], [], [], rfl, nofun, rfl, Or.inl rfl⟩
  | cons read reads ih =>
    match read with
    | .error e => exact Or.inr ⟨e, [], reads, rfl, nofun⟩
    | .ok [] => exact Or.inl ⟨[], [], .ok [] :: reads, rfl, nofun, rfl, Or.inr ⟨reads, rfl⟩⟩
    | .ok (b :: piece) =>
      have hcons : b :: piece ≠ [] := nofun
      rcases ih with ⟨data, pieces, rest, hreads, hpieces, -, hend⟩ |
        ⟨e, pieces, rest, hreads, hpieces⟩
      · dsimp only at hreads
        refine Or.inl ⟨_, (b :: piece) :: pieces, rest, ?_, ?_, rfl, hend⟩
        · rw [hreads, List.map_cons, List.cons_append]
        · exact List.forall_mem_cons.2 ⟨hcons, hpieces⟩
      · dsimp only at hreads
        refine Or.inr ⟨e, (b :: piece) :: pieces, rest, ?_, ?_⟩
        · rw [hreads, List.map_cons, List.cons_append]
        · exact List.forall_mem_cons.2 ⟨hcons, hpieces⟩

end Source

/-! ## Words -/

namespace Bytes

/-- The words that some bytes make up, one after another. An odd last byte makes up none. -/
def words : List UInt8 → List UInt16
  | hi :: lo :: rest => UInt16.ofNat (bigEndian [hi, lo]) :: words rest
  | _ => []

/-- There are half as many words as there are bytes. -/
theorem length_words (data : List UInt8) : (words data).length = data.length / 2 := by
  fun_induction words data with
  | case1 hi lo rest ih =>
    simp only [List.length_cons, ih]
    omega
  | case2 data hshort =>
    match data with
    | [] => rfl
    | [_] => simp
    | hi :: lo :: rest => exact absurd rfl (hshort hi lo rest)

/-- A word is made up of two bytes that follow each other. -/
theorem exists_of_getElem?_words {data : List UInt8} {k : Nat} {w : UInt16}
    (h : (words data)[k]? = some w) :
    ∃ hi lo, data[2 * k]? = some hi ∧ data[2 * k + 1]? = some lo ∧
      w = UInt16.ofNat (bigEndian [hi, lo]) := by
  fun_induction words data generalizing k with
  | case1 hi lo rest ih =>
    cases k with
    | zero => exact ⟨hi, lo, rfl, rfl, (Option.some.inj h).symm⟩
    | succ k => exact ih h
  | case2 => cases h

end Bytes

/-- The instruction of the word that two bytes make up are these bytes. -/
theorem Instruction.ofWord_bigEndian (hi lo : UInt8) :
    ofWord (UInt16.ofNat (Bytes.bigEndian [hi, lo])) = ⟨hi, lo⟩ := by
  rw [Bytes.bigEndian_pair, ← toNat_word ⟨hi, lo⟩, UInt16.ofNat_toNat, ofWord_word]

/-! ## Memory -/

namespace Memory

variable {m : Memory} {addr : UInt16} {data : List UInt8}

/-- The words of some bytes are fetched from where these lie, two bytes apart. -/
theorem Holds.fetch_word (h : m.Holds addr data) {k : Nat} {w : UInt16}
    (hw : (Bytes.words data)[k]? = some w) :
    m.fetch (addr + UInt16.ofNat (2 * k)) = .ok (.ofWord w) := by
  obtain ⟨hi, lo, hhi, hlo, rfl⟩ := Bytes.exists_of_getElem?_words hw
  obtain ⟨hin, -⟩ := Vector.getElem?_eq_some_iff.1 (h _ _ hlo)
  have haddr : (addr + UInt16.ofNat (2 * k)).toNat = addr.toNat + 2 * k := by
    simp only [memorySize] at hin
    rw [UInt16.toNat_add, UInt16.toNat_ofNat']
    omega
  rw [Instruction.ofWord_bigEndian]
  refine Holds.fetch_eq fun j b hb => ?_
  rw [haddr, Nat.add_assoc]
  match j, hb with
  | 0, hb => exact h _ _ (hhi.trans hb)
  | 1, hb => exact h _ _ (hlo.trans hb)

/-- A program whose address is past the end of memory is refused, even an empty one. -/
theorem install_of_far (h : memorySize < m.programStart.toNat) :
    m.install data = .error (.outOfRange m.programStart data.length) := by
  rw [install, if_pos h]

/-- A program that is longer than what is left of memory is refused. -/
theorem install_of_long (hstart : m.programStart.toNat ≤ memorySize)
    (h : memorySize - m.programStart.toNat < data.length) :
    m.install data =
      .error (.programTooLarge data.length (memorySize - m.programStart.toNat)) := by
  rw [install, if_neg (Nat.not_lt_of_le hstart), if_pos h]

/-- A program that fits is written, and the write is not refused. -/
theorem install_of_fits (hstart : m.programStart.toNat ≤ memorySize)
    (h : data.length ≤ memorySize - m.programStart.toNat) :
    ∃ memory, m.write m.programStart data = .ok memory ∧ m.install data = .ok memory := by
  have hwrite : m.write m.programStart data = .ok _ := write_eq_ok_iff.2 ⟨by omega, rfl⟩
  refine ⟨_, hwrite, ?_⟩
  rw [install, if_neg (Nat.not_lt_of_le hstart), if_neg (Nat.not_lt_of_le h), hwrite]

/-- A write leaves the addresses at which programs and glyphs are looked for. -/
theorem starts_of_write {m' : Memory} (h : m.write addr data = .ok m') :
    m'.programStart = m.programStart ∧ m'.fontStart = m.fontStart := by
  obtain ⟨-, rfl⟩ := write_eq_ok_iff.1 h
  exact ⟨rfl, rfl⟩

/-- A program is written where programs are loaded. -/
theorem write_of_loadProgram {m' : Memory} {source : Source} {size : Nat}
    (h : m.loadProgram source = .ok (size, m')) :
    ∃ data, m.write m.programStart data = .ok m' := by
  unfold loadProgram at h
  split at h
  · cases h
  · rename_i data _
    unfold install at h
    split at h
    · cases h
    · split at h
      · cases h
      · cases hwrite : m.write m.programStart data with
        | error e =>
          rw [hwrite] at h
          cases h
        | ok written =>
          rw [hwrite] at h
          cases h
          exact ⟨data, hwrite⟩

end Memory

end Chip8
