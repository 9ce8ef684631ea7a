import Chip8.Memory.Access
import Chip8.Proofs.Bare.Memory
import Mathlib.Data.List.Induction

set_option relaxedAutoImplicit false
set_option autoImplicit false

/-!
# Memory as an array

Every access names a range, and one check decides whether it is let through: the range has to end
inside memory. What is let through is served as a whole, and what is refused leaves everything as it
was. After any accesses a byte is what the last one that stored something there has put, or what it
was at first.

## Main definitions

* `Chip8.Memory.Access.start`, `Chip8.Memory.Access.length` — the range of an access.
* `Chip8.Memory.Access.InMemory` — the range lies in memory.
* `Chip8.Memory.Access.brought`, `Chip8.Memory.Access.stored` — what the caller has in hand
  beforehand, and what is stored.
* `Chip8.Memory.lastPut` — what was last put at an address.

## Main results

* `Chip8.Memory.perform_of_inMemory`, `Chip8.Memory.perform_of_not_inMemory` — an access that is let
  through, and one that is refused.
* `Chip8.Memory.getElem_replay` — a byte after some accesses.
* `Chip8.Memory.replay_is_array` — the law of the array.
-/

namespace Chip8

/-- The bytes of a slice, if those of the row are known. -/
theorem Bytes.slice_eq_map {n start len : Nat} {row : Vector UInt8 n} {byte : Nat → UInt8}
    (h : start + len ≤ n) (hrow : ∀ k (hk : k < n), row[k] = byte k) :
    slice row start len h = (List.range len).map fun k => byte (start + k) := by
  refine List.ext_getElem? fun k => ?_
  rw [getElem?_slice, List.getElem?_map]
  split
  · rename_i hk
    rw [List.getElem?_range hk, Vector.getElem?_eq_getElem (by omega), hrow, Option.map_some]
  · rename_i hk
    rw [List.getElem?_eq_none (by simpa using hk), Option.map_none]

namespace Memory

/-! ## What an access is about -/

namespace Access

/-- Where the range of an access starts. -/
def start : Access → UInt16
  | write addr _ | read addr _ | look addr _ | exchange addr _ _ | save addr _ | load addr _
  | saveDecimal addr _ | fetch addr => addr

/-- How many bytes the range of an access has. -/
def length : Access → Nat
  | write _ bytes | read _ bytes | save _ bytes | load _ bytes => bytes.length
  | look _ len | exchange _ len _ => len
  | saveDecimal .. => 3
  | fetch _ => 2

/-- The range of an access lies in memory. -/
def InMemory (a : Access) : Prop :=
  a.start.toNat + a.length ≤ memorySize

instance (a : Access) : Decidable a.InMemory :=
  inferInstanceAs (Decidable (_ ≤ _))

/-- What the caller has in hand before an access: the bytes to be stored, or a buffer. -/
def brought : Access → List UInt8
  | write _ bytes | read _ bytes | save _ bytes | load _ bytes => bytes
  | look .. | exchange .. | saveDecimal .. | fetch _ => []

/-- What an access stores in its range, if it stores anything. -/
def stored : Access → List UInt8
  | write _ bytes | save _ bytes => bytes
  | exchange _ len put => (List.range len).map put
  | saveDecimal _ value => [value / 100, value / 10 % 10, value % 10]
  | read .. | look .. | load .. | fetch _ => []

/-- Whether an access gives its caller the bytes of its range. -/
def gives : Access → Bool
  | read .. | look .. | exchange .. | load .. | fetch _ => true
  | write .. | save .. | saveDecimal .. => false

/-- What an access puts at an address, if it is let through and stores something there. -/
def put (a : Access) (k : Nat) : Option UInt8 :=
  if a.InMemory ∧ a.start.toNat ≤ k then a.stored[k - a.start.toNat]? else none

end Access

/-! ## One access -/

variable {m : Memory} {a : Access}

theorem fill_of_le {addr : UInt16} {buffer : List UInt8}
    (h : addr.toNat + buffer.length ≤ memorySize) :
    m.fill addr buffer = (.ok (), Bytes.slice m.bytes addr.toNat buffer.length h) := by
  rw [fill, read_eq_ok_iff.2 ⟨h, rfl⟩]

theorem fill_of_lt {addr : UInt16} {buffer : List UInt8}
    (h : memorySize < addr.toNat + buffer.length) :
    m.fill addr buffer = (.error (.outOfRange addr buffer.length), buffer) := by
  rw [fill, read_eq_error_iff.2 ⟨h, rfl⟩]

theorem exchange_of_le {addr : UInt16} {len : Nat} {put : Nat → UInt8}
    (h : addr.toNat + len ≤ memorySize) :
    m.exchange addr len put = (.ok (Bytes.slice m.bytes addr.toNat len h),
      { m with bytes := Bytes.overwrite m.bytes addr.toNat ((List.range len).map put) }) := by
  rw [exchange, read_eq_ok_iff.2 ⟨h, rfl⟩]

theorem exchange_of_lt {addr : UInt16} {len : Nat} {put : Nat → UInt8}
    (h : memorySize < addr.toNat + len) :
    m.exchange addr len put = (.error (.outOfRange addr len), m) := by
  rw [exchange, read_eq_error_iff.2 ⟨h, rfl⟩]

/-- An instruction is the two bytes at its address. -/
theorem fetch_of_le {addr : UInt16} (h : addr.toNat + 2 ≤ memorySize) :
    ∃ ins, m.fetch addr = .ok ins ∧ [ins.hi, ins.lo] = Bytes.slice m.bytes addr.toNat 2 h := by
  have hread : m.read addr Instruction.width.toNat = .ok (Bytes.slice m.bytes addr.toNat 2 h) :=
    read_eq_ok_iff.2 ⟨h, rfl⟩
  refine ⟨⟨m.bytes[addr.toNat], m.bytes[addr.toNat + 1]⟩, ?_, rfl⟩
  rw [fetch, hread]
  rfl

theorem fetch_of_lt {addr : UInt16} (h : memorySize < addr.toNat + 2) :
    m.fetch addr = .error (.outOfRange addr 2) := by
  have hread : m.read addr Instruction.width.toNat = .error (.outOfRange addr 2) :=
    read_eq_error_iff.2 ⟨h, rfl⟩
  rw [fetch, hread]
  rfl

/-- An access whose range lies in memory is let through: what it stores is there, and the caller has
the bytes of the range in hand if the access gives them. -/
theorem perform_of_inMemory (h : a.InMemory) :
    m.perform a = ⟨.ok (), { m with bytes := Bytes.overwrite m.bytes a.start.toNat a.stored },
      if a.gives then Bytes.slice m.bytes a.start.toNat a.length h else a.brought⟩ := by
  cases a with
  | write addr data | save addr data =>
    have hrun : m.write addr data = .ok _ := write_eq_ok_iff.2 ⟨h, rfl⟩
    simp only [perform, hrun]
    rfl
  | read addr buffer | load addr buffer =>
    have hrun : m.fill addr buffer = _ := fill_of_le h
    simp only [perform, hrun]
    rfl
  | look addr len =>
    have hrun : m.read addr len = .ok _ := read_eq_ok_iff.2 ⟨h, rfl⟩
    simp only [perform, hrun]
    rfl
  | exchange addr len put =>
    have hrun : m.exchange addr len put = _ := exchange_of_le h
    simp only [perform, hrun]
    rfl
  | saveDecimal addr value =>
    have hrun : m.saveDecimal addr value = .ok _ := write_eq_ok_iff.2 ⟨h, rfl⟩
    simp only [perform, hrun]
    rfl
  | fetch addr =>
    obtain ⟨ins, hrun, hbytes⟩ : ∃ ins, m.fetch addr = .ok ins ∧ _ := fetch_of_le h
    simp only [perform, hrun, hbytes]
    rfl

/-- An access whose range leaves memory is refused with its range, and nothing is touched. -/
theorem perform_of_not_inMemory (h : ¬ a.InMemory) :
    m.perform a = ⟨.error (.outOfRange a.start a.length), m, a.brought⟩ := by
  have hlt : memorySize < a.start.toNat + a.length := Nat.lt_of_not_le h
  cases a with
  | write addr data | save addr data =>
    have hrun : m.write addr data = .error _ := write_eq_error_iff.2 ⟨hlt, rfl⟩
    simp only [perform, hrun]
    rfl
  | read addr buffer | load addr buffer =>
    have hrun : m.fill addr buffer = _ := fill_of_lt hlt
    simp only [perform, hrun]
    rfl
  | look addr len =>
    have hrun : m.read addr len = .error _ := read_eq_error_iff.2 ⟨hlt, rfl⟩
    simp only [perform, hrun]
    rfl
  | exchange addr len put =>
    have hrun : m.exchange addr len put = _ := exchange_of_lt hlt
    simp only [perform, hrun]
    rfl
  | saveDecimal addr value =>
    have hrun : m.saveDecimal addr value = .error _ := write_eq_error_iff.2 ⟨hlt, rfl⟩
    simp only [perform, hrun]
    rfl
  | fetch addr =>
    have hrun : m.fetch addr = _ := fetch_of_lt hlt
    simp only [perform, hrun]
    rfl

/-- A byte after an access is what that has put there, or what it was. -/
theorem getElem_perform (k : Nat) (hk : k < memorySize) :
    (m.perform a).memory.bytes[k] = (a.put k).getD m.bytes[k] := by
  by_cases h : a.InMemory
  · simp only [perform_of_inMemory h, Bytes.getElem_overwrite, Access.put, h, true_and]
    split
    · rfl
    · rfl
  · simp [perform_of_not_inMemory h, Access.put, h]

/-! ## A history of accesses -/

/-- What was last put at an address by some accesses. -/
def lastPut (accesses : List Access) (k : Nat) : Option UInt8 :=
  accesses.reverse.findSome? (·.put k)

/-- The later of two accesses counts. -/
theorem lastPut_concat (accesses : List Access) (a : Access) (k : Nat) :
    lastPut (accesses ++ [a]) k = (a.put k).or (lastPut accesses k) := by
  rw [lastPut, List.reverse_append, List.reverse_singleton, List.singleton_append,
    List.findSome?_cons]
  cases a.put k with
  | none => rfl
  | some b => rfl

theorem replay_concat (m : Memory) (accesses : List Access) (a : Access) :
    m.replay (accesses ++ [a]) = ((m.replay accesses).perform a).memory := by
  simp [replay]

/-- A byte after some accesses is what was last put there, or what it was.

**Proof sketch.** Induction on the accesses from their end: the last one has put something there, or
it left the byte as those before it did (`getElem_perform`). -/
theorem getElem_replay (m : Memory) (accesses : List Access) (k : Nat) (hk : k < memorySize) :
    (m.replay accesses).bytes[k] = (lastPut accesses k).getD m.bytes[k] := by
  induction accesses using List.reverseRecOn with
  | nil => rfl
  | append_singleton accesses a ih =>
    simp only [replay_concat, getElem_perform, lastPut_concat, Option.getD_or, ih]

/-- What memory holds at first: the font up to 0x50, and zeros. -/
def firstByte (k : Nat) : UInt8 :=
  if k < 0x50 then Font.bytes[k]?.getD 0 else 0

theorem getElem_fresh (k : Nat) (hk : k < memorySize) : fresh.bytes[k] = firstByte k := by
  have hzero : (Vector.replicate memorySize (0 : UInt8))[k] = 0 := Vector.getElem_replicate hk
  have hfresh : fresh.bytes[k] = Font.bytes[k]?.getD 0 := by
    simp only [fresh, Bytes.getElem_overwrite, Nat.zero_le, if_true, Nat.sub_zero, hzero]
  rw [hfresh, firstByte]
  split
  · rfl
  · rename_i h
    rw [List.getElem?_eq_none (by rw [Font.length_bytes]; omega)]
    rfl

/-- The check that forms its sums in 64 bits lets through what ends inside memory. -/
theorem bare_range_eq (m : Memory) (addr : UInt16) (len : Nat) :
    m.bare.range addr len = if addr.toNat + len ≤ memorySize then
      .ok (addr.toNat, addr.toNat + len) else .error (.outOfRange addr len) := by
  split
  · rename_i h
    exact m.bare_range_of_le addr h
  · rename_i h
    exact m.bare_range_of_lt addr (Nat.lt_of_not_le h)

/-- **Memory is an array with bounds in which the last write wins.** On any memory, an access is let
through exactly if its range ends at 4096 or before, be it empty or as long as can be: a sum that
does not fit into 64 bits does not get past the check. An access that is refused names its range,
and leaves memory and what the caller has in hand as they were. Take a fresh memory and let there be
any accesses, refused or not. Whoever then gets the bytes of a range has in hand, at each place, the
byte that the last access to be let through and to store something there has put, or the one of the
fresh memory if there was none. -/
theorem replay_is_array (accesses : List Access) :
    (∀ (m : Memory) (a : Access),
      ((m.perform a).answer = .ok () ↔ a.start.toNat + a.length ≤ 4096) ∧
      (4096 < a.start.toNat + a.length →
        m.perform a = ⟨.error (.outOfRange a.start a.length), m, a.brought⟩) ∧
      m.bare.range a.start a.length = if a.start.toNat + a.length ≤ 4096 then
        .ok (a.start.toNat, a.start.toNat + a.length) else .error (.outOfRange a.start a.length)) ∧
    ∀ a : Access, a.start.toNat + a.length ≤ 4096 → a.gives = true →
      ((fresh.replay accesses).perform a).inHand =
        (List.range a.length).map fun k =>
          (lastPut accesses (a.start.toNat + k)).getD (firstByte (a.start.toNat + k)) := by
  refine ⟨fun m a => ⟨⟨fun hok => ?_, fun h => ?_⟩, fun h => ?_, ?_⟩, fun a h hgives => ?_⟩
  · by_contra hnot
    rw [perform_of_not_inMemory hnot] at hok
    cases hok
  · rw [perform_of_inMemory h]
  · exact perform_of_not_inMemory (Nat.not_le_of_lt h)
  · exact m.bare_range_eq a.start a.length
  · have hin : a.start.toNat + a.length ≤ memorySize := h
    rw [perform_of_inMemory hin, if_pos hgives]
    have hbytes : ∀ k (hk : k < memorySize), (fresh.replay accesses).bytes[k] =
        (lastPut accesses k).getD (firstByte k) := fun k hk => by
      rw [getElem_replay, getElem_fresh]
    exact Bytes.slice_eq_map hin hbytes

/-- Some accesses that overlap, one at the end of memory that is refused, and an empty one right
after the last byte: the digits of 254 are stored over four bytes, and the buffer of a range that
reaches past the end stays as it was. -/
theorem replay_is_array_of_overlap :
    let accesses : List Access := [.write 0x300 [1, 2, 3, 4], .write 0xFFE [7, 8, 9],
      .saveDecimal 0x301 254, .look 0x1000 0, .exchange 0x304 1 fun _ => 6]
    let m := fresh.replay accesses
    (m.perform (.read 0x300 [0, 0, 0, 0, 0])).inHand = [1, 2, 5, 4, 6] ∧
      (m.perform (.look 0x4E 3)).inHand = [0x80, 0x80, 0] ∧
      (m.perform (.look 0x1000 0)).answer = .ok () ∧
      m.perform (.load 0xFFE [5, 5, 5]) = ⟨.error (.outOfRange 0xFFE 3), m, [5, 5, 5]⟩ := by
  intro accesses m
  obtain ⟨hcheck, hread⟩ := replay_is_array accesses
  refine ⟨?_, ?_, ?_, ?_⟩
  · rw [hread _ (by decide) rfl]
    decide
  · rw [hread _ (by decide) rfl]
    decide
  · exact (hcheck m _).1.2 (by decide)
  · exact (hcheck m _).2.1 (by decide)

end Memory

end Chip8
