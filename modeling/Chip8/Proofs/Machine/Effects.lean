import Chip8.Proofs.Decoding
import Chip8.Proofs.Machine.Footprint
import Mathlib.Tactic.ByContra

set_option relaxedAutoImplicit false
set_option autoImplicit false

/-!
# What an instruction touches

For every part of the machine, the words that may change it, and how much of it: which bytes of
memory, which slot for a return address, which registers, and what exactly the devices are told.
An instruction that succeeds touches nothing else.

## Main definitions

* `Chip8.ScreenCall`, `Chip8.Screen.told` — what a screen can be told, and the screen after that.
* `Chip8.Instruction.MayChange` — the words that may change a part of the machine.
* `Chip8.Instruction.Writes` — the registers that a word may store into.
* `Chip8.Machine.Touched` — all that may differ after an instruction that succeeds.

## Main results

* `Chip8.Screen.drawSprite_snd` — a sprite is told to the screen row by row.
* `Chip8.Machine.same_of_not_mayChange` — what a word may not change stays.
* `Chip8.Machine.execute_footprint` — an instruction touches nothing else.
-/

namespace Chip8

/-! ## Screens, stacks and bytes -/

/-- What a screen can be told. -/
inductive ScreenCall where
  | clear
  | draw (x y sprite : UInt8)
  | flush
  deriving DecidableEq, Repr

namespace Screen

variable {δ : Type} [Panel δ]

/-- The screen after it was told something. -/
def told (s : Screen δ) : ScreenCall → Screen δ
  | .clear => s.clear
  | .draw x y sprite => (s.draw x y sprite).2
  | .flush => s.flush.2

/-- The calls that draw the rows of a sprite from `(x, y)` down. -/
def spriteCalls (x y : UInt8) (rows : List UInt8) : List ScreenCall :=
  rows.mapIdx fun r row => .draw x (y + UInt8.ofNat r) row

/-- The rows below the first one are told as a sprite that starts one row further down. -/
theorem spriteCalls_cons (x y row : UInt8) (rows : List UInt8) :
    spriteCalls x y (row :: rows) = .draw x y row :: spriteCalls x (y + 1) rows := by
  have hrow (r : Nat) : y + UInt8.ofNat (r + 1) = y + 1 + UInt8.ofNat r := by
    rw [UInt8.ofNat_add, UInt8.add_comm (UInt8.ofNat r), UInt8.add_assoc]
    rfl
  simp only [spriteCalls, List.mapIdx_cons, hrow]
  congr 2
  exact UInt8.add_zero y

/-- A sprite is told to the screen row by row. -/
theorem drawSprite_snd (s : Screen δ) (x y : UInt8) (rows : List UInt8) :
    (s.drawSprite x y rows).2 = (spriteCalls x y rows).foldl told s := by
  induction rows generalizing s y with
  | nil => rfl
  | cons row rows ih =>
    rw [spriteCalls_cons, List.foldl_cons]
    exact ih _ _

end Screen

namespace CallStack

/-- Putting an address on changes the slot after the ones in use. -/
theorem slots_of_push? {s s' : CallStack} {addr : UInt16} (h : s.push? addr = some s') {k : Nat}
    (hk : k < stackDepth) (hne : k ≠ s.depth) : s'.slots[k] = s.slots[k] := by
  unfold push? at h
  split at h
  · rename_i hfree
    cases h
    exact Vector.getElem_set_ne hfree hk hne.symm
  · cases h

/-- Taking an address off leaves the slots. -/
theorem slots_of_pop? {s s' : CallStack} {addr : UInt16} (h : s.pop? = some (addr, s')) :
    s'.slots = s.slots := by
  unfold pop? at h
  split at h
  · cases h
    rfl
  · cases h

end CallStack

namespace Bytes

/-- Overwriting changes no byte outside of the place it was given. -/
theorem range_of_overwrite_ne {n : Nat} {row : Vector UInt8 n} {start : Nat} {data : List UInt8}
    {k : Nat} {hk : k < n} (hne : (overwrite row start data)[k] ≠ row[k]) :
    start ≤ k ∧ k < start + data.length := by
  rw [getElem_overwrite] at hne
  by_cases hlow : start ≤ k
  · refine ⟨hlow, ?_⟩
    by_contra hhigh
    rw [if_pos hlow, List.getElem?_eq_none (by omega)] at hne
    exact hne rfl
  · rw [if_neg hlow] at hne
    exact absurd rfl hne

end Bytes

/-! ## Words -/

namespace Instruction

/-- The words that ask the keypad. -/
def AsksKeypad (ins : Instruction) : Prop :=
  ins.group = 0xE ∧ (ins.nn = 0x9E ∨ ins.nn = 0xA1) ∨ ins.group = 0xF ∧ ins.nn = 0x0A

instance (ins : Instruction) : Decidable ins.AsksKeypad :=
  inferInstanceAs (Decidable (_ ∨ _))

/-- The words that may change a part of the machine. -/
def MayChange (ins : Instruction) : Part → Prop
  | .pc => True
  | .registers =>
    ins.group ∈ [0x6, 0x7, 0x8, 0xC, 0xD] ∨ ins.group = 0xF ∧ ins.nn ∈ [0x07, 0x0A, 0x1E, 0x65]
  | .stack => ins.group = 0x2 ∨ ins.group = 0x0 ∧ ins.nn = 0xEE
  | .index => ins.group = 0xA ∨ ins.group = 0xF ∧ (ins.nn = 0x1E ∨ ins.nn = 0x29)
  | .awaiting => ins.group = 0xF ∧ ins.nn = 0x0A
  | .memory => ins.group = 0xF ∧ (ins.nn = 0x33 ∨ ins.nn = 0x55)
  | .timers => ins.group = 0xF ∧ (ins.nn = 0x15 ∨ ins.nn = 0x18)
  | .keypad => ins.AsksKeypad
  | .screen => ins.group = 0x0 ∧ ins.nn = 0xE0 ∨ ins.group = 0xD
  | .random => ins.group = 0xC

/-- The registers that a word may store into. A wait for a key stores nothing before it is
over. -/
def Writes (ins : Instruction) (step : Step) (r : Fin 16) : Prop :=
  r = ins.x ∧ (ins.group = 0x6 ∨ ins.group = 0x7 ∨ ins.group = 0xC ∨
      ins.group = 0x8 ∧ ins.n ∈ [0x0, 0x1, 0x2, 0x3, 0x4, 0x5, 0x6, 0x7, 0xE] ∨
      ins.group = 0xF ∧ (ins.nn = 0x07 ∨ ins.nn = 0x0A ∧ step = .executed)) ∨
    r = flagRegister ∧ (ins.group = 0xD ∨
      ins.group = 0x8 ∧ ins.n ∈ [0x4, 0x5, 0x6, 0x7, 0xE] ∨
      ins.group = 0xF ∧ ins.nn = 0x1E) ∨
    r ≤ ins.x ∧ ins.group = 0xF ∧ ins.nn = 0x65

instance (ins : Instruction) (step : Step) (r : Fin 16) : Decidable (ins.Writes step r) :=
  inferInstanceAs (Decidable (_ ∨ _ ∨ _))

end Instruction

/-- The words of an operation may change its parts and the program counter. -/
theorem Operation.Coded.mayChange_iff {ins : Instruction} {op : Operation} {p : Part}
    (h : op.Coded ins) (hp : p ≠ .pc) : ins.MayChange p ↔ p ∈ op.parts := by
  cases p
  case pc => exact absurd rfl hp
  all_goals
    cases op <;> simp only [Operation.Coded] at h <;>
      simp [parts, Instruction.MayChange, Instruction.AsksKeypad, h]

namespace Machine

variable {κ δ : Type} {m m₁ m' : Machine κ δ} {ins : Instruction} {op : Operation} {a : Advance}
  {step : Step}

/-! ## Within a part -/

/-- A write that succeeds puts its bytes at the index. -/
theorem memory_replaceMemory {data : List UInt8}
    (h : m.replaceMemory (m.memory.write m.cpu.index data) = (.ok a, m₁)) :
    m₁.memory =
      { m.memory with bytes := Bytes.overwrite m.memory.bytes m.cpu.index.toNat data } := by
  unfold replaceMemory at h
  split at h
  · cases h
  · rename_i hwrite
    obtain ⟨-, rfl⟩ := Memory.write_eq_ok_iff.1 hwrite
    cases h
    rfl

/-- The byte of a function of two registers goes to one register, and its flag to the flag
register. -/
theorem register_setResult_of_ne (m : Machine κ δ) {x r : Fin 16} {result : UInt8 × Option Bool}
    (hx : r ≠ x) (hflag : result.2.isSome = true → r ≠ flagRegister) :
    (m.setResult x result).register r = m.register r := by
  rcases result with ⟨v, _ | flag⟩
  · exact register_setRegister_of_ne m v hx
  · simp only [setResult]
    rw [register_setFlag_of_ne _ _ (hflag rfl), register_setRegister_of_ne m v hx]

/-- The registers read from memory are the ones up to the given one. -/
theorem register_restore_of_lt {x r : Fin 16} (h : m.restore x = (.ok a, m₁)) (hr : x < r) :
    m₁.register r = m.register r := by
  unfold restore at h
  split at h
  · cases h
  · rename_i data hread
    obtain ⟨hrange, rfl⟩ := Memory.read_eq_ok_iff.1 hread
    cases h
    simp only [register, Fin.getElem_fin, Bytes.getElem_overwrite]
    rw [if_pos (Nat.zero_le _), List.getElem?_eq_none]
    · rfl
    · rw [Bytes.length_slice]
      omega

/-! ## Which parts change -/

variable [Keypad κ] [Panel δ]

/-- What a word may not change stays. -/
theorem same_of_not_mayChange (m : Machine κ δ) {p : Part} (hp : ¬ ins.MayChange p) :
    p.Same m (m.execute ins).2 := by
  have hpc : p ≠ .pc := by
    rintro rfl
    exact hp trivial
  refine m.same_execute (fun op hop hmem => hp ?_) hpc
  exact ((Instruction.operation?_eq_some_iff.1 hop).mayChange_iff hpc).2 hmem

/-- A part that an operation changed is one of its parts. -/
theorem mem_parts_of_not_same {r : Except Error Advance} {p : Part}
    (h : m.perform op = (r, m₁)) (hne : ¬ p.Same m m₁) : p ∈ op.parts := by
  by_contra hmem
  have hsame := m.same_perform hmem
  rw [h] at hsame
  exact hne hsame

/-! ## Bytes of memory -/

/-- Only the bytes of memory change. -/
theorem memory_perform (h : m.perform op = (.ok a, m₁)) :
    m₁.memory = { m.memory with bytes := m₁.memory.bytes } := by
  by_cases hsame : Part.memory.Same m m₁
  · rw [show m₁.memory = m.memory from hsame]
  · have hmem := mem_parts_of_not_same h hsame
    cases op <;> simp only [Operation.parts, List.mem_cons, List.not_mem_nil, or_false,
      reduceCtorEq] at hmem
    case storeDecimal | save => rw [memory_replaceMemory h]

/-- Memory changes at the index only: three bytes, or one for each register stored. -/
theorem bytes_perform (hcoded : op.Coded ins) (h : m.perform op = (.ok a, m₁)) {k : Nat}
    (hk : k < memorySize) (hne : m₁.memory.bytes[k] ≠ m.memory.bytes[k]) :
    ins.group = 0xF ∧ m.cpu.index.toNat ≤ k ∧
      (ins.nn = 0x33 ∧ k < m.cpu.index.toNat + 3 ∨
        ins.nn = 0x55 ∧ k < m.cpu.index.toNat + (ins.x.val + 1)) := by
  have hmem : .memory ∈ op.parts :=
    mem_parts_of_not_same h fun hsame : m₁.memory = m.memory => by simp [hsame] at hne
  cases op <;> simp only [Operation.parts, List.mem_cons, List.not_mem_nil, or_false,
    reduceCtorEq] at hmem
  case storeDecimal x =>
    simp only [memory_replaceMemory h] at hne
    obtain ⟨hlow, hhigh⟩ := Bytes.range_of_overwrite_ne hne
    exact ⟨hcoded.1, hlow, Or.inl ⟨hcoded.2.1, hhigh⟩⟩
  case save x =>
    obtain ⟨hgroup, hbyte, rfl⟩ := hcoded
    simp only [memory_replaceMemory h] at hne
    obtain ⟨hlow, hhigh⟩ := Bytes.range_of_overwrite_ne hne
    have hlen : (m.registersUpTo ins.x).length = ins.x.val + 1 := Bytes.length_slice ..
    exact ⟨hgroup, hlow, Or.inr ⟨hbyte, hlen ▸ hhigh⟩⟩

/-! ## Timers -/

/-- Each timer changes by the words that write it only. -/
theorem timers_perform (hcoded : op.Coded ins) (h : m.perform op = (.ok a, m₁)) :
    (m₁.timers.delay ≠ m.timers.delay → ins.group = 0xF ∧ ins.nn = 0x15) ∧
      (m₁.timers.sound ≠ m.timers.sound → ins.group = 0xF ∧ ins.nn = 0x18) := by
  by_cases hsame : Part.timers.Same m m₁
  · rw [show m₁.timers = m.timers from hsame]
    exact ⟨absurd rfl, absurd rfl⟩
  · have hmem := mem_parts_of_not_same h hsame
    cases op <;> simp only [Operation.parts, List.mem_cons, List.not_mem_nil, or_false,
      reduceCtorEq] at hmem
    case setDelay x =>
      cases h
      exact ⟨fun _ => ⟨hcoded.1, hcoded.2.1⟩, absurd rfl⟩
    case setSound x =>
      cases h
      exact ⟨absurd rfl, fun _ => ⟨hcoded.1, hcoded.2.1⟩⟩

/-! ## Slots of the call stack -/

/-- Return addresses are put on the slot after the ones in use, by a call. -/
theorem slots_perform (hcoded : op.Coded ins) (h : m.perform op = (.ok a, m₁)) {k : Nat}
    (hk : k < stackDepth) (hne : m₁.cpu.stack.slots[k] ≠ m.cpu.stack.slots[k]) :
    ins.group = 0x2 ∧ k = m.cpu.stack.depth := by
  have hmem : .stack ∈ op.parts :=
    mem_parts_of_not_same h fun hsame : m₁.cpu.stack = m.cpu.stack => by simp [hsame] at hne
  cases op <;> simp only [Operation.parts, List.mem_cons, List.not_mem_nil, or_false,
    reduceCtorEq] at hmem
  case ret =>
    simp only [perform, ret] at h
    split at h
    · cases h
    · rename_i target stack hpop
      cases h
      have hslots : stack.slots = m.cpu.stack.slots := CallStack.slots_of_pop? hpop
      simp only [setStack, hslots] at hne
      exact absurd rfl hne
  case call target =>
    refine ⟨hcoded.1, ?_⟩
    simp only [perform, call] at h
    split at h
    · cases h
    · rename_i stack hpush
      cases h
      by_contra hother
      simp only [setStack] at hne
      exact hne (CallStack.slots_of_push? hpush hk hother)

/-! ## Registers -/

/-- A register changes only if its word stores into it. -/
theorem register_perform (hcoded : op.Coded ins) (h : m.perform op = (.ok a, m₁)) {r : Fin 16}
    (hne : m₁.register r ≠ m.register r) : ins.Writes (m₁.advance a).1 r := by
  have hmem : .registers ∈ op.parts :=
    mem_parts_of_not_same h fun hsame : m₁.cpu.registers = m.cpu.registers =>
      hne (by rw [register, register, hsame])
  cases op <;> simp only [Operation.parts, List.mem_cons, List.not_mem_nil, or_false, or_true,
    reduceCtorEq] at hmem
  case load x _ | addByte x _ | random x _ =>
    obtain ⟨hgroup, rfl, -⟩ := hcoded
    cases h
    have hr : r = ins.x := by_contra fun hr => hne (register_setRegister_of_ne _ _ hr)
    simp [Instruction.Writes, hr, hgroup]
  case alu f x y =>
    obtain ⟨hgroup, hn, rfl, -⟩ := hcoded
    cases h
    by_cases hr : r = ins.x
    · have hnibble : f.nibble ∈ [0x0, 0x1, 0x2, 0x3, 0x4, 0x5, 0x6, 0x7, 0xE] := by
        cases f <;> decide
      rw [← hn] at hnibble
      exact Or.inl ⟨hr, Or.inr (Or.inr (Or.inr (Or.inl ⟨hgroup, hnibble⟩)))⟩
    · -- another register changes only if the function has a flag
      have hflag : r = flagRegister ∧ f.nibble ∈ [0x4, 0x5, 0x6, 0x7, 0xE] := by
        by_contra hflag
        refine hne (register_setResult_of_ne m hr fun hsome hr' => hflag ⟨hr', ?_⟩)
        cases f <;> first | decide | cases hsome
      rw [← hn] at hflag
      exact Or.inr (Or.inl ⟨hflag.1, Or.inr (Or.inl ⟨hgroup, hflag.2⟩)⟩)
  case draw x y height =>
    obtain ⟨hgroup, -⟩ := hcoded
    simp only [perform, drawSprite] at h
    split at h
    · cases h
    · have hm₁ := congrArg Prod.snd h
      subst hm₁
      have hr : r = flagRegister := by_contra fun hr => hne (register_setFlag_of_ne _ _ hr)
      simp [Instruction.Writes, hr, hgroup]
  case readDelay x =>
    obtain ⟨hgroup, hbyte, rfl⟩ := hcoded
    cases h
    have hr : r = ins.x := by_contra fun hr => hne (register_setRegister_of_ne m _ hr)
    simp [Instruction.Writes, hr, hgroup, hbyte]
  case awaitKey x =>
    obtain ⟨hgroup, hbyte, rfl⟩ := hcoded
    obtain ⟨keypad, -, rfl, rfl⟩ | ⟨key, keypad, -, rfl, rfl⟩ := awaitKey_eq_ok h
    · exact absurd rfl hne
    · have hr : r = ins.x := by_contra fun hr => hne (register_setRegister_of_ne _ _ hr)
      simp [Instruction.Writes, hr, hgroup, hbyte, advance]
  case addIndex x =>
    obtain ⟨hgroup, hbyte, rfl⟩ := hcoded
    cases h
    have hr : r = flagRegister := by_contra fun hr => hne (register_setFlag_of_ne _ _ hr)
    simp [Instruction.Writes, hr, hgroup, hbyte]
  case restore x =>
    obtain ⟨hgroup, hbyte, rfl⟩ := hcoded
    have hr : r ≤ ins.x := by
      by_contra hr
      exact hne (register_restore_of_lt h (by omega))
    simp [Instruction.Writes, hr, hgroup, hbyte]

/-! ## Devices -/

/-- The keypad is asked once by the words that ask it, and never by others. -/
theorem keypad_perform (hcoded : op.Coded ins) (m : Machine κ δ) :
    (m.perform op).2.keypad =
      if ins.AsksKeypad then (Keypad.poll m.keypad).2 else m.keypad := by
  have hasks : ins.AsksKeypad ↔ .keypad ∈ op.parts := hcoded.mayChange_iff (p := .keypad) nofun
  by_cases hmem : .keypad ∈ op.parts
  · have hpoll : m.poll.2.keypad = (Keypad.poll m.keypad).2 := rfl
    rw [if_pos (hasks.2 hmem), ← hpoll]
    cases op <;> simp only [Operation.parts, List.mem_cons, List.not_mem_nil, or_false,
      reduceCtorEq] at hmem
    case skipKeyDown | skipKeyUp =>
      simp only [perform, skipOnKey]
      split <;> rename_i heq <;> rw [heq]
    case awaitKey =>
      simp only [perform, awaitKey]
      split <;> rename_i heq <;> rw [heq] <;> rfl
  · rw [if_neg (mt hasks.1 hmem)]
    exact m.same_perform hmem

/-- A wait for a key begins only if the keypad has none. -/
theorem awaiting_perform (hcoded : op.Coded ins) (h : m.perform op = (.ok a, m₁))
    (hne : m₁.cpu.awaiting ≠ m.cpu.awaiting) :
    ins.group = 0xF ∧ ins.nn = 0x0A ∧ (Keypad.poll m.keypad).1 = .ok none := by
  have hmem : .awaiting ∈ op.parts := mem_parts_of_not_same h hne
  cases op <;> simp only [Operation.parts, List.mem_cons, List.not_mem_nil, or_false, or_true,
    reduceCtorEq] at hmem
  refine ⟨hcoded.1, hcoded.2.1, ?_⟩
  obtain ⟨keypad, hpoll, -, -⟩ | ⟨key, keypad, -, -, rfl⟩ := awaitKey_eq_ok h
  · rw [hpoll]
  · exact absurd rfl hne

/-- A drawing that succeeds tells the screen the rows of its sprite, and to show the frame. -/
theorem screen_perform_draw {x y height : Fin 16}
    (h : m.perform (.draw x y height) = (.ok a, m₁)) :
    ∃ rows, m.memory.read m.cpu.index height.val = .ok rows ∧ rows.length = height.val ∧
      m₁.screen = (Screen.spriteCalls (m.register x) (m.register y) rows ++
        [ScreenCall.flush]).foldl Screen.told m.screen := by
  simp only [perform, drawSprite] at h
  split at h
  · cases h
  · rename_i rows hread
    obtain ⟨hrange, hrows⟩ := Memory.read_eq_ok_iff.1 hread
    refine ⟨rows, hread, by rw [hrows, Bytes.length_slice], ?_⟩
    rw [List.foldl_append, ← Screen.drawSprite_snd]
    exact congrArg (fun r => r.2.screen) h.symm

/-! ## The instruction -/

/-- All that may differ after an instruction that succeeds, besides the program counter. -/
structure Touched (m : Machine κ δ) (ins : Instruction) (step : Step) (m' : Machine κ δ) :
    Prop where
  /-- Memory, at the index: the bytes of three digits, or of the registers up to one. -/
  memory : ∀ k (hk : k < memorySize), m'.memory.bytes[k] ≠ m.memory.bytes[k] →
    ins.group = 0xF ∧ m.cpu.index.toNat ≤ k ∧
      (ins.nn = 0x33 ∧ k < m.cpu.index.toNat + 3 ∨
        ins.nn = 0x55 ∧ k < m.cpu.index.toNat + (ins.x.val + 1))
  /-- Where programs and glyphs are looked for stays. -/
  starts : m'.memory.programStart = m.memory.programStart ∧
    m'.memory.fontStart = m.memory.fontStart
  /-- The index. -/
  index : m'.cpu.index ≠ m.cpu.index →
    ins.group = 0xA ∨ ins.group = 0xF ∧ (ins.nn = 0x1E ∨ ins.nn = 0x29)
  /-- How many return addresses are in use. -/
  depth : m'.cpu.stack.depth ≠ m.cpu.stack.depth →
    ins.group = 0x2 ∨ ins.group = 0x0 ∧ ins.nn = 0xEE
  /-- The slot after the ones in use. -/
  slots : ∀ k (hk : k < stackDepth), m'.cpu.stack.slots[k] ≠ m.cpu.stack.slots[k] →
    ins.group = 0x2 ∧ k = m.cpu.stack.depth
  /-- The delay timer. -/
  delay : m'.timers.delay ≠ m.timers.delay → ins.group = 0xF ∧ ins.nn = 0x15
  /-- The sound timer. -/
  sound : m'.timers.sound ≠ m.timers.sound → ins.group = 0xF ∧ ins.nn = 0x18
  /-- The random bytes. -/
  random : m'.random ≠ m.random → ins.group = 0xC
  /-- The screen is cleared and then shows the frame. -/
  cleared : ins.group = 0x0 → ins.nn = 0xE0 →
    m'.screen = [.clear, .flush].foldl Screen.told m.screen
  /-- The screen is told each row of the sprite and then shows the frame. -/
  drawn : ins.group = 0xD → ∃ rows, m.memory.read m.cpu.index ins.n.val = .ok rows ∧
    rows.length = ins.n.val ∧
    m'.screen = (Screen.spriteCalls (m.register ins.x) (m.register ins.y) rows ++
      [ScreenCall.flush]).foldl Screen.told m.screen
  /-- Otherwise the screen is told nothing. -/
  untold : ¬ (ins.group = 0x0 ∧ ins.nn = 0xE0) → ins.group ≠ 0xD → m'.screen = m.screen
  /-- The keypad is asked once or not at all. -/
  keypad : m'.keypad = if ins.AsksKeypad then (Keypad.poll m.keypad).2 else m.keypad
  /-- A wait for a key begins. -/
  awaiting : m'.cpu.awaiting ≠ m.cpu.awaiting →
    ins.group = 0xF ∧ ins.nn = 0x0A ∧ (Keypad.poll m.keypad).1 = .ok none
  /-- The registers. -/
  registers : ∀ r, m'.register r ≠ m.register r → ins.Writes step r

/-- An instruction that succeeds touches what its word may touch.

**Proof sketch.** The instruction has an operation, which changes its parts only (`same_perform`);
the words of the parts are those of the table (`Operation.Coded.mayChange_iff`). What changes
within a part is said by the lemma of the part above. -/
theorem touched_of_execute (hw : m.isWaiting = false) (h : m.execute ins = (.ok step, m')) :
    m.Touched ins step m' := by
  have hstays {p : Part} (hne : ¬ p.Same m m') : ins.MayChange p := by
    by_contra hp
    have hsame := m.same_of_not_mayChange hp
    rw [h] at hsame
    exact hne hsame
  obtain ⟨-, op, a, m₁, hop, hp, ha⟩ := (execute_eq_ok h).resolve_left (by simp [hw])
  have hcoded := Instruction.operation?_eq_some_iff.1 hop
  obtain rfl : m' = m₁.setPc (a.target m₁.cpu.pc) := by rw [← m₁.advance_snd a, ha]
  have hstep : (m₁.advance a).1 = step := by rw [ha]
  constructor
  case memory => exact fun k hk hne => bytes_perform hcoded hp hk hne
  case starts =>
    simp only [setPc]
    rw [memory_perform hp]
    exact ⟨rfl, rfl⟩
  case index => exact fun hne => hstays (p := .index) hne
  case depth =>
    exact fun hne => hstays (p := .stack) fun hsame => hne (congrArg CallStack.depth hsame)
  case slots => exact fun k hk hne => slots_perform hcoded hp hk hne
  case delay => exact (timers_perform hcoded hp).1
  case sound => exact (timers_perform hcoded hp).2
  case random => exact fun hne => hstays (p := .random) hne
  case cleared =>
    intro hgroup hbyte
    have hclear : ins.operation? = some .clearScreen :=
      Instruction.operation?_eq_some_iff.2 ⟨hgroup, hbyte⟩
    obtain rfl : op = .clearScreen := Option.some.inj (hop.symm.trans hclear)
    exact congrArg (fun r => r.2.screen) hp.symm
  case drawn =>
    intro hgroup
    have hdraw : ins.operation? = some (.draw ins.x ins.y ins.n) :=
      Instruction.operation?_eq_some_iff.2 ⟨hgroup, rfl, rfl, rfl⟩
    obtain rfl : op = .draw ins.x ins.y ins.n := Option.some.inj (hop.symm.trans hdraw)
    obtain ⟨rows, hread, hlen, hscreen⟩ := screen_perform_draw hp
    exact ⟨rows, hread, hlen, hscreen⟩
  case untold =>
    intro hclear hdraw
    by_contra hne
    exact (hstays (p := .screen) hne).elim hclear hdraw
  case keypad =>
    have hkeypad := keypad_perform hcoded m
    rwa [hp] at hkeypad
  case awaiting => exact fun hne => awaiting_perform hcoded hp hne
  case registers => exact fun r hne => hstep ▸ register_perform hcoded hp hne

/-- **An instruction touches what its word may touch, and nothing else.** A machine that waits for
a key executes nothing: no part of it changes and no device is asked or told anything. Any other
machine keeps, when an instruction succeeds, whatever `Touched` does not name for its word. -/
theorem execute_footprint (m : Machine κ δ) (ins : Instruction) :
    (m.isWaiting = true → m.execute ins = (.ok .waiting, m)) ∧
      ∀ step m', m.isWaiting = false → m.execute ins = (.ok step, m') → m.Touched ins step m' :=
  ⟨fun hw => execute_of_isWaiting hw ins, fun _ _ hw h => touched_of_execute hw h⟩

/-- A machine that begins to wait has asked its keypad once and stored nothing; while it waits,
even an instruction that asks the keypad changes nothing. -/
theorem execute_footprint_of_wait :
    let keypad : FaultyKeypad ScriptedKeypad :=
      { inner := ⟨[none, some 5]⟩, error := .device "keyboard broken" }
    let m := switchedOn keypad NoPanel.mk
    let m₁ := (m.execute ⟨0xF3, 0x0A⟩).2
    m.isWaiting = false ∧ m.execute ⟨0xF3, 0x0A⟩ = (.ok .waiting, m₁) ∧ m₁.keypad.polls = 1 ∧
      (∀ r, m₁.register r = m.register r) ∧ m₁.isWaiting = true ∧
      m₁.execute ⟨0xE3, 0x9E⟩ = (.ok .waiting, m₁) := by
  intro keypad m m₁
  have hrun : m.execute ⟨0xF3, 0x0A⟩ = (.ok .waiting, m₁) := rfl
  have ht := (execute_footprint m ⟨0xF3, 0x0A⟩).2 .waiting m₁ rfl hrun
  have hnone : ∀ r, ¬ Instruction.Writes ⟨0xF3, 0x0A⟩ .waiting r := by decide
  refine ⟨rfl, hrun, ?_, fun r => ?_, rfl, (execute_footprint m₁ ⟨0xE3, 0x9E⟩).1 rfl⟩
  · rw [ht.keypad]
    rfl
  · by_contra hne
    exact hnone r (ht.registers r hne)

end Machine

end Chip8
