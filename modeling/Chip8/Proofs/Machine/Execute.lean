import Chip8.Machine.Execute
import Chip8.Proofs.Frame.Sprite

set_option relaxedAutoImplicit false
set_option autoImplicit false

/-!
# Instructions, case by case

The lemmas through which other modules look at an instruction. A machine that waits takes no
instruction, a word without an operation is unknown, and otherwise the operation has its effect
and the program counter moves. The two operations that show the frame paint it first.

## Main definitions

* `Chip8.Advance.target` — where the program counter goes.
* `Chip8.Machine.switchedOn` — a machine that was just switched on.
* `Chip8.Machine.shown` — the machine after its frame was given to the panel.
* `Chip8.Machine.resumed` — the machine after a key came.
* `Chip8.Machine.painted?` — the machine as an operation that shows the frame has painted it.

## Main results

* `Chip8.Machine.execute_eq_error`, `Chip8.Machine.execute_eq_ok` — all ways to fail and to
  succeed.
* `Chip8.Machine.perform_of_painted?` — what is painted is shown.
-/

namespace Chip8

/-- The address an advance leads to from `pc`. -/
def Advance.target (pc : UInt16) : Advance → UInt16
  | next => pc + 2
  | skipIf condition => if condition then pc + 4 else pc + 2
  | jump addr => addr
  | wait => pc

namespace Machine

variable {κ δ : Type}

/-- A machine that was just switched on: the font is in memory, the program counter is where
programs start, and the rest is zero. -/
def switchedOn (keypad : κ) (panel : δ) : Machine κ δ where
  cpu := Cpu.startingAt 0x200
  memory := Memory.fresh
  timers := {}
  keypad
  screen := { panel }
  random := RandomSource.seeded 0

/-! ## Registers -/

@[simp] theorem register_setRegister_self (m : Machine κ δ) (x : Fin 16) (v : UInt8) :
    (m.setRegister x v).register x = v := by
  simp [register, setRegister]

theorem register_setRegister_of_ne (m : Machine κ δ) {x y : Fin 16} (v : UInt8) (h : y ≠ x) :
    (m.setRegister x v).register y = m.register y := by
  have hval : x.val ≠ y.val := fun heq => h (Fin.ext heq.symm)
  simp [register, setRegister, Vector.getElem_set_ne _ _ hval]

@[simp] theorem register_setFlag_self (m : Machine κ δ) (flag : Bool) :
    (m.setFlag flag).register flagRegister = if flag then 1 else 0 :=
  register_setRegister_self ..

theorem register_setFlag_of_ne (m : Machine κ δ) {y : Fin 16} (flag : Bool)
    (h : y ≠ flagRegister) : (m.setFlag flag).register y = m.register y :=
  register_setRegister_of_ne _ _ h

/-! ## The program counter -/

/-- Moving the program counter is all that is left to do after an operation. -/
theorem advance_snd (m : Machine κ δ) (a : Advance) :
    (m.advance a).2 = m.setPc (a.target m.cpu.pc) := by
  cases a with
  | skipIf condition => cases condition <;> rfl
  | next | jump | wait => rfl

/-- Only a wait does not complete the instruction. -/
theorem advance_fst_eq_waiting_iff (m : Machine κ δ) {a : Advance} :
    (m.advance a).1 = .waiting ↔ a = .wait := by
  cases a with
  | skipIf condition => cases condition <;> simp [advance]
  | next | jump | wait => simp [advance]

/-! ## Showing the frame -/

/-- The machine after its frame was given to the panel, which is now `panel`. -/
def shown (m : Machine κ δ) (panel : δ) : Machine κ δ :=
  { m with screen := { m.screen with panel, flushes := m.screen.flushes + 1 } }

/-- The machine as an operation that shows the frame has painted it, if the operation is one of
those and its sprite lies in memory. -/
def painted? (m : Machine κ δ) : Operation → Option (Machine κ δ)
  | .clearScreen => some { m with screen := m.screen.clear }
  | .draw x y height =>
    match m.memory.read m.cpu.index height.val with
    | .error _ => none
    | .ok sprite =>
      let (hit, screen) := m.screen.drawSprite (m.register x) (m.register y) sprite
      some ({ m with screen }.setFlag hit)
  | _ => none

/-! ## Asking the keypad -/

/-- The machine after a key came into register `x`, with the keypad it came from. -/
def resumed (m : Machine κ δ) (x : Fin 16) (key : UInt8) (keypad : κ) : Machine κ δ :=
  (({ m with keypad }.setRegister x key).setAwaiting none).setPc (m.cpu.pc + Instruction.width)

theorem isWaiting_eq_false_iff {m : Machine κ δ} :
    m.isWaiting = false ↔ m.cpu.awaiting = none := by
  simp [isWaiting]

section Poll

variable [Keypad κ]

theorem poll_of_ok {m : Machine κ δ} {key : Option UInt8} {keypad : κ}
    (h : Keypad.poll m.keypad = (.ok key, keypad)) : m.poll = (.ok key, { m with keypad }) := by
  simp [poll, h, Except.mapError]

theorem poll_of_error {m : Machine κ δ} {e : IoError} {keypad : κ}
    (h : Keypad.poll m.keypad = (.error e, keypad)) :
    m.poll = (.error (.io e), { m with keypad }) := by
  simp [poll, h, Except.mapError]

/-- A machine that does not wait takes an instruction without asking the keypad. -/
theorem canProceed_of_not_isWaiting {m : Machine κ δ} (hw : m.isWaiting = false) :
    m.canProceed = (.ok true, m) := by
  simp only [canProceed, isWaiting_eq_false_iff.1 hw]

/-- Without a key the wait goes on. -/
theorem canProceed_of_silent {m : Machine κ δ} {x : Fin 16} {keypad : κ}
    (hx : m.cpu.awaiting = some x) (hp : Keypad.poll m.keypad = (.ok none, keypad)) :
    m.canProceed = (.ok false, { m with keypad }) := by
  simp only [canProceed, hx, poll_of_ok hp]

/-- A key ends the wait. -/
theorem canProceed_of_key {m : Machine κ δ} {x : Fin 16} {key : UInt8} {keypad : κ}
    (hx : m.cpu.awaiting = some x) (hp : Keypad.poll m.keypad = (.ok (some key), keypad)) :
    m.canProceed = (.ok true, m.resumed x key keypad) := by
  simp only [canProceed, hx, poll_of_ok hp, resumed]

/-- A condition on the key is answered only if the keypad answers. -/
theorem skipOnKey_eq_ok {m m₁ : Machine κ δ} {condition : Option UInt8 → Bool} {a : Advance}
    (h : m.skipOnKey condition = (.ok a, m₁)) :
    ∃ key keypad, Keypad.poll m.keypad = (.ok key, keypad) ∧ a = .skipIf (condition key) ∧
      m₁ = { m with keypad } := by
  rcases hp : Keypad.poll m.keypad with ⟨e | key, keypad⟩
  · simp only [skipOnKey, poll_of_error hp] at h
    cases h
  · simp only [skipOnKey, poll_of_ok hp] at h
    cases h
    exact ⟨key, keypad, rfl, rfl, rfl⟩

/-- A key is awaited only if the keypad answers: without a key the wait begins, and with one it is
over at once. -/
theorem awaitKey_eq_ok {m m₁ : Machine κ δ} {x : Fin 16} {a : Advance}
    (h : m.awaitKey x = (.ok a, m₁)) :
    (∃ keypad, Keypad.poll m.keypad = (.ok none, keypad) ∧ a = .wait ∧
      m₁ = { m with keypad }.setAwaiting (some x)) ∨
    ∃ key keypad, Keypad.poll m.keypad = (.ok (some key), keypad) ∧ a = .next ∧
      m₁ = { m with keypad }.setRegister x key := by
  rcases hp : Keypad.poll m.keypad with ⟨e | _ | key, keypad⟩
  · simp only [awaitKey, poll_of_error hp] at h
    cases h
  · simp only [awaitKey, poll_of_ok hp] at h
    cases h
    exact Or.inl ⟨keypad, rfl, rfl, rfl⟩
  · simp only [awaitKey, poll_of_ok hp] at h
    cases h
    exact Or.inr ⟨key, keypad, rfl, rfl, rfl⟩

end Poll

section Show

variable [Panel δ]

/-- A panel that takes the frame lets the instruction go on. -/
theorem showFrame_of_ok {m : Machine κ δ} {panel : δ}
    (h : Panel.present m.screen.panel m.screen.frame = (.ok (), panel)) :
    m.showFrame = (.ok .next, m.shown panel) := by
  simp [showFrame, Screen.flush, h, Except.mapError, Except.map, shown]

/-- A panel that refuses the frame ends the instruction. -/
theorem showFrame_of_error {m : Machine κ δ} {e : IoError} {panel : δ}
    (h : Panel.present m.screen.panel m.screen.frame = (.error e, panel)) :
    m.showFrame = (.error (.io e), m.shown panel) := by
  simp [showFrame, Screen.flush, h, Except.mapError, Except.map, shown]

end Show

/-! ## Operations and instructions -/

variable [Keypad κ] [Panel δ]

/-- What is painted is shown. -/
theorem perform_of_painted? {m m₁ : Machine κ δ} {op : Operation} (h : m.painted? op = some m₁) :
    m.perform op = m₁.showFrame := by
  cases op
  case clearScreen =>
    cases h
    rfl
  case draw x y height =>
    cases hread : m.memory.read m.cpu.index height.val with
    | error e => simp only [painted?, hread, reduceCtorEq] at h
    | ok sprite =>
      simp only [painted?, hread, Option.some.injEq] at h
      simp only [perform, drawSprite, hread, ← h]
  all_goals cases h

theorem execute_of_isWaiting {m : Machine κ δ} (hw : m.isWaiting = true) (ins : Instruction) :
    m.execute ins = (.ok .waiting, m) := by
  rw [execute, if_pos hw]

theorem execute_of_perform_ok {m m₁ : Machine κ δ} {ins : Instruction} {op : Operation}
    {a : Advance} (hw : m.isWaiting = false) (hop : ins.operation? = some op)
    (hp : m.perform op = (.ok a, m₁)) :
    m.execute ins = (.ok (m₁.advance a).1, (m₁.advance a).2) := by
  simp [execute, hw, hop, hp]

theorem execute_of_perform_error {m m₁ : Machine κ δ} {ins : Instruction} {op : Operation}
    {e : Error} (hw : m.isWaiting = false) (hop : ins.operation? = some op)
    (hp : m.perform op = (.error e, m₁)) : m.execute ins = (.error e, m₁) := by
  simp [execute, hw, hop, hp]

/-- What is painted and taken by the panel is done. -/
theorem execute_of_painted?_ok {m m₁ : Machine κ δ} {ins : Instruction} {op : Operation}
    {panel : δ} (hw : m.isWaiting = false) (hop : ins.operation? = some op)
    (hp : m.painted? op = some m₁)
    (h : Panel.present m₁.screen.panel m₁.screen.frame = (.ok (), panel)) :
    m.execute ins = (.ok .executed, (m₁.shown panel).setPc (m₁.cpu.pc + Instruction.width)) :=
  execute_of_perform_ok hw hop ((perform_of_painted? hp).trans (showFrame_of_ok h))

/-- What is painted and refused by the panel stays painted. -/
theorem execute_of_painted?_error {m m₁ : Machine κ δ} {ins : Instruction} {op : Operation}
    {e : IoError} {panel : δ} (hw : m.isWaiting = false) (hop : ins.operation? = some op)
    (hp : m.painted? op = some m₁)
    (h : Panel.present m₁.screen.panel m₁.screen.frame = (.error e, panel)) :
    m.execute ins = (.error (.io e), m₁.shown panel) :=
  execute_of_perform_error hw hop ((perform_of_painted? hp).trans (showFrame_of_error h))

/-- The frame is the painted one, whether the panel takes it or not. -/
theorem frame_execute_of_painted? {m m₁ : Machine κ δ} {ins : Instruction} {op : Operation}
    (hw : m.isWaiting = false) (hop : ins.operation? = some op) (hp : m.painted? op = some m₁) :
    (m.execute ins).2.screen.frame = m₁.screen.frame := by
  rcases h : Panel.present m₁.screen.panel m₁.screen.frame with ⟨_ | _, panel⟩
  · rw [execute_of_painted?_error hw hop hp h]
    rfl
  · rw [execute_of_painted?_ok hw hop hp h]
    rfl

/-- An instruction fails because its word is unknown or because its operation fails. -/
theorem execute_eq_error {m m' : Machine κ δ} {ins : Instruction} {e : Error}
    (h : m.execute ins = (.error e, m')) :
    m.isWaiting = false ∧
      (ins.operation? = none ∧ e = .unknownOpcode ins.word ∧ m' = m ∨
        ∃ op, ins.operation? = some op ∧ m.perform op = (.error e, m')) := by
  unfold execute at h
  split at h
  · cases h
  rename_i hw
  refine ⟨by simpa using hw, ?_⟩
  split at h
  · rename_i hop
    cases h
    exact Or.inl ⟨hop, rfl, rfl⟩
  · rename_i op hop
    split at h
    · rename_i hp
      cases h
      exact Or.inr ⟨op, hop, hp⟩
    · cases h

/-- An instruction succeeds because the machine waits, or because its operation does. -/
theorem execute_eq_ok {m m' : Machine κ δ} {ins : Instruction} {step : Step}
    (h : m.execute ins = (.ok step, m')) :
    m.isWaiting = true ∧ step = .waiting ∧ m' = m ∨
      m.isWaiting = false ∧ ∃ op a m₁, ins.operation? = some op ∧
        m.perform op = (.ok a, m₁) ∧ m₁.advance a = (step, m') := by
  unfold execute at h
  split at h
  · rename_i hw
    cases h
    exact Or.inl ⟨hw, rfl, rfl⟩
  rename_i hw
  refine Or.inr ⟨by simpa using hw, ?_⟩
  split at h
  · cases h
  · rename_i op hop
    split at h
    · cases h
    · rename_i a m₁ hp
      cases h
      exact ⟨op, a, m₁, hop, hp, rfl⟩

end Machine

end Chip8
