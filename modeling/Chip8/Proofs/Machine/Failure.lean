import Chip8.Proofs.Machine.Drawing

set_option relaxedAutoImplicit false
set_option autoImplicit false

/-!
# Failing instructions

All ways in which an instruction can fail, and what it leaves behind. Whatever the program is to
blame for is found before anything is changed. A keypad that fails has been asked, but nothing was
done with it; a panel that fails leaves the frame as it was painted, and with it the flag of a
drawing.

## Main definitions

* `Chip8.Error.isProgramFault` — the errors a program is to blame for.
* `Chip8.Operation.span` — how many bytes at the index an operation needs.
* `Chip8.Operation.asksKeypad` — whether an operation asks the keypad.
* `Chip8.Machine.Refuses` — an operation fails, with its error and the machine it leaves behind.
* `Chip8.Machine.onDevices` — the same machine with another keypad and another panel.

## Main results

* `Chip8.Machine.perform_eq_error_iff` — these are all ways an operation can fail.
* `Chip8.Machine.execute_error_frame` — what a failing instruction leaves as it was.
-/

namespace Chip8

/-- The errors a program is to blame for, not a device. -/
def Error.isProgramFault : Error → Bool
  | unknownOpcode _ | stackOverflow _ | stackUnderflow _ | outOfRange .. => true
  | malformedInstruction _ | programTooLarge .. | io _ | sound _ => false

namespace Operation

/-- How many bytes at the index an operation needs, if it needs any. -/
def span : Operation → Option Nat
  | draw _ _ height => some height.val
  | storeDecimal _ => some 3
  | save x | restore x => some (x.val + 1)
  | _ => none

/-- Whether an operation asks the keypad. -/
def asksKeypad : Operation → Bool
  | skipKeyDown _ | skipKeyUp _ | awaitKey _ => true
  | _ => false

/-- The three instructions that ask the keypad. -/
theorem Coded.of_asksKeypad {ins : Instruction} {op : Operation} (h : op.Coded ins)
    (hasks : op.asksKeypad = true) :
    ins.group = 0xE ∧ (ins.nn = 0x9E ∨ ins.nn = 0xA1) ∨ ins.group = 0xF ∧ ins.nn = 0x0A := by
  cases op
  case skipKeyDown => exact Or.inl ⟨h.1, Or.inl h.2.1⟩
  case skipKeyUp => exact Or.inl ⟨h.1, Or.inr h.2.1⟩
  case awaitKey => exact Or.inr ⟨h.1, h.2.1⟩
  all_goals cases hasks

end Operation

namespace Machine

variable {κ δ : Type}

/-! ## All ways to fail -/

section Refuses

variable [Keypad κ] [Panel δ]

/-- An operation fails, with its error and the machine it leaves behind. -/
inductive Refuses (m : Machine κ δ) : Operation → Error → Machine κ δ → Prop
  /-- A call with no slot free. -/
  | overflow {target : UInt16} (h : m.cpu.stack.live.length = stackDepth) :
    Refuses m (.call target) (.stackOverflow m.cpu.pc) m
  /-- A return with no slot in use. -/
  | underflow (h : m.cpu.stack.live = []) : Refuses m .ret (.stackUnderflow m.cpu.pc) m
  /-- The bytes at the index do not all lie in memory. -/
  | outside {op : Operation} {len : Nat} (hspan : op.span = some len)
    (h : memorySize < m.cpu.index.toNat + len) : Refuses m op (.outOfRange m.cpu.index len) m
  /-- The keypad fails. -/
  | unheard {op : Operation} (hasks : op.asksKeypad = true) {e : IoError} {keypad : κ}
    (h : Keypad.poll m.keypad = (.error e, keypad)) : Refuses m op (.io e) { m with keypad }
  /-- The panel fails. -/
  | unshown {op : Operation} {m₁ : Machine κ δ} (hpainted : m.painted? op = some m₁) {e : IoError}
    {panel : δ} (h : Panel.present m₁.screen.panel m₁.screen.frame = (.error e, panel)) :
    Refuses m op (.io e) (m₁.shown panel)

variable {m m' : Machine κ δ} {op : Operation} {e : Error}

theorem Refuses.of_read {len : Nat} (hspan : op.span = some len)
    (h : m.memory.read m.cpu.index len = .error e) : m.Refuses op e m := by
  obtain ⟨hrange, rfl⟩ := Memory.read_eq_error_iff.1 h
  exact .outside hspan hrange

theorem Refuses.of_replaceMemory {data : List UInt8} (hspan : op.span = some data.length)
    (h : m.replaceMemory (m.memory.write m.cpu.index data) = (.error e, m')) :
    m.Refuses op e m' := by
  unfold replaceMemory at h
  split at h
  · rename_i hwrite
    obtain ⟨hrange, rfl⟩ := Memory.write_eq_error_iff.1 hwrite
    cases h
    exact .outside hspan hrange
  · cases h

theorem Refuses.of_poll (hasks : op.asksKeypad = true) (h : m.poll = (.error e, m')) :
    m.Refuses op e m' := by
  rcases hp : Keypad.poll m.keypad with ⟨io | key, keypad⟩
  · rw [poll_of_error hp] at h
    cases h
    exact .unheard hasks hp
  · rw [poll_of_ok hp] at h
    cases h

theorem Refuses.of_showFrame {m₁ : Machine κ δ} (hpainted : m.painted? op = some m₁)
    (h : m₁.showFrame = (.error e, m')) : m.Refuses op e m' := by
  rcases hp : Panel.present m₁.screen.panel m₁.screen.frame with ⟨io | _, panel⟩
  · rw [showFrame_of_error hp] at h
    cases h
    exact .unshown hpainted hp
  · rw [showFrame_of_ok hp] at h
    cases h

/-- An operation that fails does so in one of these ways. -/
theorem refuses_of_perform (h : m.perform op = (.error e, m')) : m.Refuses op e m' := by
  cases hp : m.painted? op with
  | some m₁ => exact .of_showFrame hp (perform_of_painted? hp ▸ h)
  | none =>
    cases op
    case clearScreen => cases hp
    case draw x y height =>
      simp only [painted?] at hp
      simp only [perform, drawSprite] at h
      split at hp
      · rename_i hread
        rw [hread] at h
        cases h
        exact .of_read rfl hread
      · cases hp
    case ret =>
      simp only [perform, ret] at h
      split at h
      · rename_i hpop
        cases h
        exact .underflow (CallStack.pop?_eq_none_iff.1 hpop)
      · cases h
    case call target =>
      simp only [perform, call] at h
      split at h
      · rename_i hpush
        cases h
        exact .overflow (CallStack.push?_eq_none_iff.1 hpush)
      · cases h
    case restore x =>
      simp only [perform, restore] at h
      split at h
      · rename_i hread
        cases h
        exact .of_read rfl hread
      · cases h
    case storeDecimal x => exact .of_replaceMemory rfl h
    case save x =>
      have hlen : (m.registersUpTo x).length = x.val + 1 := Bytes.length_slice ..
      exact .of_replaceMemory (by rw [hlen]; rfl) h
    case skipKeyDown x | skipKeyUp x =>
      simp only [perform, skipOnKey] at h
      split at h
      · rename_i hpoll
        cases h
        exact .of_poll rfl hpoll
      · cases h
    case awaitKey x =>
      simp only [perform, awaitKey] at h
      split at h
      · rename_i hpoll
        cases h
        exact .of_poll rfl hpoll
      · cases h
      · cases h
    all_goals cases h

theorem Refuses.perform_eq (h : m.Refuses op e m') : m.perform op = (.error e, m') := by
  cases h with
  | overflow h => simp only [perform, call, CallStack.push?_eq_none_iff.2 h]
  | underflow h => simp only [perform, ret, CallStack.pop?_eq_none_iff.2 h]
  | @outside _ len hspan hrange =>
    have hread : m.memory.read m.cpu.index len = .error (.outOfRange m.cpu.index len) :=
      Memory.read_eq_error_iff.2 ⟨hrange, rfl⟩
    have hwrite (data : List UInt8) (hdata : data.length = len) :
        m.memory.write m.cpu.index data = .error (.outOfRange m.cpu.index len) :=
      Memory.write_eq_error_iff.2 ⟨hdata ▸ hrange, hdata ▸ rfl⟩
    cases op <;> simp only [Operation.span, Option.some.injEq, reduceCtorEq] at hspan
    case draw => subst hspan; simp only [perform, drawSprite, hread]
    case restore => subst hspan; simp only [perform, restore, hread]
    case storeDecimal x =>
      subst hspan
      have hdigits := hwrite [m.register x / 100, m.register x / 10 % 10, m.register x % 10] rfl
      simp only [perform, Memory.saveDecimal, replaceMemory, hdigits]
    case save x =>
      have hlen : (m.registersUpTo x).length = len := (Bytes.length_slice ..).trans hspan
      simp only [perform, replaceMemory, hwrite _ hlen]
  | unheard hasks hpoll =>
    cases op <;> simp only [Operation.asksKeypad, reduceCtorEq] at hasks
    case awaitKey => simp only [perform, awaitKey, poll_of_error hpoll]
    all_goals simp only [perform, skipOnKey, poll_of_error hpoll]
  | unshown hp hpresent => rw [perform_of_painted? hp, showFrame_of_error hpresent]

/-- These are all ways an operation can fail. -/
theorem perform_eq_error_iff : m.perform op = (.error e, m') ↔ m.Refuses op e m' :=
  ⟨refuses_of_perform, Refuses.perform_eq⟩

end Refuses

/-! ## Other devices -/

/-- The same machine with another keypad and another panel. -/
def onDevices {κ' δ' : Type} (m : Machine κ δ) (keypad : κ') (panel : δ') : Machine κ' δ' where
  cpu := m.cpu
  memory := m.memory
  timers := m.timers
  keypad
  screen := {
    frame := m.screen.frame
    panel
    clears := m.screen.clears
    draws := m.screen.draws
    flushes := m.screen.flushes }
  random := m.random

/-- What an operation paints depends on no device. -/
theorem painted?_onDevices {κ' δ' : Type} (m : Machine κ δ) (keypad : κ') (panel : δ')
    (op : Operation) :
    (m.onDevices keypad panel).painted? op =
      (m.painted? op).map fun m₁ => m₁.onDevices keypad panel := by
  cases op
  case draw x y height =>
    simp only [painted?, onDevices, register, Screen.drawSprite_eq]
    split
    · rfl
    · rfl
  all_goals rfl

section OnDevices

variable [Keypad κ] [Panel δ] {κ' δ' : Type} [Keypad κ'] [Panel δ'] {m m' : Machine κ δ}
  {ins : Instruction} {op : Operation} {e : Error}

/-- A fault of the program changes nothing, and happens on every machine with the same processor
and memory. -/
theorem Refuses.of_fault {d : Machine κ' δ'} (h : m.Refuses op e m')
    (he : e.isProgramFault = true) (hcpu : d.cpu = m.cpu) (hmemory : d.memory = m.memory) :
    m' = m ∧ d.Refuses op e d := by
  obtain ⟨cpu, memory, timers, keypad, screen, random⟩ := d
  dsimp only at hcpu hmemory
  subst hcpu hmemory
  cases h with
  | overflow h => exact ⟨rfl, .overflow h⟩
  | underflow h => exact ⟨rfl, .underflow h⟩
  | outside hspan h => exact ⟨rfl, .outside hspan h⟩
  | unheard => cases he
  | unshown => cases he

/-- An instruction that fails by a fault of the program changes nothing, and fails in the same way
on every machine with the same processor and memory. -/
theorem execute_of_fault {d : Machine κ' δ'} (h : m.execute ins = (.error e, m'))
    (he : e.isProgramFault = true) (hcpu : d.cpu = m.cpu) (hmemory : d.memory = m.memory) :
    m' = m ∧ d.execute ins = (.error e, d) := by
  have hw' : d.isWaiting = m.isWaiting := by rw [isWaiting, isWaiting, hcpu]
  obtain ⟨hw, ⟨hop, rfl, rfl⟩ | ⟨op, hop, hp⟩⟩ := execute_eq_error h
  · exact ⟨rfl, by simp only [execute, hw', hw, hop, Bool.false_eq_true, if_false]⟩
  · obtain ⟨rfl, hfault⟩ := (perform_eq_error_iff.1 hp).of_fault he hcpu hmemory
    exact ⟨rfl, execute_of_perform_error (hw'.trans hw) hop (perform_eq_error_iff.2 hfault)⟩

/-- An instruction that fails by a fault of the program fails in the same way on all devices, and
changes nothing. -/
theorem execute_onDevices_of_fault (h : m.execute ins = (.error e, m'))
    (he : e.isProgramFault = true) (keypad : κ') (panel : δ') :
    m' = m ∧
      (m.onDevices keypad panel).execute ins = (.error e, m.onDevices keypad panel) :=
  execute_of_fault h he rfl rfl

omit [Keypad κ] [Panel δ] in
/-- What was painted and refused by the panel is what another panel would have taken. -/
theorem execute_onDevices_of_painted? {m₁ : Machine κ δ} (hw : m.isWaiting = false)
    (hop : ins.operation? = some op) (hp : m.painted? op = some m₁) (keypad : κ') {panel : δ'}
    (htaken : (Panel.present panel m₁.screen.frame).1 = .ok ()) :
    ∃ done, (m.onDevices keypad panel).execute ins = (.ok .executed, done) ∧
      done.screen.frame = m₁.screen.frame ∧ done.cpu.registers = m₁.cpu.registers := by
  have hw' : (m.onDevices keypad panel).isWaiting = false := hw
  have hp' : (m.onDevices keypad panel).painted? op = some (m₁.onDevices keypad panel) := by
    rw [painted?_onDevices, hp, Option.map_some]
  have hpresent : Panel.present (m₁.onDevices keypad panel).screen.panel
      (m₁.onDevices keypad panel).screen.frame =
      (.ok (), (Panel.present panel m₁.screen.frame).2) := Prod.ext htaken rfl
  exact ⟨_, execute_of_painted?_ok hw' hop hp' hpresent, rfl, rfl⟩

/-- **Failing changes little.** An instruction that fails leaves everything but the registers, the
screen and the keypad as it was. A fault of the program leaves these as well, and is found without
any device: it happens in the same way on all of them. If the keypad fails, only that one answer
was taken from it. If the panel fails, which only a clearing or a drawing gets to, the keypad was
not asked, the frame is the one that a panel that takes it would have left with the instruction
done, and only the flag of a drawing was stored.

**Proof sketch.** All ways to fail are those of `Machine.Refuses`; a word without an operation is
a fault on all devices. The frame that a panel refuses was painted before (`painted?_eq_some`),
in the same way on all devices (`execute_onDevices_of_painted?`). -/
theorem execute_error_frame (h : m.execute ins = (.error e, m')) :
    m' = { m with
      cpu := { m.cpu with registers := m'.cpu.registers }
      keypad := m'.keypad
      screen := m'.screen } ∧
    (e.isProgramFault = true → m' = m ∧
      ∀ {κ' δ' : Type} [Keypad κ'] [Panel δ'] (keypad : κ') (panel : δ'),
        (m.onDevices keypad panel).execute ins = (.error e, m.onDevices keypad panel)) ∧
    (e.isProgramFault = false → ∃ io, e = .io io ∧
      ((ins.group = 0xE ∧ (ins.nn = 0x9E ∨ ins.nn = 0xA1) ∨ ins.group = 0xF ∧ ins.nn = 0x0A) ∧
          (Keypad.poll m.keypad).1 = .error io ∧
          m' = { m with keypad := (Keypad.poll m.keypad).2 } ∨
        (Panel.present m.screen.panel m'.screen.frame).1 = .error io ∧ m'.keypad = m.keypad ∧
          (ins.group = 0x0 ∧ ins.nn = 0xE0 ∧ m'.cpu.registers = m.cpu.registers ∨
            ins.group = 0xD ∧ (∀ r ≠ flagRegister, m'.register r = m.register r) ∧
              m'.register flagRegister =
                if m.Meets ins.x ins.y ins.n.val true then 1 else 0) ∧
          ∀ {κ' δ' : Type} [Keypad κ'] [Panel δ'] (keypad : κ') (panel : δ'),
            (Panel.present panel m'.screen.frame).1 = .ok () →
            ∃ done, (m.onDevices keypad panel).execute ins = (.ok .executed, done) ∧
              done.screen.frame = m'.screen.frame ∧
              done.cpu.registers = m'.cpu.registers)) := by
  cases he : e.isProgramFault with
  | true =>
    obtain ⟨rfl, -⟩ := execute_onDevices_of_fault h he m.keypad m.screen.panel
    exact ⟨rfl, fun _ => ⟨rfl, fun keypad panel =>
      (execute_onDevices_of_fault h he keypad panel).2⟩, nofun⟩
  | false =>
    obtain ⟨hw, ⟨-, rfl, -⟩ | ⟨op, hop, hp⟩⟩ := execute_eq_error h
    · cases he
    have hcoded := Instruction.operation?_eq_some_iff.1 hop
    cases perform_eq_error_iff.1 hp with
    | overflow | underflow | outside => cases he
    | @unheard _ hasks io keypad hpoll =>
      refine ⟨rfl, nofun, fun _ => ⟨io, rfl, Or.inl ⟨hcoded.of_asksKeypad hasks, ?_, ?_⟩⟩⟩
      · rw [hpoll]
      · rw [hpoll]
    | @unshown _ m₁ hpainted io panel hpresent =>
      rcases painted?_eq_some hpainted with ⟨rfl, rfl⟩ | ⟨x, y, height, rfl, hd⟩
      · refine ⟨rfl, nofun, fun _ => ⟨io, rfl, Or.inr ⟨?_, rfl, ?_, fun keypad panel => ?_⟩⟩⟩
        · exact congrArg Prod.fst hpresent
        · exact Or.inl ⟨hcoded.1, hcoded.2, rfl⟩
        · exact execute_onDevices_of_painted? hw hop hpainted keypad
      · obtain ⟨hgroup, rfl, rfl, rfl⟩ := hcoded
        refine ⟨?_, nofun, fun _ => ⟨io, rfl, Or.inr ⟨?_, ?_, ?_, fun keypad panel => ?_⟩⟩⟩
        · simp only [shown]
          rw [hd.rest]
        · rw [← hd.panel_eq]
          exact congrArg Prod.fst hpresent
        · simp only [shown]
          rw [hd.rest]
        · exact Or.inr ⟨hgroup, hd.register, hd.flag⟩
        · exact execute_onDevices_of_painted? hw hop hpainted keypad

/-- The digit 0, drawn twice on a panel that refuses the second frame. -/
theorem execute_error_frame_of_second_drawing :
    let broken : IoError := .device "display broken"
    let panel : FaultyPanel NoPanel := { inner := NoPanel.mk, failures := [2], error := broken }
    let ins : Instruction := ⟨0xD0, 0x15⟩
    let m := ((switchedOn (⟨[]⟩ : ScriptedKeypad) panel).execute ins).2
    let m' := (m.execute ins).2
    m.execute ins = (.error (.io broken), m') ∧ m'.cpu.pc = m.cpu.pc ∧
      m'.register flagRegister = 1 ∧
      ∃ done, (m.onDevices m.keypad NoPanel.mk).execute ins = (.ok .executed, done) ∧
        done.screen.frame = m'.screen.frame := by
  intro broken panel ins m m'
  obtain ⟨m₁, hp, hd⟩ := m.exists_isDrawing 0 1 5 (by decide +kernel)
  have hpresent : Panel.present m₁.screen.panel m₁.screen.frame =
      (.error broken, { m.screen.panel with count := 2 }) := by
    have hcount : m.screen.panel.count = 1 := by decide +kernel
    have hfailures : m.screen.panel.failures = [2] := by decide +kernel
    have herror : m.screen.panel.error = broken := by decide +kernel
    simp [hd.panel_eq, Panel.present, hcount, hfailures, herror]
  have hop : ins.operation? = some (.draw 0 1 5) := by decide
  have hfails := execute_of_painted?_error (by decide +kernel) hop hp hpresent
  have hrun : m.execute ins = (.error (.io broken), m') := Prod.ext (by rw [hfails]) rfl
  obtain ⟨hframe, -, hdevice⟩ := execute_error_frame hrun
  obtain ⟨io, -, ⟨⟨hgroup, -⟩ | ⟨hgroup, -⟩, -⟩ | ⟨-, -, hleft, hdone⟩⟩ := hdevice rfl
  · exact absurd hgroup (by decide)
  · exact absurd hgroup (by decide)
  · refine ⟨hrun, by rw [hframe], ?_, ?_⟩
    · rcases hleft with ⟨hgroup, -⟩ | ⟨-, -, hflag⟩
      · exact absurd hgroup (by decide)
      · exact hflag.trans (by decide +kernel)
    · obtain ⟨done, hexecute, hsame, -⟩ := hdone m.keypad NoPanel.mk rfl
      exact ⟨done, hexecute, hsame⟩

end OnDevices

end Machine

end Chip8
