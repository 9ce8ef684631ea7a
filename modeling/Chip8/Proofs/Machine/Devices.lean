import Chip8.Proofs.Machine.Effects
import Chip8.Proofs.Machine.Failure

set_option relaxedAutoImplicit false
set_option autoImplicit false

/-!
# Devices behind devices

A keypad may pass the questions it is asked on to another keypad, and a panel may show its frames as
another panel does. A machine then does what it would do with the devices behind: the same answers,
the same errors, and at the end the devices behind are where they would be. A device need not pass
everything on; only what it is asked and told counts.

## Main definitions

* `Chip8.Keypad.Relays`, `Chip8.Panel.Relays` — a device answers as the one behind it does.
* `Chip8.Machine.through` — the machine with the devices behind.

## Main results

* `Chip8.Machine.perform_through`, `Chip8.Machine.execute_through` — operations and instructions.
* `Chip8.Machine.execute_of_unheard` — what an instruction does if the keypad fails.
-/

namespace Chip8

/-- The keypad answers as the one behind it does, which is then behind what it becomes. -/
def Keypad.Relays {κ κ' : Type} [Keypad κ] [Keypad κ'] (behind : κ → κ') (k : κ) : Prop :=
  Keypad.poll (behind k) = ((Keypad.poll k).1, behind (Keypad.poll k).2)

/-- The panel answers to a frame as the one behind it does, which is then behind what it becomes. -/
def Panel.Relays {δ δ' : Type} [Panel δ] [Panel δ'] (behind : δ → δ') (panel : δ)
    (frame : Frame) : Prop :=
  Panel.present (behind panel) frame =
    ((Panel.present panel frame).1, behind (Panel.present panel frame).2)

/-- An instruction that asks the keypad is one of the operations that do. -/
theorem Instruction.AsksKeypad.exists_operation {ins : Instruction} (h : ins.AsksKeypad) :
    ∃ op, ins.operation? = some op ∧ op.asksKeypad = true := by
  rcases h with ⟨hgroup, hbyte | hbyte⟩ | ⟨hgroup, hbyte⟩
  · exact ⟨.skipKeyDown ins.x, operation?_eq_some_iff.2 ⟨hgroup, hbyte, rfl⟩, rfl⟩
  · exact ⟨.skipKeyUp ins.x, operation?_eq_some_iff.2 ⟨hgroup, hbyte, rfl⟩, rfl⟩
  · exact ⟨.awaitKey ins.x, operation?_eq_some_iff.2 ⟨hgroup, hbyte, rfl⟩, rfl⟩

namespace Machine

variable {κ δ κ' δ' : Type} {f : κ → κ'} {g : δ → δ'} {m : Machine κ δ}

/-- The machine with the devices behind its own. -/
def through (f : κ → κ') (g : δ → δ') (m : Machine κ δ) : Machine κ' δ' :=
  m.onDevices (f m.keypad) (g m.screen.panel)

theorem advance_through (a : Advance) :
    (m.through f g).advance a = ((m.advance a).1, (m.advance a).2.through f g) := by
  cases a with
  | skipIf condition => cases condition <;> rfl
  | next | jump | wait => rfl

theorem replaceMemory_through (written : Except Error Memory) :
    (m.through f g).replaceMemory written =
      ((m.replaceMemory written).1, (m.replaceMemory written).2.through f g) := by
  cases written <;> rfl

/-- What an operation paints depends on no device, and changes none. -/
theorem painted?_through (op : Operation) :
    (m.through f g).painted? op = (m.painted? op).map (through f g) := by
  rw [through, painted?_onDevices]
  cases hp : m.painted? op with
  | none => rfl
  | some m₁ =>
    obtain ⟨hkeypad, hpanel⟩ : m₁.keypad = m.keypad ∧ m₁.screen.panel = m.screen.panel := by
      rcases painted?_eq_some hp with ⟨-, rfl⟩ | ⟨x, y, height, -, hd⟩
      · exact ⟨rfl, rfl⟩
      · exact ⟨by rw [hd.rest], hd.panel_eq⟩
    simp only [Option.map_some, through, hkeypad, hpanel]

variable [Keypad κ] [Panel δ] [Keypad κ'] [Panel δ']

omit [Panel δ] [Panel δ'] in
theorem poll_through (hf : Keypad.Relays f m.keypad) :
    (m.through f g).poll = (m.poll.1, m.poll.2.through f g) := by
  simp only [poll, through, onDevices]
  rw [hf]

omit [Keypad κ] [Keypad κ'] in
theorem showFrame_through (hg : Panel.Relays g m.screen.panel m.screen.frame) :
    (m.through f g).showFrame = (m.showFrame.1, m.showFrame.2.through f g) := by
  simp only [showFrame, Screen.flush, through, onDevices]
  rw [hg]

/-- An operation asks and tells the devices behind what it asks and tells those in front. -/
theorem perform_through {op : Operation}
    (hf : op.asksKeypad = true → Keypad.Relays f m.keypad)
    (hg : ∀ m₁, m.painted? op = some m₁ → Panel.Relays g m₁.screen.panel m₁.screen.frame) :
    (m.through f g).perform op = ((m.perform op).1, (m.perform op).2.through f g) := by
  cases hp : m.painted? op with
  | some m₁ =>
    have hp' : (m.through f g).painted? op = some (m₁.through f g) := by
      rw [painted?_through, hp, Option.map_some]
    rw [perform_of_painted? hp', perform_of_painted? hp, showFrame_through (hg m₁ hp)]
  | none =>
    cases op
    case clearScreen => cases hp
    case draw x y height =>
      have hread : (m.through f g).memory.read (m.through f g).cpu.index height.val =
        m.memory.read m.cpu.index height.val := rfl
      cases hsprite : m.memory.read m.cpu.index height.val with
      | error e => simp only [perform, drawSprite, hread, hsprite]
      | ok sprite => simp only [painted?, hsprite, reduceCtorEq] at hp
    case ret =>
      simp only [perform, ret, through, onDevices]
      cases m.cpu.stack.pop? with
      | none => rfl
      | some popped => rfl
    case call target =>
      simp only [perform, call, through, onDevices]
      cases m.cpu.stack.push? (m.cpu.pc + Instruction.width) with
      | none => rfl
      | some stack => rfl
    case alu op x y =>
      have hx : (m.through f g).register x = m.register x := rfl
      have hy : (m.through f g).register y = m.register y := rfl
      simp only [perform, hx, hy]
      rcases op.apply (m.register x) (m.register y) with ⟨v, _ | flag⟩
      · rfl
      · rfl
    case skipKeyDown | skipKeyUp =>
      simp only [perform, skipOnKey]
      rw [poll_through (hf rfl)]
      rcases m.poll with ⟨_ | _, _⟩
      · rfl
      · rfl
    case awaitKey x =>
      simp only [perform, awaitKey]
      rw [poll_through (hf rfl)]
      rcases m.poll with ⟨_ | _ | _, _⟩
      · rfl
      · rfl
      · rfl
    case storeDecimal | save => exact replaceMemory_through _
    case restore x =>
      simp only [perform, restore, through, onDevices]
      split
      · rfl
      · rfl
    all_goals rfl

/-- An instruction asks and tells the devices behind what it asks and tells those in front. -/
theorem execute_through {ins : Instruction}
    (hf : ins.AsksKeypad → Keypad.Relays f m.keypad)
    (hg : ∀ op m₁, ins.operation? = some op → m.painted? op = some m₁ →
      Panel.Relays g m₁.screen.panel m₁.screen.frame) :
    (m.through f g).execute ins = ((m.execute ins).1, (m.execute ins).2.through f g) := by
  have hwaiting : (m.through f g).isWaiting = m.isWaiting := rfl
  cases hw : m.isWaiting with
  | true => rw [execute_of_isWaiting hw, execute_of_isWaiting (hwaiting.trans hw)]
  | false =>
    simp only [execute, hwaiting, hw, Bool.false_eq_true, if_false]
    cases hop : ins.operation? with
    | none => rfl
    | some op =>
      have hcoded := Instruction.operation?_eq_some_iff.1 hop
      have hp := perform_through (fun hasks => hf (hcoded.of_asksKeypad hasks)) (hg op · hop)
      rcases hm : m.perform op with ⟨e | a, m₁⟩
      · simp only [hp, hm]
      · simp only [hp, hm, advance_through]

omit [Keypad κ'] [Panel δ'] in
/-- An instruction that asks the keypad fails as the keypad does. -/
theorem execute_of_unheard {ins : Instruction} {e : IoError} {keypad : κ}
    (hw : m.isWaiting = false) (hasks : ins.AsksKeypad)
    (hpoll : Keypad.poll m.keypad = (.error e, keypad)) :
    m.execute ins = (.error (.io e), { m with keypad }) := by
  obtain ⟨op, hop, hasks'⟩ := hasks.exists_operation
  exact execute_of_perform_error hw hop (Refuses.unheard hasks' hpoll).perform_eq

end Machine

end Chip8
