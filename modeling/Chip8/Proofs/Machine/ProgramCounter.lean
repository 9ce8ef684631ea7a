import Chip8.Proofs.Machine.Calls
import Chip8.Proofs.Machine.Failure
import Chip8.Proofs.Words

set_option relaxedAutoImplicit false
set_option autoImplicit false

/-!
# Where the program counter goes

Which words mean nothing, and where an instruction that is executed goes: to a target, back to a
return address, past the next instruction, or on to it. Two words that ask for opposite conditions
never agree.

## Main definitions

* `Chip8.Machine.keyDown` — the key that the keypad has when it is asked.
* `Chip8.Machine.course` — where the program counter goes after an operation.
* `Chip8.Machine.Skips` — the words that skip the next instruction.
* `Chip8.Machine.MovesTo` — where the program counter goes after a word.
* `Chip8.Instruction.Opposed`, `Chip8.Machine.GoOpposite` — two words that ask for opposite
  conditions, and two words that go opposite ways.

## Main results

* `Chip8.Machine.course_of_perform` — an operation that succeeds takes its course.
* `Chip8.Machine.execute_unknown_iff` — the words that mean nothing are unknown, and no others.
* `Chip8.Machine.movesTo_of_execute` — where the program counter goes after a word.
* `Chip8.Machine.goOpposite_of_opposed` — opposite conditions lead opposite ways.
* `Chip8.Machine.execute_dispatch` — which words are refused, and where the others go.
-/

namespace Chip8

/-- Two words that ask for opposite conditions on the same operands. -/
inductive Instruction.Opposed (ins ins' : Instruction) : Prop
  /-- A register and a byte. -/
  | byte (hgroup : ins.group = 0x3) (hgroup' : ins'.group = 0x4) (hx : ins'.x = ins.x)
    (hnn : ins'.nn = ins.nn)
  /-- Two registers. -/
  | registers (hgroup : ins.group = 0x5) (hgroup' : ins'.group = 0x9) (hn : ins.n = 0x0)
    (hn' : ins'.n = 0x0) (hx : ins'.x = ins.x) (hy : ins'.y = ins.y)
  /-- A register and the key that is down. -/
  | key (hgroup : ins.group = 0xE) (hgroup' : ins'.group = 0xE) (hnn : ins.nn = 0x9E)
    (hnn' : ins'.nn = 0xA1) (hx : ins'.x = ins.x)

namespace Machine

variable {κ δ : Type}

/-- Whether a word skips the next instruction, if `key` is down. -/
def Skips (m : Machine κ δ) (ins : Instruction) (key : Option UInt8) : Prop :=
  ins.group = 0x3 ∧ m.register ins.x = ins.nn ∨
    ins.group = 0x4 ∧ m.register ins.x ≠ ins.nn ∨
    ins.group = 0x5 ∧ m.register ins.x = m.register ins.y ∨
    ins.group = 0x9 ∧ m.register ins.x ≠ m.register ins.y ∨
    ins.group = 0xE ∧ ins.nn = 0x9E ∧ key = some (m.register ins.x) ∨
    ins.group = 0xE ∧ ins.nn = 0xA1 ∧ key ≠ some (m.register ins.x)

instance (m : Machine κ δ) (ins : Instruction) (key : Option UInt8) :
    Decidable (m.Skips ins key) :=
  inferInstanceAs (Decidable (_ ∨ _ ∨ _ ∨ _ ∨ _ ∨ _))

/-- Where the program counter goes after an operation that succeeds, if `key` is down. -/
def course (m : Machine κ δ) (key : Option UInt8) : Operation → Advance
  | .jump target | .call target => .jump target
  | .ret => .jump (m.live.getLast?.getD 0)
  | .jumpOffset base => .jump (base + (m.register 0).toUInt16)
  | .skipEqual x byte => .skipIf (m.register x == byte)
  | .skipNotEqual x byte => .skipIf (m.register x != byte)
  | .skipSame x y => .skipIf (m.register x == m.register y)
  | .skipDifferent x y => .skipIf (m.register x != m.register y)
  | .skipKeyDown x => .skipIf (key == some (m.register x))
  | .skipKeyUp x => .skipIf (key != some (m.register x))
  | .awaitKey _ => if key.isSome then .next else .wait
  | .clearScreen | .load .. | .addByte .. | .alu .. | .setIndex _ | .random .. | .draw ..
  | .readDelay _ | .setDelay _ | .setSound _ | .addIndex _ | .glyph _ | .storeDecimal _
  | .save _ | .restore _ => .next

/-- A word skips exactly if its operation does. -/
theorem skips_iff {ins : Instruction} {op : Operation} (hcoded : op.Coded ins)
    (m : Machine κ δ) (key : Option UInt8) :
    m.Skips ins key ↔ m.course key op = .skipIf true := by
  cases op <;> simp only [Operation.Coded] at hcoded
  case awaitKey => cases key <;> simp [Skips, course, hcoded]
  all_goals simp [Skips, course, hcoded]

/-- A frame that is shown goes on to the next instruction. -/
theorem eq_next_of_showFrame [Panel δ] {m m₁ : Machine κ δ} {a : Advance}
    (h : m.showFrame = (.ok a, m₁)) : a = .next := by
  rcases hp : Panel.present m.screen.panel m.screen.frame with ⟨e | _, panel⟩
  · rw [showFrame_of_error hp] at h
    cases h
  · rw [showFrame_of_ok hp] at h
    cases h
    rfl

/-- A write that is done goes on to the next instruction. -/
theorem eq_next_of_replaceMemory {m m₁ : Machine κ δ} {a : Advance}
    {written : Except Error Memory} (h : m.replaceMemory written = (.ok a, m₁)) : a = .next := by
  cases written with
  | error => cases h
  | ok =>
    cases h
    rfl

variable [Keypad κ]

/-- The key that the keypad has when it is asked, if it has one. -/
def keyDown (m : Machine κ δ) : Option UInt8 :=
  match (Keypad.poll m.keypad).1 with
  | .ok key => key
  | .error _ => none

variable [Panel δ] {m m₁ m' : Machine κ δ} {ins ins' : Instruction} {op op' : Operation}
  {a : Advance} {step : Step}

/-- An operation that succeeds takes its course. -/
theorem course_of_perform (h : m.perform op = (.ok a, m₁)) : a = m.course m.keyDown op := by
  cases op
  case clearScreen => exact eq_next_of_showFrame h
  case draw x y height =>
    simp only [perform, drawSprite] at h
    split at h
    · cases h
    · exact eq_next_of_showFrame h
  case ret =>
    simp only [perform, ret] at h
    split at h
    · cases h
    · rename_i target stack hpop
      cases h
      have hlive : m.live = stack.live ++ [target] := CallStack.live_of_pop? hpop
      simp [course, hlive]
  case call =>
    simp only [perform, call] at h
    split at h <;> cases h
    rfl
  case skipKeyDown | skipKeyUp =>
    obtain ⟨key, keypad, hpoll, rfl, -⟩ := skipOnKey_eq_ok h
    simp only [course, keyDown, hpoll]
  case awaitKey =>
    obtain ⟨keypad, hpoll, rfl, -⟩ | ⟨key, keypad, hpoll, rfl, -⟩ := awaitKey_eq_ok h
    all_goals simp [course, keyDown, hpoll]
  case storeDecimal | save => exact eq_next_of_replaceMemory h
  case restore =>
    simp only [perform, restore] at h
    split at h <;> cases h
    rfl
  all_goals
    cases h
    rfl

/-- No operation moves the program counter by itself. -/
theorem pc_perform (m : Machine κ δ) (op : Operation) :
    (m.perform op).2.cpu.pc = m.cpu.pc := by
  have hpc : Part.pc ∉ op.parts := by cases op <;> simp [Operation.parts]
  exact m.same_perform hpc

/-- An instruction that succeeds has an operation, whose course the program counter takes. -/
theorem exists_course_of_execute (hw : m.isWaiting = false)
    (h : m.execute ins = (.ok step, m')) :
    ∃ op : Operation, op.Coded ins ∧
      m'.cpu.pc = (m.course m.keyDown op).target m.cpu.pc ∧
      (step = .waiting ↔ m.course m.keyDown op = .wait) := by
  obtain ⟨-, op, a, m₁, hop, hp, ha⟩ := (execute_eq_ok h).resolve_left (by simp [hw])
  refine ⟨op, Instruction.operation?_eq_some_iff.1 hop, ?_⟩
  have hpc := m.pc_perform op
  have hmoved := m₁.advance_snd a
  have hstep := m₁.advance_fst_eq_waiting_iff (a := a)
  rw [hp] at hpc
  rw [ha] at hmoved hstep
  rw [← course_of_perform hp]
  exact ⟨by rw [← hpc]; exact congrArg (·.cpu.pc) hmoved, hstep⟩

/-! ## Words that mean nothing -/

/-- An operation fails in other ways than an unknown word does. -/
theorem Refuses.ne_unknownOpcode {e : Error} {w : UInt16} (h : m.Refuses op e m') :
    e ≠ .unknownOpcode w := by
  cases h <;> nofun

/-- The words that match no pattern are unknown, and no others. -/
theorem execute_unknown_iff (hw : m.isWaiting = false) (w : UInt16) :
    (m.execute (.ofWord w)).1 = .error (.unknownOpcode w) ↔
      ∀ p ∈ wordPatterns, ¬ p.Matches w := by
  rw [← Instruction.operation?_ofWord_eq_none_iff]
  constructor
  · intro h
    obtain ⟨-, ⟨hop, -, -⟩ | ⟨op, -, hp⟩⟩ := execute_eq_error (Prod.ext h rfl)
    · exact hop
    · exact absurd rfl (refuses_of_perform hp).ne_unknownOpcode
  · intro hop
    simp [execute, hw, hop, Instruction.word_ofWord]

/-! ## Where a word leads -/

/-- Where the program counter goes after a word that is executed. -/
structure MovesTo (m : Machine κ δ) (ins : Instruction) (m' : Machine κ δ) : Prop where
  /-- To the address in the word. -/
  jump : ins.group = 0x1 ∨ ins.group = 0x2 → m'.cpu.pc = ins.nnn
  /-- To the address in the word plus the first register, which is always an address. -/
  offset : ins.group = 0xB → m'.cpu.pc.toNat = ins.nnn.toNat + (m.register 0).toNat
  /-- To the newest return address, which is taken off. -/
  ret : ins.group = 0x0 ∧ ins.nn = 0xEE → m.live = m'.live ++ [m'.cpu.pc]
  /-- Past the next instruction. -/
  skip : m.Skips ins m.keyDown → m'.cpu.pc = m.cpu.pc + 4
  /-- To the next instruction. -/
  next : ins.group ∉ [0x1, 0x2, 0xB] → ¬ (ins.group = 0x0 ∧ ins.nn = 0xEE) →
    ¬ m.Skips ins m.keyDown → m'.cpu.pc = m.cpu.pc + 2

theorem movesTo_of_execute (h : m.execute ins = (.ok .executed, m')) : m.MovesTo ins m' := by
  have hok : (m.execute ins).1 = .ok .executed := by rw [h]
  obtain ⟨op, hcoded, hpc, hstep⟩ := exists_course_of_execute (isWaiting_of_executed hok) h
  have hunique {op' : Operation} (hcoded' : op'.Coded ins) : op' = op := by
    have hop' := Instruction.operation?_eq_some_iff.2 hcoded'
    exact Option.some.inj (hop'.symm.trans (Instruction.operation?_eq_some_iff.2 hcoded))
  constructor
  case jump =>
    rintro (hgroup | hgroup)
    · have hjump : .jump ins.nnn = op := hunique ⟨hgroup, rfl⟩
      rw [hpc, ← hjump]
      rfl
    · have hcall : .call ins.nnn = op := hunique ⟨hgroup, rfl⟩
      rw [hpc, ← hcall]
      rfl
  case offset =>
    intro hgroup
    have hjump : .jumpOffset ins.nnn = op := hunique ⟨hgroup, rfl⟩
    rw [hpc, ← hjump]
    have hx := ins.x.isLt
    have hnn := ins.nn.toNat_lt
    have hv := (m.register 0).toNat_lt
    have hsum := UInt16.toNat_add ins.nnn (m.register 0).toUInt16
    rw [UInt8.toNat_toUInt16] at hsum
    have hnnn := ins.toNat_nnn
    simp only [course, Advance.target]
    omega
  case ret =>
    rintro ⟨hgroup, hbyte⟩
    have hlive := Returns.live_after (m := m) (a := .execute ins) ⟨hgroup, hbyte, hok⟩
    simpa only [after, h] using hlive
  case skip =>
    intro hskips
    rw [hpc, (skips_iff hcoded m m.keyDown).1 hskips]
    rfl
  case next =>
    intro hgroup hret hskips
    rw [skips_iff hcoded] at hskips
    have hwait : m.course m.keyDown op ≠ .wait := by
      intro hwait
      cases hstep.2 hwait
    rw [hpc]
    cases hcourse : m.course m.keyDown op with
    | next => rfl
    | skipIf condition =>
      cases condition with
      | false => rfl
      | true => exact absurd hcourse hskips
    | wait => exact absurd hcourse hwait
    | jump target =>
      -- the four operations that jump are those of the other fields
      exfalso
      cases op
      case jump | call | jumpOffset => exact hgroup (by simp [hcoded.1])
      case ret => exact hret hcoded
      case awaitKey =>
        simp only [course] at hcourse
        split at hcourse <;> cases hcourse
      all_goals cases hcourse

/-! ## Words that ask for opposite conditions -/

/-- A condition that is found makes an instruction lead past the next one, or on to it. -/
theorem execute_of_perform_skipIf {condition : Bool} (hw : m.isWaiting = false)
    (hop : ins.operation? = some op) (hp : m.perform op = (.ok (.skipIf condition), m₁)) :
    (m.execute ins).1 = .ok .executed ∧
      (m.execute ins).2.cpu.pc = if condition then m.cpu.pc + 4 else m.cpu.pc + 2 := by
  have hpc := m.pc_perform op
  rw [hp] at hpc
  rw [execute_of_perform_ok hw hop hp, ← hpc]
  cases condition <;> exact ⟨rfl, rfl⟩

/-- Two words go opposite ways: one past the next instruction and the other on to it. -/
def GoOpposite (m : Machine κ δ) (ins ins' : Instruction) : Prop :=
  (m.execute ins).1 = .ok .executed ∧ (m.execute ins').1 = .ok .executed ∧
    ((m.execute ins).2.cpu.pc = m.cpu.pc + 4 ∧ (m.execute ins').2.cpu.pc = m.cpu.pc + 2 ∨
      (m.execute ins).2.cpu.pc = m.cpu.pc + 2 ∧ (m.execute ins').2.cpu.pc = m.cpu.pc + 4)

theorem goOpposite_of_perform {condition : Bool} (hw : m.isWaiting = false)
    (hcoded : op.Coded ins) (hcoded' : op'.Coded ins')
    (hp : m.perform op = (.ok (.skipIf condition), m₁))
    (hp' : m.perform op' = (.ok (.skipIf (!condition)), m')) : m.GoOpposite ins ins' := by
  have hop := Instruction.operation?_eq_some_iff.2 hcoded
  have hop' := Instruction.operation?_eq_some_iff.2 hcoded'
  obtain ⟨hok, hpc⟩ := execute_of_perform_skipIf hw hop hp
  obtain ⟨hok', hpc'⟩ := execute_of_perform_skipIf hw hop' hp'
  refine ⟨hok, hok', ?_⟩
  cases condition with
  | false => exact Or.inr ⟨hpc, hpc'⟩
  | true => exact Or.inl ⟨hpc, hpc'⟩

/-- Words that ask for opposite conditions go opposite ways, unless they ask a keypad that
fails. -/
theorem goOpposite_of_opposed (hw : m.isWaiting = false) (h : ins.Opposed ins') :
    m.GoOpposite ins ins' ∨ ∃ e, ins.group = 0xE ∧ (Keypad.poll m.keypad).1 = .error e ∧
      (m.execute ins).1 = .error (.io e) ∧ (m.execute ins').1 = .error (.io e) := by
  cases h with
  | byte hgroup hgroup' hx hnn =>
    have hcoded : Operation.Coded ins (.skipEqual ins.x ins.nn) := ⟨hgroup, rfl, rfl⟩
    have hcoded' : Operation.Coded ins' (.skipNotEqual ins.x ins.nn) := ⟨hgroup', hx, hnn⟩
    exact Or.inl (goOpposite_of_perform hw hcoded hcoded' rfl rfl)
  | registers hgroup hgroup' hn hn' hx hy =>
    have hcoded : Operation.Coded ins (.skipSame ins.x ins.y) := ⟨hgroup, hn, rfl, rfl⟩
    have hcoded' : Operation.Coded ins' (.skipDifferent ins.x ins.y) := ⟨hgroup', hn', hx, hy⟩
    exact Or.inl (goOpposite_of_perform hw hcoded hcoded' rfl rfl)
  | key hgroup hgroup' hnn hnn' hx =>
    have hdown : Operation.Coded ins (.skipKeyDown ins.x) := ⟨hgroup, hnn, rfl⟩
    have hup : Operation.Coded ins' (.skipKeyUp ins.x) := ⟨hgroup', hnn', hx⟩
    rcases hpoll : Keypad.poll m.keypad with ⟨e | key, keypad⟩
    · right
      have hop := Instruction.operation?_eq_some_iff.2 hdown
      have hop' := Instruction.operation?_eq_some_iff.2 hup
      have hp : m.perform (.skipKeyDown ins.x) = (.error (.io e), { m with keypad }) :=
        Refuses.perform_eq (.unheard rfl hpoll)
      have hp' : m.perform (.skipKeyUp ins.x) = (.error (.io e), { m with keypad }) :=
        Refuses.perform_eq (.unheard rfl hpoll)
      refine ⟨e, hgroup, rfl, ?_, ?_⟩
      · rw [execute_of_perform_error hw hop hp]
      · rw [execute_of_perform_error hw hop' hp']
    · left
      have hp : m.perform (.skipKeyDown ins.x) =
          (.ok (.skipIf (key == some (m.register ins.x))), { m with keypad }) := by
        simp only [perform, skipOnKey, poll_of_ok hpoll]
      have hp' : m.perform (.skipKeyUp ins.x) =
          (.ok (.skipIf (key != some (m.register ins.x))), { m with keypad }) := by
        simp only [perform, skipOnKey, poll_of_ok hpoll]
      exact goOpposite_of_perform hw hdown hup hp hp'

/-! ## All words -/

/-- **Which words are refused, and where the others lead.** A machine that does not wait refuses
exactly the words that match no pattern. After a word that is executed the program counter is
where `MovesTo` says, and after one that begins a wait it stays. Words that ask for opposite
conditions lead opposite ways, unless both ask a keypad that fails. -/
theorem execute_dispatch (m : Machine κ δ) (hw : m.isWaiting = false) :
    (∀ w, (m.execute (.ofWord w)).1 = .error (.unknownOpcode w) ↔
      ∀ p ∈ wordPatterns, ¬ p.Matches w) ∧
    (∀ ins m', m.execute ins = (.ok .executed, m') → m.MovesTo ins m') ∧
    (∀ ins m', m.execute ins = (.ok .waiting, m') → m'.cpu.pc = m.cpu.pc) ∧
    ∀ ins ins', ins.Opposed ins' → m.GoOpposite ins ins' ∨
      ∃ e, ins.group = 0xE ∧ (Keypad.poll m.keypad).1 = .error e ∧
        (m.execute ins).1 = .error (.io e) ∧ (m.execute ins').1 = .error (.io e) := by
  refine ⟨execute_unknown_iff hw, fun ins m' => movesTo_of_execute, ?_,
    fun ins ins' => goOpposite_of_opposed hw⟩
  intro ins m' h
  obtain ⟨op, -, hpc, hstep⟩ := exists_course_of_execute hw h
  rw [hpc, hstep.1 rfl]
  rfl

/-- A word with a free digit too many is refused; of the two words that ask for a key, the one that
finds it down skips and the other one does not. -/
theorem execute_dispatch_of_key :
    let m := switchedOn (⟨[some 0]⟩ : ScriptedKeypad) NoPanel.mk
    m.isWaiting = false ∧ (m.execute (.ofWord 0x5121)).1 = .error (.unknownOpcode 0x5121) ∧
      (m.execute ⟨0xE3, 0x9E⟩).2.cpu.pc = 0x204 ∧ (m.execute ⟨0xE3, 0xA1⟩).2.cpu.pc = 0x202 := by
  intro m
  obtain ⟨hunknown, hmoves, -, -⟩ := execute_dispatch m rfl
  refine ⟨rfl, (hunknown 0x5121).2 (by decide), ?_, ?_⟩
  · exact (hmoves ⟨0xE3, 0x9E⟩ _ rfl).skip (by decide)
  · exact (hmoves ⟨0xE3, 0xA1⟩ _ rfl).next (by decide) (by decide) (by decide)

end Machine

end Chip8
