import Chip8.Proofs.Console.Moves
import Chip8.Proofs.Machine.Awaiting
import Chip8.Proofs.Timers

set_option relaxedAutoImplicit false
set_option autoImplicit false

/-!
# While a key is awaited

A console that waits for a key is at the instruction that asks for it, whatever happened before.
While it waits, steps ask the keypad and timers tick, and nothing else changes. Only a key ends the
wait, and it completes the instruction before anything else is executed.

## Main definitions

* `Chip8.Console.LoadsAwake` — no program is loaded while the machine waits.
* `Chip8.Console.Idles` — nothing happened but questions to the keypad and ticks.

## Main results

* `Chip8.Console.coherent_play` — a console that waits is at the instruction that asks for a key.
* `Chip8.Console.idles_or_key` — until a key comes, the console idles.
* `Chip8.Console.suspension_coherent` — both, and how the wait ends.
-/

namespace Chip8

namespace Console

variable {κ δ σ : Type}

/-- What a move does to the keypad while the machine waits: each step asks it once. -/
def Move.onKeypad [Keypad κ] (p : κ) : Move κ → κ
  | .step => (Keypad.poll p).2
  | .use used => used p
  | .beat | .load _ => p

/-- Whether a move is a tick of the timers. -/
def Move.isBeat : Move κ → Bool
  | .beat => true
  | .step | .load _ | .use _ => false

/-- After the moves the console differs from before at most in what the moves did to its keypad,
in the ticks of its timers, and in what these did to its speaker. -/
structure Idles [Keypad κ] (c : Console κ δ σ) (moves : List (Move κ)) (c' : Console κ δ σ) :
    Prop where
  /-- The processor is the same, and with it the wait. -/
  cpu : c'.machine.cpu = c.machine.cpu
  /-- Memory is the same. -/
  memory : c'.machine.memory = c.machine.memory
  /-- The screen is the same and was told nothing. -/
  screen : c'.machine.screen = c.machine.screen
  /-- No random byte was taken. -/
  random : c'.machine.random = c.machine.random
  /-- The keypad was asked once by each step. -/
  keypad : c'.machine.keypad = moves.foldl Move.onKeypad c.machine.keypad
  /-- Each timer counted down once for each tick, to zero at the lowest. -/
  timers : ∀ i, (c'.machine.timers.value i).toNat =
    (c.machine.timers.value i).toNat - moves.countP Move.isBeat
  /-- Nothing was written to the trace. -/
  trace : c'.trace = c.trace

variable [Keypad κ] [Panel δ] [Speaker σ] {c c' : Console κ δ σ} {moves : List (Move κ)}
  {mv : Move κ} {x : Fin 16}

/-- No program is loaded while the machine waits. -/
def LoadsAwake (c : Console κ δ σ) (moves : List (Move κ)) : Prop :=
  ∀ pre source, pre ++ [.load source] <+: moves → (c.play pre).machine.isWaiting = false

/-- The keypad has no key for any of the steps: it answers that there is none, or it fails. -/
def Silent (c : Console κ δ σ) (moves : List (Move κ)) : Prop :=
  ∀ pre key, pre ++ [.step] <+: moves →
    (Keypad.poll (c.play pre).machine.keypad).1 ≠ .ok (some key)

/-- A program that is loaded first, and no other, is loaded while the machine does not wait. -/
theorem loadsAwake_of_load_first (hw : c.machine.isWaiting = false) (source : Source)
    (hnone : ∀ source', .load source' ∉ moves) : c.LoadsAwake (.load source :: moves) := by
  intro pre source' hpre
  cases pre with
  | nil => exact hw
  | cons mv pre =>
    rw [List.cons_append, List.cons_prefix_cons] at hpre
    exact absurd (hpre.2.subset (by simp)) (hnone source')

/-! ## The instruction that asks -/

/-- A move keeps a console coherent, unless it loads a program while the machine waits. -/
theorem coherent_moved (h : c.machine.Coherent)
    (hload : ∀ source, mv = .load source → c.machine.isWaiting = false) :
    (c.moved mv).machine.Coherent := by
  cases mv with
  | step =>
    apply step_invariant
    · intro keypad
      exact h.congr rfl rfl rfl
    · intro m hm
      exact Machine.coherent_of_awaiting_eq_none hm.awaiting_eq
    · intro m ins hm hawake hfetch
      exact Machine.coherent_execute hawake hfetch
  | beat | use => exact h.congr rfl rfl rfl
  | load source =>
    apply Machine.coherent_of_awaiting_eq_none
    simp only [moved, cpu_loadProgram]
    exact Machine.isWaiting_eq_false_iff.1 (hload source rfl)

/-- Whatever happened before, a console that waits is at the instruction that asks for a key. -/
theorem coherent_play (h : c.machine.Coherent) (hload : c.LoadsAwake moves) :
    (c.play moves).machine.Coherent := by
  induction moves using List.reverseRecOn with
  | nil => exact h
  | append_singleton moves mv ih =>
    rw [play_concat]
    apply coherent_moved
    · exact ih fun pre source hpre => hload pre source (hpre.trans (List.prefix_append _ _))
    · rintro source rfl
      exact hload moves source (List.prefix_refl _)

/-! ## The wait -/

section Wait

variable (hx : c.machine.cpu.awaiting = some x)

include hx

omit [Speaker σ] in
/-- If the keypad fails, the step fails and the wait goes on. -/
theorem step_of_unheard {e : IoError} {keypad : κ}
    (hpoll : Keypad.poll c.machine.keypad = (.error e, keypad)) :
    c.step = (.error (.io e), c.onKeypad keypad) :=
  (Takes.unheard hx hpoll).step_eq

omit [Speaker σ] in
/-- If there is no key, the wait goes on. -/
theorem step_of_silent {keypad : κ}
    (hpoll : Keypad.poll c.machine.keypad = (.ok none, keypad)) :
    c.step = (.ok .waiting, c.onKeypad keypad) :=
  (Takes.silent hx hpoll).step_eq

omit [Speaker σ] in
/-- A key ends the wait, and then the step is that of the console as the key made it. -/
theorem step_of_key {key : UInt8} {keypad : κ}
    (hpoll : Keypad.poll c.machine.keypad = (.ok (some key), keypad)) :
    c.step = (c.onMachine (c.machine.resumed x key keypad)).step :=
  step_of_proceeds (.key hx hpoll)

omit [Speaker σ] in
/-- A step without a key does nothing but ask the keypad. -/
theorem step_snd_of_no_key
    (hkey : ∀ key, (Keypad.poll c.machine.keypad).1 ≠ .ok (some key)) :
    c.step.2 = c.onKeypad (Keypad.poll c.machine.keypad).2 := by
  rcases hpoll : Keypad.poll c.machine.keypad with ⟨e | _ | key, keypad⟩
  · rw [step_of_unheard hx hpoll]
  · rw [step_of_silent hx hpoll]
  · exact absurd (by rw [hpoll]) (hkey key)

/-- A console that idles goes on idling, unless a step finds a key or a program is loaded. -/
theorem Idles.moved (h : c.Idles moves c') (hload : ∀ source, mv ≠ .load source)
    (hkey : mv = .step → ∀ key, (Keypad.poll c'.machine.keypad).1 ≠ .ok (some key)) :
    c.Idles (moves ++ [mv]) (c'.moved mv) := by
  have hx' : c'.machine.cpu.awaiting = some x := by rw [h.cpu, hx]
  cases mv with
  | step =>
    rw [Console.moved, step_snd_of_no_key hx' (hkey rfl)]
    refine ⟨h.cpu, h.memory, h.screen, h.random, ?_, ?_, h.trace⟩
    · simp only [onKeypad, h.keypad, List.foldl_append, List.foldl_cons, List.foldl_nil,
        Move.onKeypad]
    · simpa [onKeypad, Move.isBeat] using h.timers
  | beat =>
    refine ⟨h.cpu, h.memory, h.screen, h.random, ?_, fun i => ?_, h.trace⟩
    · simpa [Console.moved, beat, Move.onKeypad] using h.keypad
    · have htick : ((c'.moved .beat).machine.timers.value i).toNat =
          (c'.machine.timers.value i).toNat - 1 := by
        cases i
        · exact Timers.toNat_countDown _
        · exact Timers.toNat_countDown _
      simp only [htick, h.timers i, List.countP_append, List.countP_singleton, Move.isBeat, if_true]
      omega
  | load source => exact absurd rfl (hload source)
  | use used =>
    refine ⟨h.cpu, h.memory, h.screen, h.random, ?_, ?_, h.trace⟩
    · simp [Console.moved, onKeypad, h.keypad, Move.onKeypad]
    · simpa [Console.moved, onKeypad, Move.isBeat] using h.timers

/-- Until a key comes, a console that waits idles.

**Proof sketch.** Induction on the moves from their end: the last one is a step that finds a key,
or the console goes on idling. -/
theorem idles_or_key (hload : ∀ source, .load source ∉ moves) :
    c.Idles moves (c.play moves) ∨
      ∃ pre key keypad, pre ++ [.step] <+: moves ∧ c.Idles pre (c.play pre) ∧
        Keypad.poll (c.play pre).machine.keypad = (.ok (some key), keypad) := by
  induction moves using List.reverseRecOn with
  | nil => exact .inl ⟨rfl, rfl, rfl, rfl, rfl, fun _ => rfl, rfl⟩
  | append_singleton moves mv ih =>
    have hbefore := ih fun source hmem => hload source (List.mem_append_left _ hmem)
    rcases hbefore with hidles | ⟨pre, key, keypad, hpre, hidles, hpoll⟩
    · by_cases hfound : mv = .step ∧
          ∃ key, (Keypad.poll (c.play moves).machine.keypad).1 = .ok (some key)
      · obtain ⟨rfl, key, hkey⟩ := hfound
        exact .inr ⟨moves, key, _, List.prefix_refl _, hidles, Prod.ext hkey rfl⟩
      · left
        rw [play_concat]
        apply hidles.moved hx
        · rintro source rfl
          exact hload source (by simp)
        · intro hmv key hkey
          exact hfound ⟨hmv, key, hkey⟩
    · exact .inr ⟨pre, key, keypad, hpre.trans (List.prefix_append _ _), hidles, hpoll⟩

end Wait

/-- **A wait for a key is coherent, changes nothing, and ends by a key alone.** Let no program be
loaded while the machine waits. Then a console that waits for a key is at the instruction that asks
for it, for the register that this names. As long as the keypad has no key or fails, the console
idles: each step asks the keypad once, the timers count down with each tick, and nothing else
changes. It idles until a step finds a key: that puts the key into the register and moves the
program counter on, and only then an instruction is taken. A step that finds no key tells that the
console waits, or how the keypad failed. -/
theorem suspension_coherent {c₀ : Console κ δ σ} (hw : c₀.machine.isWaiting = false)
    (hload : c₀.LoadsAwake moves) (hx : (c₀.play moves).machine.cpu.awaiting = some x) :
    let c := c₀.play moves
    let completed (c : Console κ δ σ) (key : UInt8) (keypad : κ) := c.onMachine { c.machine with
      keypad
      cpu := { c.machine.cpu with
        registers := c.machine.cpu.registers.set x key
        pc := c.machine.cpu.pc + 2
        awaiting := none } }
    (∃ ins, c.machine.fetch = .ok ins ∧ ins.group = 0xF ∧ ins.nn = 0x0A ∧ ins.x = x) ∧
    (∀ later, (∀ source, .load source ∉ later) → c.Silent later →
      c.Idles later (c.play later)) ∧
    (∀ later, (∀ source, .load source ∉ later) → c.Idles later (c.play later) ∨
      ∃ pre key keypad, pre ++ [.step] <+: later ∧ c.Idles pre (c.play pre) ∧
        Keypad.poll (c.play pre).machine.keypad = (.ok (some key), keypad) ∧
        (c.play pre).step = (completed (c.play pre) key keypad).step) ∧
    match Keypad.poll c.machine.keypad with
    | (.error e, keypad) => c.step = (.error (.io e), c.onKeypad keypad)
    | (.ok none, keypad) => c.step = (.ok .waiting, c.onKeypad keypad)
    | (.ok (some key), keypad) => c.step = (completed c key keypad).step := by
  intro c completed
  have hcoherent : c.machine.Coherent :=
    coherent_play (Machine.coherent_of_awaiting_eq_none (Machine.isWaiting_eq_false_iff.1 hw)) hload
  refine ⟨hcoherent x hx, ?_, ?_, ?_⟩
  · intro later hnone hsilent
    rcases idles_or_key hx hnone with hidles | ⟨pre, key, keypad, hpre, -, hpoll⟩
    · exact hidles
    · exact absurd (congrArg Prod.fst hpoll) (hsilent pre key hpre)
  · intro later hnone
    rcases idles_or_key hx hnone with hidles | ⟨pre, key, keypad, hpre, hidles, hpoll⟩
    · exact .inl hidles
    · have hwaits : (c.play pre).machine.cpu.awaiting = some x := by
        rw [hidles.cpu]
        exact hx
      exact .inr ⟨pre, key, keypad, hpre, hidles, hpoll, step_of_key hwaits hpoll⟩
  · rcases hpoll : Keypad.poll c.machine.keypad with ⟨e | _ | key, keypad⟩
    · exact step_of_unheard hx hpoll
    · exact step_of_silent hx hpoll
    · exact step_of_key hx hpoll

/-- A program that asks for a key, which the fourth question finds; the second one fails. The
timers tick in between. -/
theorem suspension_coherent_of_failure :
    let c₀ : Console (FaultyKeypad ScriptedKeypad) NoPanel Mute :=
      Console.start {} { inner := ⟨[none, none, some 7]⟩, failures := [2], error := .shortWrite }
        NoPanel.mk Mute.mk (RandomSource.seeded 0) none
    let c := c₀.play [.load (Source.ofBytes [0xF3, 0x0A]), .beat, .step]
    let later : List (Move (FaultyKeypad ScriptedKeypad)) := [.step, .beat, .step, .step]
    (∃ ins, c.machine.fetch = .ok ins ∧ ins.group = 0xF ∧ ins.nn = 0x0A ∧ ins.x = 3) ∧
      (∃ pre key keypad, pre ++ [.step] <+: later ∧ c.Idles pre (c.play pre) ∧
        Keypad.poll (c.play pre).machine.keypad = (.ok (some key), keypad)) ∧
      (c.play later).machine.register 3 = 7 := by
  intro c₀ c later
  have hload : c₀.LoadsAwake [.load (Source.ofBytes [0xF3, 0x0A]), .beat, .step] :=
    loadsAwake_of_load_first rfl _ (by simp)
  -- evaluated at once, since the steps are the same
  obtain ⟨hx, hended, hkey⟩ : c.machine.cpu.awaiting = some 3 ∧
      (c.play later).machine.cpu.awaiting = none ∧ (c.play later).machine.register 3 = 7 := by
    decide +kernel
  obtain ⟨hasks, -, hends, -⟩ := suspension_coherent rfl hload hx
  refine ⟨hasks, ?_, hkey⟩
  rcases hends later (by simp [later]) with hidles | ⟨pre, key, keypad, hpre, hidles, hpoll, -⟩
  · have hwaits : (c.play later).machine.cpu.awaiting = some 3 := by
      rw [hidles.cpu]
      exact hx
    rw [hended] at hwaits
    cases hwaits
  · exact ⟨pre, key, keypad, hpre, hidles, hpoll⟩

end Console

end Chip8
