import Chip8.Console.Run
import Chip8.Keypad.Stream
import Chip8.Proofs.Console.Devices
import Chip8.Proofs.Console.Quitting
import Chip8.Proofs.Console.Ticking

set_option relaxedAutoImplicit false
set_option autoImplicit false

/-!
# A stream of bytes is a script

A keypad on a stream of bytes reads one byte for each question, and that byte alone tells the
answer. So the answers could have been written down beforehand, and a console with the script runs
as the console with the stream does: the steps give the same results, the machines are the same but
for their keypads, and both keypads are asked as often. Past its end the stream gives no key, and
neither does the script.

## Main definitions

* `Chip8.Keypad.Mimics` — keypads that answer as the ones behind them whatever they are asked.
* `Chip8.FaultyKeypad.counting`, `Chip8.Console.polls` — how often a keypad is asked in a run.
* `Chip8.StreamKeypad.script` — the answers that a stream gives.
* `Chip8.Machine.TakesKey` — the instruction that asks for a key stores one.

## Main results

* `Chip8.Console.ticking_through`, `Chip8.Console.runProgram_through` — runs with the keypads
  behind.
* `Chip8.Console.ticking_counting` — counting the questions changes no run.
* `Chip8.Console.stream_runs_as_script` — a stream runs as its script.
-/

namespace Chip8

/-! ## Keypads behind keypads -/

/-- From any keypad of these on, whatever it is asked and however much time passes, it answers as
the one behind it does, and wants to stop when that one does. -/
structure Keypad.Mimics {κ κ' : Type} [Keypad κ] [Keypad κ'] (behind : κ → κ') (these : κ → Prop) :
    Prop where
  /-- Each of them answers as the one behind. -/
  relays : ∀ k, these k → Keypad.Relays behind k
  /-- A question leaves one of them. -/
  polled : ∀ k, these k → these (Keypad.poll k).2
  /-- So does time. -/
  elapsed : ∀ t k, these k → these (Keypad.elapse t k)
  /-- Each of them wants to stop when the one behind does. -/
  quits : ∀ k, these k → Keypad.quitRequested (behind k) = Keypad.quitRequested k
  /-- Time passes for the one behind as well. -/
  elapses : ∀ t k, these k → Keypad.elapse t (behind k) = behind (Keypad.elapse t k)

namespace Keypad.Mimics

variable {κ κ' : Type} [Keypad κ] [Keypad κ'] {f : κ → κ'} {these : κ → Prop}

theorem asked (h : Mimics f these) {k : κ} (hk : these k) (j : Nat) : these (Keypad.asked k j) := by
  induction j with
  | zero => exact hk
  | succ j ih => exact h.polled _ ih

end Keypad.Mimics

namespace FaultyKeypad

variable {κ κ' : Type}

/-- The same failures and the same count over another keypad. -/
def onInner (f : κ → κ') (k : FaultyKeypad κ) : FaultyKeypad κ' where
  inner := f k.inner
  failures := k.failures
  error := k.error
  quitAfter := k.quitAfter
  polls := k.polls

/-- A keypad whose questions are counted. None of its polls fails, whatever the failure would be. -/
def counting (k : κ) : FaultyKeypad κ :=
  { inner := k, error := .device "" }

/-- The polls are counted, and nothing else. -/
structure OnlyCounts (k : FaultyKeypad κ) : Prop where
  /-- No poll fails. -/
  failures : k.failures = []
  /-- The keypad behind tells whether the user wants to stop. -/
  quitAfter : k.quitAfter = none

variable [Keypad κ] [Keypad κ']

/-- A failure comes before the keypad behind is asked, and so does the count. -/
theorem mimics_onInner {f : κ → κ'} {these : κ → Prop} (h : Keypad.Mimics f these) :
    Keypad.Mimics (onInner f) fun k => these k.inner where
  relays k hk := by
    have hinner := h.relays k.inner hk
    by_cases hfails : k.polls + 1 ∈ k.failures
    · simp only [Keypad.Relays, Keypad.poll, onInner, hfails, if_true]
    · simp only [Keypad.Relays, Keypad.poll, onInner, hfails, if_false]
      rw [show Keypad.poll (f k.inner) = _ from hinner]
  polled k hk := by
    simp only [Keypad.poll]
    split
    · exact hk
    · exact h.polled k.inner hk
  quits k hk := by
    simp only [Keypad.quitRequested, onInner]
    rw [show Keypad.quitRequested (f k.inner) = _ from h.quits k.inner hk]
    rfl
  elapses t k hk := by
    simp only [Keypad.elapse, onInner]
    rw [show Keypad.elapse t (f k.inner) = _ from h.elapses t k.inner hk]
  elapsed t k hk := h.elapsed t k.inner hk

/-- A keypad whose polls are only counted answers as the one behind. -/
theorem mimics_inner : Keypad.Mimics (inner (κ := κ)) OnlyCounts where
  relays k hk := by
    simp only [Keypad.Relays, Keypad.poll, hk.failures, List.not_mem_nil, if_false]
  polled k hk := by
    simp only [Keypad.poll, hk.failures, List.not_mem_nil, if_false]
    exact ⟨rfl, hk.quitAfter⟩
  quits k hk := by
    simp only [Keypad.quitRequested, hk.quitAfter]
  elapses t k hk := rfl
  elapsed t k hk := ⟨hk.failures, hk.quitAfter⟩

omit [Keypad κ] in
theorem onlyCounts_counting (k : κ) : (counting k).OnlyCounts := ⟨rfl, rfl⟩

end FaultyKeypad

/-! ## Runs with the keypads behind -/

namespace Console

variable {κ κ' δ σ : Type} [Keypad κ] [Keypad κ'] {f : κ → κ'} {these : κ → Prop}
  {c : Console κ δ σ}

section Steps

variable [Panel δ]

/-- A step asks the keypad behind what it asks the one in front. -/
theorem step_through_of_mimics (h : Keypad.Mimics f these) (hc : these c.machine.keypad) :
    (c.through f id).step = (c.step.1, c.step.2.through f id) := by
  refine step_through (fun _ => h.relays _ hc) (fun m ins hm _ _ => h.relays _ ?_)
    fun _ _ => rfl
  cases hm with
  | awake => exact hc
  | key _ hpoll =>
    have hpolled := h.polled _ hc
    rwa [hpoll] at hpolled

/-- A step asks the keypad and does nothing else to it. -/
theorem mimics_step (h : Keypad.Mimics f these) (hc : these c.machine.keypad) :
    these c.step.2.machine.keypad := by
  obtain ⟨j, hkeypad, -⟩ := c.keypad_step
  rw [hkeypad]
  exact h.asked hc j

end Steps

variable [Speaker σ]

theorem meanwhile_through (h : Keypad.Mimics f these) (hc : these c.machine.keypad)
    (time ticks : Nat) :
    (c.through f id).meanwhile (Keypad.elapse time) ticks =
      (c.meanwhile (Keypad.elapse time) ticks).through f id := by
  have helapse := h.elapses time _ hc
  simp only [meanwhile, beats, through, Machine.through, Machine.onDevices]
  rw [helapse]

/-- The time of a step passes as any other time does. -/
theorem pass_through (h : Keypad.Mimics f these) (hc : these c.machine.keypad) :
    (c.through f id).pass = c.pass.through f id :=
  meanwhile_through (c := { c with schedule := c.schedule.next.2 }) h hc c.schedule.stepTime
    c.schedule.next.1

variable [Panel δ]

/-- A console after some steps, between which time passes and the timers tick.

**Proof sketch.** Induction on the number of steps. One step goes on with the keypads behind
(`step_through_of_mimics`), and leads to keypads with which the next one does. -/
theorem ticking_through (h : Keypad.Mimics f these) (hc : these c.machine.keypad)
    (times ticks : Nat → Nat) (n : Nat) :
    (c.through f id).ticking (fun k => Keypad.elapse (times k)) ticks n =
        (c.ticking (fun k => Keypad.elapse (times k)) ticks n).through f id ∧
      these (c.ticking (fun k => Keypad.elapse (times k)) ticks n).machine.keypad := by
  induction n with
  | zero => exact ⟨rfl, hc⟩
  | succ n ih =>
    obtain ⟨hrun, hkeypad⟩ := ih
    have hstep := mimics_step h hkeypad
    refine ⟨?_, h.elapsed (times n) _ hstep⟩
    rw [ticking, hrun, step_through_of_mimics h hkeypad, meanwhile_through h hstep, ticking]

theorem cycle_through (h : Keypad.Mimics f these) (hc : these c.machine.keypad) :
    (c.through f id).cycle = (c.cycle.1, c.cycle.2.through f id) ∧
      these c.cycle.2.machine.keypad := by
  have hbehind := step_through_of_mimics h hc
  have hkeypad := mimics_step h hc
  rcases hstep : c.step with ⟨e | s, c'⟩
  · rw [hstep] at hbehind hkeypad
    rw [cycle_of_error hbehind, cycle_of_error hstep]
    exact ⟨rfl, hkeypad⟩
  · rw [hstep] at hbehind hkeypad
    rw [cycle_of_ok hbehind, cycle_of_ok hstep, pass_through h hkeypad]
    exact ⟨rfl, h.elapsed _ _ hkeypad⟩

theorem loop_through (h : Keypad.Mimics f these) (hc : these c.machine.keypad)
    (taken budget : Nat) :
    (c.through f id).loop taken budget =
      ((c.loop taken budget).1, (c.loop taken budget).2.1,
        (c.loop taken budget).2.2.through f id) := by
  induction budget generalizing c taken with
  | zero => rfl
  | succ budget ih =>
    have hquits : Keypad.quitRequested (c.through f id).machine.keypad =
        Keypad.quitRequested c.machine.keypad := h.quits _ hc
    obtain ⟨hcycle, hkeypad⟩ := cycle_through h hc
    simp only [loop, hquits, hcycle]
    split
    · rfl
    rcases hc' : c.cycle with ⟨e | s, c'⟩
    · rfl
    · rw [hc'] at hkeypad
      exact ih hkeypad (taken + 1)

theorem mainLoop_through (h : Keypad.Mimics f these) (hc : these c.machine.keypad)
    (budget : Nat) :
    (c.through f id).mainLoop budget =
      ((c.mainLoop budget).1, (c.mainLoop budget).2.through f id) := by
  simp only [mainLoop, loop_through h hc]
  rcases c.loop 0 budget with ⟨_ | _ | e, taken, c'⟩
  · rfl
  · rfl
  · rfl

omit [Keypad κ] [Keypad κ'] [Panel δ] in
/-- The end of a run has nothing to do with the keypad. -/
theorem conclude_through (c : Console κ δ σ) (result : Except Error Nat) (dump : Option Sink) :
    (c.through f id).conclude result dump =
      ((c.conclude result dump).1, (c.conclude result dump).2.1.through f id,
        (c.conclude result dump).2.2) := by
  have hdump : ((c.through f id).beats (c.through f id).schedule.beforeDump).writeDump dump =
      (c.beats c.schedule.beforeDump).writeDump dump := rfl
  simp only [conclude, hdump]
  rcases (c.beats c.schedule.beforeDump).writeDump dump with ⟨_ | _, dump'⟩
  · rfl
  · rfl

/-- A whole run: its verdict, the console at its end, and the dump. -/
theorem runProgram_through (h : Keypad.Mimics f these) (hc : these c.machine.keypad)
    (program : Source) (dump : Option Sink) :
    (c.through f id).runProgram program dump =
      ((c.runProgram program dump).1, (c.runProgram program dump).2.1.through f id,
        (c.runProgram program dump).2.2) := by
  obtain ⟨memory, hmachine⟩ := c.machine_loadProgram program
  simp only [runProgram, loadProgram_through]
  rcases hload : c.loadProgram program with ⟨e | size, loaded⟩
  · rfl
  · have hloaded : these loaded.machine.keypad := by
      rw [hload] at hmachine
      rwa [hmachine]
    have hrun := mainLoop_through h hloaded loaded.config.budget
    simp only [show (loaded.through f id).config = loaded.config from rfl, hrun]
    exact conclude_through ..

/-! ## Counting the questions -/

/-- How often the keypad is asked in the first `n` steps of a run. -/
def polls (c : Console κ δ σ) (times ticks : Nat → Nat) (n : Nat) : Nat :=
  ((c.through FaultyKeypad.counting id).ticking (fun k => Keypad.elapse (times k)) ticks
    n).machine.keypad.polls

/-- The run whose questions are counted is the run itself. -/
theorem ticking_counting (c : Console κ δ σ) (times ticks : Nat → Nat) (n : Nat) :
    ((c.through FaultyKeypad.counting id).ticking (fun k => Keypad.elapse (times k)) ticks
      n).through FaultyKeypad.inner id =
        c.ticking (fun k => Keypad.elapse (times k)) ticks n := by
  have hcounts : (c.through FaultyKeypad.counting id).machine.keypad.OnlyCounts :=
    FaultyKeypad.onlyCounts_counting c.machine.keypad
  exact (ticking_through FaultyKeypad.mimics_inner hcounts times ticks n).1.symm

/-- A keypad and the one behind it are asked as often. -/
theorem polls_through (h : Keypad.Mimics f these) (hc : these c.machine.keypad)
    (times ticks : Nat → Nat) (n : Nat) :
    (c.through f id).polls times ticks n = c.polls times ticks n := by
  have hcounted := (ticking_through (c := c.through FaultyKeypad.counting id)
    (FaultyKeypad.mimics_onInner h) hc times ticks n).1
  exact congrArg (fun c => c.machine.keypad.polls) hcounted

end Console

/-! ## Keys of streams -/

namespace StreamKeypad

/-- The characters of the keys, in the order of the keys. -/
def digits : List Char := "0123456789ABCDEF".toList

/-- The answers that a stream of bytes gives, up to its end. -/
def script (bytes : List UInt8) : List (Option UInt8) :=
  bytes.map fun b => (digits.idxOf? (Char.ofNat b.toNat)).map UInt8.ofNat

/-- The keypad with the answers written down. -/
def scripted (k : StreamKeypad) : ScriptedKeypad := ⟨script k.bytes⟩

/-- The key of a byte is the place of its character among the digits. -/
theorem keyOf_eq (b : UInt8) :
    keyOf b = (digits.idxOf? (Char.ofNat b.toNat)).map UInt8.ofNat := by
  have hall : ∀ n : Fin 256, keyOf (UInt8.ofNat n) =
      (digits.idxOf? (Char.ofNat (UInt8.ofNat n).toNat)).map UInt8.ofNat := by
    decide +kernel
  have hb := hall ⟨b.toNat, b.toNat_lt⟩
  rwa [UInt8.ofNat_toNat] at hb

theorem toNat_lt_of_keyOf {b key : UInt8} (h : keyOf b = some key) : key.toNat < 16 := by
  rw [keyOf_eq, Option.map_eq_some_iff] at h
  obtain ⟨i, hi, rfl⟩ := h
  obtain ⟨hlt, -⟩ := List.findIdx?_eq_some_iff_getElem.1 hi
  rw [UInt8.toNat_ofNat']
  exact Nat.lt_of_le_of_lt (Nat.mod_le _ _) hlt

theorem mimics_scripted : Keypad.Mimics scripted fun _ => True where
  relays
    | ⟨[]⟩, _ => rfl
    | ⟨b :: bytes⟩, _ => by
      simp [Keypad.Relays, Keypad.poll, scripted, script, keyOf_eq]
  polled _ _ := trivial
  quits _ _ := rfl
  elapses _ _ _ := rfl
  elapsed _ _ _ := trivial

/-- A stream gives the machine's own keys only. -/
theorem toNat_lt_of_poll {k k' : StreamKeypad} {key : UInt8}
    (h : Keypad.poll k = (.ok (some key), k')) : key.toNat < 16 := by
  rcases k with ⟨_ | ⟨b, bytes⟩⟩
  · cases h
  · have hkey : Except.ok (keyOf b) = Except.ok (some key) := congrArg Prod.fst h
    exact toNat_lt_of_keyOf (Except.ok.inj hkey)

end StreamKeypad

namespace Machine

variable {κ δ : Type} [Keypad κ] [Panel δ] {m m' : Machine κ δ} {x : Fin 16}

/-- The instruction that asks for a key stores one in register `x`: at once, or when its wait
ends. -/
inductive TakesKey (m : Machine κ δ) (x : Fin 16) (m' : Machine κ δ) : Prop
  /-- A key is down when the instruction asks for it. -/
  | atOnce {ins : Instruction} (hx : m.cpu.awaiting = none) (hgroup : ins.group = 0xF)
    (hbyte : ins.nn = 0x0A) (hreg : ins.x = x) (hrun : m.execute ins = (.ok .executed, m'))
  /-- The machine waited for the key. -/
  | late (hx : m.cpu.awaiting = some x) (hproceed : m.canProceed = (.ok true, m'))

/-- The key that is stored is the keypad's answer. -/
theorem TakesKey.exists_poll (h : m.TakesKey x m') :
    ∃ key keypad, Keypad.poll m.keypad = (.ok (some key), keypad) ∧
      m' = m.resumed x key keypad := by
  cases h with
  | @atOnce ins hx hgroup hbyte hreg hrun =>
    subst hreg
    have hw : m.isWaiting = false := isWaiting_eq_false_iff.2 hx
    rcases hpoll : Keypad.poll m.keypad with ⟨e | _ | key, keypad⟩
    · rw [execute_of_unheard hw (.inr ⟨hgroup, hbyte⟩) hpoll] at hrun
      cases hrun
    · rw [execute_awaitKey_of_silent hw hgroup hbyte hpoll] at hrun
      cases hrun
    · rw [execute_awaitKey_of_key hw hgroup hbyte hpoll] at hrun
      cases hrun
      exact ⟨key, keypad, rfl, rfl⟩
  | late hx hproceed =>
    rcases hpoll : Keypad.poll m.keypad with ⟨e | _ | key, keypad⟩
    · simp only [canProceed, hx, poll_of_error hpoll] at hproceed
      cases hproceed
    · rw [canProceed_of_silent hx hpoll] at hproceed
      cases hproceed
    · rw [canProceed_of_key hx hpoll] at hproceed
      cases hproceed
      exact ⟨key, keypad, rfl, rfl⟩

end Machine

/-! ## Streams and scripts -/

namespace Console

variable {δ σ : Type} [Panel δ] [Speaker σ]

/-- **A stream of bytes is a script.** A console reads its keys from a stream, and another one is
the same but for its keypad, which has the script of the stream: for each byte the place of its
character among the upper-case hexadecimal digits, if it is one of them. However much time passes
and however often the timers tick between the steps, each step gives the same result on both, the
consoles stay the same but for the keypads, and both keypads are asked as often, past the end of the
stream as well. A whole run of any program has the same verdict, console and dump. A key that an
instruction stores is below 16, whether it was down at once or waited for. -/
theorem stream_runs_as_script (c : Console StreamKeypad δ σ) :
    (∀ (times ticks : Nat → Nat) (n : Nat),
      let now := c.ticking (fun k => Keypad.elapse (times k)) ticks n
      let now' := (c.through StreamKeypad.scripted id).ticking
        (fun k => Keypad.elapse (times k)) ticks n
      now' = now.through StreamKeypad.scripted id ∧ now'.step.1 = now.step.1 ∧
        (c.through StreamKeypad.scripted id).polls times ticks n = c.polls times ticks n) ∧
    (∀ (program : Source) (dump : Option Sink),
      (c.through StreamKeypad.scripted id).runProgram program dump =
        ((c.runProgram program dump).1,
          (c.runProgram program dump).2.1.through StreamKeypad.scripted id,
          (c.runProgram program dump).2.2)) ∧
    ∀ (m m' : Machine StreamKeypad δ) (x : Fin 16),
      m.TakesKey x m' → (m'.register x).toNat < 16 := by
  refine ⟨fun times ticks n => ?_, fun program dump => ?_, fun m m' x htakes => ?_⟩
  · intro now now'
    have hnow : now' = now.through StreamKeypad.scripted id :=
      (ticking_through StreamKeypad.mimics_scripted trivial times ticks n).1
    refine ⟨hnow, ?_, polls_through StreamKeypad.mimics_scripted trivial times ticks n⟩
    rw [hnow, step_through_of_mimics StreamKeypad.mimics_scripted trivial]
  · exact runProgram_through StreamKeypad.mimics_scripted trivial program dump
  · obtain ⟨key, keypad, hpoll, rfl⟩ := htakes.exists_poll
    have hstored : (m.resumed x key keypad).register x = key :=
      Machine.register_setRegister_self { m with keypad } x key
    rw [hstored]
    exact StreamKeypad.toNat_lt_of_poll hpoll

/-- A stream that ends while the machine waits. The first byte is no key and the second one ends the
first wait; the instruction after it asks in vain, and so does the step after that. -/
theorem stream_runs_as_script_past_end :
    let c : Console StreamKeypad NoPanel Mute := ((Console.start {} ⟨[0x67, 0x37]⟩ NoPanel.mk
      Mute.mk (RandomSource.seeded 0) none).loadProgram
      (Source.ofBytes [0xF3, 0x0A, 0xF4, 0x0A])).2
    let c' := c.through StreamKeypad.scripted id
    let after := c.ticking (fun _ => Keypad.elapse 0) fun _ => 0
    let after' := c'.ticking (fun _ => Keypad.elapse 0) fun _ => 0
    c'.machine.keypad = ⟨[none, some 7]⟩ ∧ (after 1).machine.isWaiting = true ∧
      ((after' 2).machine.register 3).toNat < 16 ∧ (after' 2).machine.register 3 = 7 ∧
      (after' 2).step.1.toOption = some .waiting ∧
      c'.polls (fun _ => 0) (fun _ => 0) 3 = 4 := by
  intro c c' after after'
  obtain ⟨hruns, -, hkeys⟩ := stream_runs_as_script c
  -- the run of the stream is evaluated, the run of the script follows it
  obtain ⟨hwait, hregister, hstep, hpolls⟩ : (after 1).machine.isWaiting = true ∧
      (after 2).machine.register 3 = 7 ∧ (after 2).step.1.toOption = some .waiting ∧
      c.polls (fun _ => 0) (fun _ => 0) 3 = 4 := by
    decide +kernel
  obtain ⟨hnow, hresult, -⟩ := hruns (fun _ => 0) (fun _ => 0) 2
  obtain ⟨-, -, hasked⟩ := hruns (fun _ => 0) (fun _ => 0) 3
  have hsame : (after' 2).machine.register 3 = (after 2).machine.register 3 :=
    congrArg (fun c => c.machine.register 3) hnow
  have htakes : (after 1).machine.TakesKey 3 (after 1).machine.canProceed.2 :=
    .late (by decide +kernel) (Prod.ext (by decide +kernel) rfl)
  have hkey := hkeys _ _ 3 htakes
  have hkept : (after 1).machine.canProceed.2.register 3 = (after 2).machine.register 3 := by
    decide +kernel
  refine ⟨by decide +kernel, hwait, ?_, hsame.trans hregister, ?_, hasked.trans hpolls⟩
  · rwa [hsame, ← hkept]
  · exact (congrArg Except.toOption hresult).trans hstep

end Console

end Chip8
