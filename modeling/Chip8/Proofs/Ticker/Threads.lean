import Chip8.Proofs.Machine.Effects
import Chip8.Proofs.Machine.Run
import Chip8.Proofs.Timers
import Chip8.Ticker

set_option relaxedAutoImplicit false
set_option autoImplicit false

/-!
# A machine and a ticker at the same time

A machine and the thread of a ticker take turns in any order. The ticker needs several turns for
one beat, and between any two of them the machine may do something. From outside the ticker may be
told to stop at any time, which it notices only when it looks.

## Main definitions

* `Chip8.TickerPlace` — how far the thread of a ticker has come.
* `Chip8.Threads` — a machine and the thread of a ticker.
* `Chip8.Turn` — whose turn it is, and what is done in it.
* `Chip8.Threads.run`, `Chip8.Threads.log` — some turns, and what happened in them to the timers
  and to the speaker.

## Main results

* `Chip8.Threads.run_beat`, `Chip8.Threads.run_close` — turns of the ticker alone are the beats
  that it was described by.
* `Chip8.Threads.timers_run` — the log accounts for the timers.
* `Chip8.Threads.records_log` — the log tells the truth.
* `Chip8.Threads.run_countdown` — what the timers hold, whoever takes turns when.
-/

namespace Chip8

/-- How far the thread of a ticker has come. -/
inductive TickerPlace where
  /-- About to look whether it was told to stop. -/
  | top
  /-- Asleep until the next beat, which begins with the end of a tone. -/
  | asleep
  /-- About to count the delay timer down. -/
  | delay
  /-- About to count the sound timer down. -/
  | sound
  /-- About to start a tone. -/
  | tone
  /-- Told to stop, and about to end a tone. -/
  | closing
  /-- At its end. -/
  | gone
  deriving DecidableEq, Repr

/-- A machine, the thread of a ticker that shares its timers, and whether the ticker was told to
stop. -/
structure Threads (κ δ σ : Type) where
  /-- The machine. -/
  machine : Machine κ δ
  /-- The ticker. -/
  ticker : Ticker σ
  /-- How far the thread of the ticker has come. -/
  place : TickerPlace := .top
  /-- Whether the ticker was told to stop. -/
  stopped : Bool := false

/-- What happens next. -/
inductive Turn where
  /-- Something is asked of the machine; only the ticker lets the timers count down. -/
  | machine (a : Machine.Action) (h : a ≠ .tick)
  /-- The thread of the ticker goes on. -/
  | ticker
  /-- The ticker is told to stop. -/
  | halt

/-- Whether the thread of the ticker goes on. -/
def Turn.isTicker : Turn → Bool
  | ticker => true
  | machine .. | halt => false

/-! ## The machine -/

namespace Machine

variable {κ δ : Type}

/-- What an action does to the timers; ticks are left to the ticker. -/
def clockEvents (m : Machine κ δ) : Action → List ClockEvent
  | .execute ins =>
    if m.isWaiting then []
    else if ins.group = 0xF ∧ ins.nn = 0x07 then [.read m.timers.delay]
    else if ins.group = 0xF ∧ ins.nn = 0x15 then [.write .delay (m.register ins.x)]
    else if ins.group = 0xF ∧ ins.nn = 0x18 then [.write .sound (m.register ins.x)]
    else []
  | .proceed | .tick | .write .. | .load _ | .elapse _ => []

/-- What is read is what the delay timer holds. -/
theorem records_clockEvents (m : Machine κ δ) (a : Action) :
    m.timers.Records (m.clockEvents a) := by
  cases a with
  | execute ins =>
    unfold clockEvents
    repeat' split
    all_goals simp [Timers.Records]
  | proceed | tick | write | load | elapse => trivial

variable [Keypad κ] [Panel δ] {m : Machine κ δ} {ins : Instruction}

/-- The delay timer is read into a register. -/
theorem register_execute_read (hw : m.isWaiting = false) (hgroup : ins.group = 0xF)
    (hbyte : ins.nn = 0x07) : (m.execute ins).2.register ins.x = m.timers.delay := by
  have hop : ins.operation? = some (.readDelay ins.x) :=
    Instruction.operation?_eq_some_iff.2 ⟨hgroup, hbyte, rfl⟩
  rw [execute_of_perform_ok hw hop rfl]
  exact register_setRegister_self m ins.x m.timers.delay

/-- The events of an instruction account for what it does to the timers. -/
theorem timers_execute (m : Machine κ δ) (ins : Instruction) :
    (m.execute ins).2.timers = m.timers.replay (m.clockEvents (.execute ins)) := by
  cases hw : m.isWaiting with
  | true =>
    rw [execute_of_isWaiting hw]
    simp [clockEvents, hw, Timers.replay]
  | false =>
    by_cases hdelay : ins.group = 0xF ∧ ins.nn = 0x15
    · have hop : ins.operation? = some (.setDelay ins.x) :=
        Instruction.operation?_eq_some_iff.2 ⟨hdelay.1, hdelay.2, rfl⟩
      rw [execute_of_perform_ok hw hop rfl]
      simp [clockEvents, hw, hdelay, Timers.replay, Timers.afterEvent, advance, setPc]
    by_cases hsound : ins.group = 0xF ∧ ins.nn = 0x18
    · have hop : ins.operation? = some (.setSound ins.x) :=
        Instruction.operation?_eq_some_iff.2 ⟨hsound.1, hsound.2, rfl⟩
      rw [execute_of_perform_ok hw hop rfl]
      simp [clockEvents, hw, hsound, Timers.replay, Timers.afterEvent, advance, setPc]
    · -- no other word writes a timer
      have hstays : ¬ ins.MayChange .timers := by
        rintro ⟨hgroup, hbyte | hbyte⟩
        · exact hdelay ⟨hgroup, hbyte⟩
        · exact hsound ⟨hgroup, hbyte⟩
      have hsame : (m.execute ins).2.timers = m.timers := m.same_of_not_mayChange hstays
      rw [hsame]
      simp only [clockEvents, hw, Bool.false_eq_true, if_false, if_neg hdelay, if_neg hsound]
      split <;> rfl

/-- Only the ticker does anything else to the timers. -/
theorem timers_after (m : Machine κ δ) {a : Action} (h : a ≠ .tick) :
    (m.after a).timers = m.timers.replay (m.clockEvents a) := by
  cases a with
  | execute ins => exact m.timers_execute ins
  | tick => exact absurd rfl h
  | proceed | write | load | elapse =>
    exact m.same_after (p := .timers) (by simp [Action.parts])

end Machine

/-! ## The speaker -/

namespace Ticker

variable {σ : Type} [Speaker σ]

/-- What the speaker is told when a tone is ended. -/
def quietEvents (t : Ticker σ) : List ClockEvent :=
  if t.beeping then [.call .stop (Speaker.stop t.speaker).1] else []

theorem replay_quietEvents (t : Ticker σ) (timers : Timers) :
    timers.replay t.quietEvents = timers := by
  unfold quietEvents
  split <;> rfl

theorem records_quietEvents (t : Ticker σ) (timers : Timers) :
    timers.Records t.quietEvents := by
  unfold quietEvents
  split <;> trivial

end Ticker

namespace Threads

variable {κ δ σ : Type}

/-- A machine, and a ticker at the start of its thread. -/
def started (machine : Machine κ δ) (speaker : σ) : Threads κ δ σ :=
  { machine, ticker := { speaker } }

/-! ## One turn -/

variable [Speaker σ]

/-- The thread of the ticker goes on. -/
def tick (s : Threads κ δ σ) : Threads κ δ σ :=
  match s.place with
  | .top => { s with place := if s.stopped then .closing else .asleep }
  | .asleep => { s with ticker := s.ticker.quiet, place := .delay }
  | .delay =>
    { s with
      machine := { s.machine with timers := s.machine.timers.tickDelay }
      place := .sound }
  | .sound =>
    let (ended, timers) := s.machine.timers.tickSound
    { s with machine := { s.machine with timers }, place := if ended then .tone else .top }
  | .tone => { s with ticker := s.ticker.sound, place := .top }
  | .closing => { s with ticker := s.ticker.quiet, place := .gone }
  | .gone => s

/-- What the thread of the ticker does to the timers and to the speaker when it goes on. -/
def tickEvents (s : Threads κ δ σ) : List ClockEvent :=
  match s.place with
  | .delay => [.countDelay]
  | .sound => [.countSound s.machine.timers.tickSound.1]
  | .tone => [.call .beep (Speaker.beep s.ticker.speaker).1]
  | .asleep | .closing => s.ticker.quietEvents
  | .top | .gone => []

/-- What a turn does to the timers and to the speaker. -/
def events (s : Threads κ δ σ) : Turn → List ClockEvent
  | .machine a _ => s.machine.clockEvents a
  | .ticker => s.tickEvents
  | .halt => []

theorem records_events (s : Threads κ δ σ) (turn : Turn) :
    s.machine.timers.Records (s.events turn) := by
  cases turn with
  | machine a h => exact s.machine.records_clockEvents a
  | halt => trivial
  | ticker =>
    obtain ⟨machine, ticker, place, stopped⟩ := s
    cases place
    case asleep | closing => exact ticker.records_quietEvents machine.timers
    case sound => simp [events, tickEvents, Timers.Records, Timers.tickSound]
    all_goals trivial

variable [Keypad κ] [Panel δ]

/-- What comes of a turn. -/
def after (s : Threads κ δ σ) : Turn → Threads κ δ σ
  | .machine a _ => { s with machine := s.machine.after a }
  | .ticker => s.tick
  | .halt => { s with stopped := true }

theorem timers_after (s : Threads κ δ σ) (turn : Turn) :
    (s.after turn).machine.timers = s.machine.timers.replay (s.events turn) := by
  cases turn with
  | machine a h => exact s.machine.timers_after h
  | halt => rfl
  | ticker =>
    obtain ⟨machine, ticker, place, stopped⟩ := s
    cases place
    case asleep | closing => exact (ticker.replay_quietEvents machine.timers).symm
    all_goals rfl

/-! ## Many turns -/

/-- What comes of some turns. -/
def run (s : Threads κ δ σ) (turns : List Turn) : Threads κ δ σ :=
  turns.foldl after s

/-- What some turns do to the timers and to the speaker. -/
def log (s : Threads κ δ σ) : List Turn → List ClockEvent
  | [] => []
  | turn :: turns => s.events turn ++ (s.after turn).log turns

theorem run_append (s : Threads κ δ σ) (turns turns' : List Turn) :
    s.run (turns ++ turns') = (s.run turns).run turns' :=
  List.foldl_append

/-- The log accounts for the timers. -/
theorem timers_run (s : Threads κ δ σ) (turns : List Turn) :
    (s.run turns).machine.timers = s.machine.timers.replay (s.log turns) := by
  induction turns generalizing s with
  | nil => rfl
  | cons turn turns ih =>
    have hrest := ih (s.after turn)
    rw [timers_after, ← Timers.replay_append] at hrest
    exact hrest

/-- The log tells the truth. -/
theorem records_log (s : Threads κ δ σ) (turns : List Turn) :
    s.machine.timers.Records (s.log turns) := by
  induction turns generalizing s with
  | nil => trivial
  | cons turn turns ih =>
    rw [log, Timers.records_append, ← timers_after]
    exact ⟨s.records_events turn, ih _⟩

/-! ## Turns of the ticker alone -/

/-- With nothing in between, the turns from one look at the stop flag to the next are a beat. -/
theorem run_beat {s : Threads κ δ σ} (hplace : s.place = .top) (hstopped : s.stopped = false) :
    s.run (List.replicate (if s.machine.timers.tick.1 then 5 else 4) .ticker) =
      { s with
        machine := { s.machine with timers := (s.ticker.turn s.machine.timers).2 }
        ticker := (s.ticker.turn s.machine.timers).1 } := by
  obtain ⟨machine, ticker, place, stopped⟩ := s
  subst hplace hstopped
  cases hended : machine.timers.tickDelay.tickSound.1 <;>
    simp [run, after, tick, Ticker.turn, Timers.tick, hended, List.replicate]

/-- A ticker that is told to stop while it is asleep closes. -/
theorem run_close {s : Threads κ δ σ} (hplace : s.place = .asleep) (hstopped : s.stopped = true) :
    s.run (List.replicate (if s.machine.timers.tick.1 then 6 else 5) .ticker) =
      { s with
        machine := { s.machine with timers := (s.ticker.close s.machine.timers).2 }
        ticker := (s.ticker.close s.machine.timers).1
        place := .gone } := by
  obtain ⟨machine, ticker, place, stopped⟩ := s
  subst hplace hstopped
  cases hended : machine.timers.tickDelay.tickSound.1 <;>
    simp [run, after, tick, Ticker.close, Ticker.turn, Timers.tick, hended, List.replicate]

/-! ## What the timers hold -/

/-- Nothing but a write raises a timer. -/
theorem value_after_le (s : Threads κ δ σ) {turn : Turn} {i : Timer}
    (h : ∀ v, .write i v ∉ s.events turn) :
    (s.after turn).machine.timers.value i ≤ s.machine.timers.value i := by
  have hcount := s.machine.timers.toNat_value_replay h
  rw [← timers_after] at hcount
  rw [UInt8.le_iff_toNat_le, hcount]
  exact Nat.sub_le ..

/-- **The timers under every interleaving.** After any turns in any order each timer holds, whatever
is done to the other one, the value it was last given, or at first the one it started with, less
one for every time it counted down since then, but never less than zero. A tick tells that the
sound timer ran out exactly if that one held one when it counted down, and between two ticks that
tell so the sound timer is given a value other than zero. -/
theorem run_countdown (s : Threads κ δ σ) (turns : List Turn) :
    let s' := s.run turns
    let log := s.log turns
    (∀ i, (∀ v, .write i v ∉ log) → (s'.machine.timers.value i).toNat =
      (s.machine.timers.value i).toNat - log.countP (·.counts i)) ∧
    (∀ i v before since, log = before ++ .write i v :: since → (∀ v', .write i v' ∉ since) →
      (s'.machine.timers.value i).toNat = v.toNat - since.countP (·.counts i)) ∧
    (∀ turn i, (∀ v, .write i v ∉ s'.events turn) →
      (s'.after turn).machine.timers.value i ≤ s'.machine.timers.value i) ∧
    (∀ ins, s'.machine.isWaiting = false → ins.group = 0xF → ins.nn = 0x07 →
      (s'.machine.execute ins).2.register ins.x = s'.machine.timers.delay) ∧
    (s'.place = .sound → ∃ ended, s'.events .ticker = [.countSound ended] ∧
      (ended = true ↔ s'.machine.timers.sound = 1)) ∧
    ∀ before between since,
      log = before ++ .countSound true :: (between ++ .countSound true :: since) →
      ∃ v, v ≠ 0 ∧ .write .sound v ∈ between := by
  intro s' log
  have htimers : s'.machine.timers = s.machine.timers.replay log := s.timers_run turns
  refine ⟨?_, ?_, fun turn i => s'.value_after_le, fun ins => Machine.register_execute_read, ?_,
    ?_⟩
  · intro i h
    rw [htimers]
    exact Timers.toNat_value_replay _ h
  · intro i v before since hlog h
    rw [htimers, hlog]
    exact Timers.toNat_value_replay_of_write _ h
  · intro hplace
    refine ⟨s'.machine.timers.tickSound.1, ?_, by simp [Timers.tickSound]⟩
    simp only [events, tickEvents, hplace]
  · intro before between since hlog
    have hrecords : s.machine.timers.Records log := s.records_log turns
    exact Timers.exists_write_of_ended_ended (hlog ▸ hrecords)

/-- The sound timer is set again after it ran out and before the tone for that starts: it runs out
a second time, and ends at zero. -/
theorem run_countdown_of_rewrite :
    let s := started (Machine.switchedOn (⟨[]⟩ : ScriptedKeypad) NoPanel.mk) Mute.mk
    let load : Turn := .machine (.execute ⟨0x63, 0x01⟩) nofun
    let write : Turn := .machine (.execute ⟨0xF3, 0x18⟩) nofun
    let beat : List Turn := [.ticker, .ticker, .ticker, .ticker]
    let turns := [load, write] ++ beat ++ [write, .ticker] ++ beat
    let before : List ClockEvent := [.write .sound 1, .countDelay]
    let between : List ClockEvent :=
      [.write .sound 1, .call .beep (.ok ()), .call .stop (.ok ()), .countDelay]
    s.log turns = before ++ .countSound true :: (between ++ [.countSound true]) ∧
      (∃ v, v ≠ 0 ∧ .write .sound v ∈ between) ∧
      ((s.run turns).machine.timers.value .sound).toNat = 0 := by
  intro s load write beat turns before between
  have hlog : s.log turns = before ++ .countSound true :: (between ++ [.countSound true]) := rfl
  have hsince : ∀ v, ClockEvent.write .sound v ∉ between.tail ++ [.countSound true] := by
    simp [between]
  obtain ⟨-, hwritten, -, -, -, hbetween⟩ := s.run_countdown turns
  refine ⟨hlog, hbetween before between [] hlog, ?_⟩
  exact hwritten .sound 1 (before ++ [.countSound true]) _ hlog hsince

end Threads

end Chip8
