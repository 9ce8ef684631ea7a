import Chip8.Proofs.Ticker.Threads
import Mathlib.Tactic.SplitIfs

set_option relaxedAutoImplicit false
set_option autoImplicit false

/-!
# Tones

What the thread of a ticker tells its speaker, whatever the machine does in the meantime, however
often the speaker fails, and whenever the ticker is told to stop. The thread goes through rounds:
in each it counts both timers down, starts a tone if the sound timer ran out, and ends the tone if
it could be started. The end of a tone belongs to the round that started it, although the thread
comes to it in the beat after that or on its way out.

## Main definitions

* `Chip8.Plays` — a speaker that is told the calls of a log gives the answers of the log.
* `Chip8.Round` — what a beat comes to.
* `Chip8.Threads.begun` — what is done of the round that is not over.
* `Chip8.TickerPlace.counting`, `Chip8.TickerPlace.ahead` — what is left to do for a ticker that
  was told to stop.

## Main results

* `Chip8.Threads.exists_rounds` — what the thread does is round after round.
* `Chip8.Threads.plays_log` — the speaker is told what the log says.
* `Chip8.Threads.countP_log_add_counting`, `Chip8.Threads.ahead_run_le` — a ticker that was told
  to stop counts down at most once more and comes to its end.
* `Chip8.Threads.run_tones` — the tones of a ticker from its start.
-/

namespace Chip8

/-- Whether an event is one of the ticker, not of the machine. -/
def ClockEvent.byTicker : ClockEvent → Bool
  | read _ | write .. => false
  | countDelay | countSound _ | call .. => true

/-- Only the ticker lets the timers count down. -/
theorem ClockEvent.byTicker_of_counts {e : ClockEvent} {i : Timer} (h : e.counts i = true) :
    e.byTicker = true := by
  cases e with
  | read | write => cases h
  | countDelay | countSound | call => rfl

/-- The machine only reads and writes the timers. -/
theorem Machine.byTicker_of_mem_clockEvents {κ δ : Type} {m : Machine κ δ} {a : Action}
    {e : ClockEvent} (h : e ∈ m.clockEvents a) : e.byTicker = false := by
  cases a with
  | execute ins =>
    simp only [clockEvents] at h
    split_ifs at h <;> simp only [List.mem_singleton, List.not_mem_nil] at h <;> rw [h] <;> rfl
  | proceed | tick | write | load | elapse => cases h

/-! ## Calls to the speaker -/

section Plays

variable {σ : Type} [Speaker σ]

/-- What comes of telling a speaker something. -/
def SoundCall.tell (speaker : σ) : SoundCall → Except Error Unit × σ
  | beep => Speaker.beep speaker
  | stop => Speaker.stop speaker

/-- A speaker that is told the calls of a log, and nothing else, gives the answers of the log and is
the last one after it. -/
inductive Plays : σ → List ClockEvent → σ → Prop
  | nil (speaker : σ) : Plays speaker [] speaker
  | call {speaker next last : σ} {told : SoundCall} {answer : Except Error Unit}
    {log : List ClockEvent} (h : told.tell speaker = (answer, next))
    (hrest : Plays next log last) : Plays speaker (.call told answer :: log) last
  | other {speaker last : σ} {e : ClockEvent} {log : List ClockEvent}
    (h : ∀ told answer, e ≠ .call told answer) (hrest : Plays speaker log last) :
    Plays speaker (e :: log) last

variable {speaker next last : σ} {log log' : List ClockEvent}

theorem Plays.append (h : Plays speaker log next) (h' : Plays next log' last) :
    Plays speaker (log ++ log') last := by
  induction h with
  | nil => exact h'
  | call h _ ih => exact .call h (ih h')
  | other h _ ih => exact .other h (ih h')

/-- A log without calls leaves the speaker. -/
theorem Plays.of_no_call (speaker : σ) (h : ∀ told answer, .call told answer ∉ log) :
    Plays speaker log speaker := by
  induction log with
  | nil => exact .nil speaker
  | cons e log ih =>
    simp only [List.mem_cons, not_or] at h
    exact .other (fun told answer he => (h told answer).1 he.symm)
      (ih fun told answer => (h told answer).2)

theorem Plays.quiet (t : Ticker σ) : Plays t.speaker t.quietEvents t.quiet.speaker := by
  unfold Ticker.quietEvents Ticker.quiet
  split
  · exact .call rfl (.nil _)
  · exact .nil _

end Plays

/-! ## Rounds -/

/-- What a beat comes to. -/
inductive Round where
  /-- The sound timer does not run out. -/
  | silent
  /-- The sound timer runs out, but no tone can be started. -/
  | unheard (e : Error)
  /-- The sound timer runs out, and a tone is started and ended, which may fail. -/
  | heard (answer : Except Error Unit)

/-- The events of a round, in order. -/
def Round.events : Round → List ClockEvent
  | silent => [.countDelay, .countSound false]
  | unheard e => [.countDelay, .countSound true, .call .beep (.error e)]
  | heard answer =>
    [.countDelay, .countSound true, .call .beep (.ok ()), .call .stop answer]

namespace Threads

variable {κ δ σ : Type} {s : Threads κ δ σ} {i : Timer}

/-- What is done of the round that is not over. -/
def begun (s : Threads κ δ σ) : List ClockEvent :=
  match s.place with
  | .delay | .gone => []
  | .sound => [.countDelay]
  | .tone => [.countDelay, .countSound true]
  | .top | .asleep | .closing =>
    if s.ticker.beeping then [.countDelay, .countSound true, .call .beep (.ok ())] else []

/-- No tone is on while the thread counts down, and none is left on at its end. -/
def Tidy (s : Threads κ δ σ) : Prop :=
  s.place ∈ [.delay, .sound, .tone, .gone] → s.ticker.beeping = false

/-- A round that is not over lacks something. -/
theorem exists_round_of_begun (s : Threads κ δ σ) :
    ∃ r : Round, s.begun <+: r.events ∧ s.begun ≠ r.events := by
  obtain ⟨machine, ⟨speaker, beeping, warnings⟩, place, stopped⟩ := s
  refine ⟨.heard (.ok ()), ?_⟩
  cases place <;> cases beeping <;> simp [begun, Round.events]

variable [Speaker σ]

theorem filter_byTicker_tickEvents (s : Threads κ δ σ) :
    s.tickEvents.filter ClockEvent.byTicker = s.tickEvents := by
  obtain ⟨machine, ⟨speaker, beeping, warnings⟩, place, stopped⟩ := s
  cases place <;> cases beeping <;> rfl

/-- A turn of the ticker goes on with the round that is not over, or ends it.

**Proof sketch.** By the place of the thread. A round ends where a tone is ended, where the sound
timer does not run out, and where no tone can be started. -/
theorem exists_rounds_tick (h : s.Tidy) :
    s.tick.Tidy ∧ ∃ rounds : List Round,
      s.begun ++ s.tickEvents = rounds.flatMap Round.events ++ s.tick.begun := by
  obtain ⟨machine, ⟨speaker, beeping, warnings⟩, place, stopped⟩ := s
  cases place
  case top =>
    cases stopped
    all_goals exact ⟨by simp [Tidy, tick], [], List.append_nil _⟩
  case asleep | closing =>
    cases beeping with
    | true => exact ⟨fun _ => rfl, [.heard (Speaker.stop speaker).1], rfl⟩
    | false => exact ⟨fun _ => rfl, [], rfl⟩
  case delay => exact ⟨fun _ => h (by simp), [], rfl⟩
  case sound =>
    obtain rfl : beeping = false := h (by simp)
    cases hended : machine.timers.tickSound.1 with
    | true => exact ⟨fun _ => rfl, [], by simp [begun, tickEvents, tick, hended]⟩
    | false =>
      refine ⟨fun _ => rfl, [.silent], ?_⟩
      simp [begun, tickEvents, tick, hended, Round.events]
  case tone =>
    obtain rfl : beeping = false := h (by simp)
    rcases hbeep : Speaker.beep speaker with ⟨e | _, next⟩
    · refine ⟨by simp [Tidy, tick], [.unheard e], ?_⟩
      simp [begun, tickEvents, tick, hbeep, Round.events, Ticker.sound, Except.isOk, Except.toBool]
    · refine ⟨by simp [Tidy, tick], [], ?_⟩
      simp [begun, tickEvents, tick, hbeep, Ticker.sound, Except.isOk, Except.toBool]
  case gone => exact ⟨h, [], rfl⟩

/-- The speaker is told what the events of the ticker say. -/
theorem plays_tickEvents (s : Threads κ δ σ) :
    Plays s.ticker.speaker s.tickEvents s.tick.ticker.speaker := by
  obtain ⟨machine, ticker, place, stopped⟩ := s
  cases place
  case asleep | closing => exact .quiet ticker
  case tone => exact .call rfl (.nil _)
  case delay | sound => exact .other nofun (.nil _)
  case top | gone => exact .nil _

variable [Keypad κ] [Panel δ]

theorem plays_events (s : Threads κ δ σ) (turn : Turn) :
    Plays s.ticker.speaker (s.events turn) (s.after turn).ticker.speaker := by
  cases turn with
  | ticker => exact s.plays_tickEvents
  | halt => exact .nil _
  | machine a h =>
    exact .of_no_call _ fun told answer hmem => nomatch Machine.byTicker_of_mem_clockEvents hmem

theorem plays_log (s : Threads κ δ σ) (turns : List Turn) :
    Plays s.ticker.speaker (s.log turns) (s.run turns).ticker.speaker := by
  induction turns generalizing s with
  | nil => exact .nil _
  | cons turn turns ih => exact (s.plays_events turn).append (ih _)

/-- Any turn goes on with the round that is not over, or ends it; the machine has no part in it. -/
theorem exists_rounds_after (h : s.Tidy) (turn : Turn) :
    (s.after turn).Tidy ∧ ∃ rounds : List Round,
      s.begun ++ (s.events turn).filter ClockEvent.byTicker =
        rounds.flatMap Round.events ++ (s.after turn).begun := by
  cases turn with
  | ticker =>
    rw [events, filter_byTicker_tickEvents]
    exact exists_rounds_tick h
  | halt => exact ⟨h, [], List.append_nil _⟩
  | machine a ha =>
    have hnone : (s.machine.clockEvents a).filter ClockEvent.byTicker = [] :=
      List.filter_eq_nil_iff.2 fun e he => by simp [Machine.byTicker_of_mem_clockEvents he]
    refine ⟨h, [], ?_⟩
    rw [events, hnone]
    exact List.append_nil _

/-- What the thread does is round after round. -/
theorem exists_rounds (h : s.Tidy) (turns : List Turn) :
    (s.run turns).Tidy ∧ ∃ rounds : List Round,
      s.begun ++ (s.log turns).filter ClockEvent.byTicker =
        rounds.flatMap Round.events ++ (s.run turns).begun := by
  induction turns generalizing s with
  | nil => exact ⟨h, [], List.append_nil _⟩
  | cons turn turns ih =>
    obtain ⟨htidy, rounds, hrounds⟩ := exists_rounds_after h turn
    obtain ⟨htidy', rounds', hrounds'⟩ := ih htidy
    refine ⟨htidy', rounds ++ rounds', ?_⟩
    calc s.begun ++ (s.log (turn :: turns)).filter ClockEvent.byTicker
        = (s.begun ++ (s.events turn).filter ClockEvent.byTicker) ++
            ((s.after turn).log turns).filter ClockEvent.byTicker := by
          rw [log, List.filter_append, List.append_assoc]
      _ = rounds.flatMap Round.events ++
            ((s.after turn).begun ++ ((s.after turn).log turns).filter ClockEvent.byTicker) := by
          rw [hrounds, List.append_assoc]
      _ = (rounds ++ rounds').flatMap Round.events ++ ((s.after turn).run turns).begun := by
          rw [hrounds', List.flatMap_append, List.append_assoc]

end Threads

/-! ## Coming to an end -/

/-- How often a ticker that was told to stop still counts a timer down. -/
def TickerPlace.counting : Timer → TickerPlace → Nat
  | _, asleep | _, delay | .sound, sound => 1
  | .delay, sound | _, top | _, tone | _, closing | _, gone => 0

/-- How many turns at most a ticker that was told to stop still needs. -/
def TickerPlace.ahead : TickerPlace → Nat
  | asleep => 6
  | delay => 5
  | sound => 4
  | tone => 3
  | top => 2
  | closing => 1
  | gone => 0

theorem TickerPlace.ahead_eq_zero_iff {place : TickerPlace} : place.ahead = 0 ↔ place = .gone := by
  cases place <;> decide

theorem TickerPlace.ahead_le (place : TickerPlace) : place.ahead ≤ 6 := by
  cases place <;> decide

theorem TickerPlace.counting_le (i : Timer) (place : TickerPlace) : place.counting i ≤ 1 := by
  cases i <;> cases place <;> decide

namespace Threads

variable {κ δ σ : Type} {s : Threads κ δ σ} {i : Timer} [Keypad κ] [Panel δ] [Speaker σ]

/-- A ticker that was told to stop is not told otherwise. -/
theorem stopped_after (h : s.stopped = true) (turn : Turn) : (s.after turn).stopped = true := by
  obtain ⟨machine, ticker, place, stopped⟩ := s
  cases turn with
  | ticker => cases place <;> exact h
  | halt => rfl
  | machine => exact h

/-- A turn of a ticker that was told to stop takes off what it counts down. -/
theorem countP_events_add_counting (h : s.stopped = true) (i : Timer) (turn : Turn) :
    (s.events turn).countP (·.counts i) + (s.after turn).place.counting i = s.place.counting i := by
  obtain ⟨machine, ⟨speaker, beeping, warnings⟩, place, stopped⟩ := s
  subst h
  cases turn with
  | halt => exact Nat.zero_add _
  | machine a =>
    have hnone : (machine.clockEvents a).countP (·.counts i) = 0 := by
      refine List.countP_eq_zero.2 fun e he hcounts => ?_
      have hby := ClockEvent.byTicker_of_counts hcounts
      rw [Machine.byTicker_of_mem_clockEvents he] at hby
      cases hby
    rw [events, hnone]
    exact Nat.zero_add _
  | ticker =>
    cases place
    case asleep | closing => cases i <;> cases beeping <;> rfl
    case sound =>
      cases hended : machine.timers.tickSound.1 <;> cases i <;>
        simp [events, after, tick, tickEvents, hended, TickerPlace.counting, ClockEvent.counts]
    all_goals cases i <;> rfl

theorem countP_log_add_counting (h : s.stopped = true) (i : Timer) (turns : List Turn) :
    (s.log turns).countP (·.counts i) + (s.run turns).place.counting i = s.place.counting i := by
  induction turns generalizing s with
  | nil => exact Nat.zero_add _
  | cons turn turns ih =>
    have hone := countP_events_add_counting h i turn
    have hrest : _ + ((s.after turn).run turns).place.counting i = _ := ih (stopped_after h turn)
    have hrun : s.run (turn :: turns) = (s.after turn).run turns := rfl
    rw [log, List.countP_append, hrun]
    omega

/-- A ticker that was told to stop comes nearer to its end with each of its turns. -/
theorem ahead_after_le (h : s.stopped = true) (turn : Turn) :
    (s.after turn).place.ahead ≤ s.place.ahead - (if turn.isTicker then 1 else 0) := by
  obtain ⟨machine, ticker, place, stopped⟩ := s
  subst h
  cases turn with
  | halt | machine => exact Nat.le_refl _
  | ticker =>
    cases place
    case sound =>
      cases hended : machine.timers.tickSound.1 <;>
        simp [after, tick, hended, TickerPlace.ahead, Turn.isTicker]
    all_goals exact Nat.le_refl _

theorem ahead_run_le (h : s.stopped = true) (turns : List Turn) :
    (s.run turns).place.ahead ≤ s.place.ahead - turns.countP Turn.isTicker := by
  induction turns generalizing s with
  | nil => exact Nat.le_refl _
  | cons turn turns ih =>
    have hone := ahead_after_le h turn
    have hrest := ih (stopped_after h turn)
    have hrun : s.run (turn :: turns) = (s.after turn).run turns := rfl
    rw [List.countP_cons, hrun]
    omega

/-! ## From the start -/

/-- **The tones of a ticker.** Whatever turns are taken from the start on, and whatever the speaker
answers: the log is true of the timers, the speaker is told what the log says, in that order, and
the thread goes through rounds, of which the last one may not be over. In a round a tone is started
exactly if the sound timer ran out, and ended at once, before the next round begins, exactly if it
could be started; at the end of the thread every round is over. Once the ticker was told to stop
each timer counts down at most once more, and with six more turns of its own the thread is at its
end. -/
theorem run_tones (m : Machine κ δ) (speaker : σ) (turns : List Turn) :
    let s := started m speaker
    m.timers.Records (s.log turns) ∧ Plays speaker (s.log turns) (s.run turns).ticker.speaker ∧
    (∃ (rounds : List Round) (begun : List ClockEvent),
      (s.log turns).filter ClockEvent.byTicker = rounds.flatMap Round.events ++ begun ∧
      (∃ r : Round, begun <+: r.events ∧ begun ≠ r.events) ∧
      ((s.run turns).place = .gone → begun = [])) ∧
    ∀ before since, turns = before ++ .halt :: since →
      (∀ i, ((s.run (before ++ [.halt])).log since).countP (·.counts i) ≤ 1) ∧
      (6 ≤ since.countP Turn.isTicker → (s.run turns).place = .gone) := by
  intro s
  have htidy : s.Tidy := fun _ => rfl
  obtain ⟨-, rounds, hrounds⟩ := exists_rounds htidy turns
  refine ⟨s.records_log turns, s.plays_log turns, ⟨rounds, (s.run turns).begun, hrounds,
    (s.run turns).exists_round_of_begun, ?_⟩, ?_⟩
  · intro hgone
    simp only [begun, hgone]
  · rintro before since rfl
    have hstopped : (s.run (before ++ [.halt])).stopped = true := by
      rw [run_append]
      rfl
    refine ⟨fun i => ?_, fun hturns => ?_⟩
    · have hcount := countP_log_add_counting hstopped i since
      have hone := (s.run (before ++ [.halt])).place.counting_le i
      omega
    · have hleft := ahead_run_le hstopped since
      have hsix := (s.run (before ++ [.halt])).place.ahead_le
      rw [← run_append, List.append_assoc, List.singleton_append] at hleft
      exact TickerPlace.ahead_eq_zero_iff.1 (by omega)

/-- A ticker that is told to stop while its tone starts, with a speaker that cannot end tones: it
still tries to, once. -/
theorem run_tones_of_halt :
    let m : Machine ScriptedKeypad NoPanel :=
      { Machine.switchedOn ⟨[]⟩ NoPanel.mk with timers := { sound := 1 } }
    let speaker : RecordingSpeaker := { stopFails := true }
    let s := started m speaker
    let before : List Turn := [.ticker, .ticker, .ticker, .ticker]
    let since : List Turn := List.replicate 6 .ticker
    (s.run (before ++ .halt :: since)).place = .gone ∧
      (s.run (before ++ .halt :: since)).ticker.speaker.calls = [.stop, .beep] ∧
      ((s.run (before ++ [.halt])).log since).countP (·.counts .sound) ≤ 1 := by
  intro m speaker s before since
  obtain ⟨-, -, -, hstop⟩ := run_tones m speaker (before ++ .halt :: since)
  obtain ⟨hcount, hend⟩ := hstop before since rfl
  exact ⟨hend (by decide), rfl, hcount .sound⟩

end Threads

end Chip8
