import Chip8.Speaker
import Chip8.Timers
import Mathlib.Tactic.ByContra

set_option relaxedAutoImplicit false
set_option autoImplicit false

/-!
# What happens to the timers

The timers are shared: a machine reads and writes them, and a clock counts them down, one timer
after the other. Here is what either of them does to the timers and to the speaker, one thing at a
time, and what a timer holds after any number of these things in any order: the value last
written, less one for every time it counted down since then.

## Main definitions

* `Chip8.Timer`, `Chip8.Timers.value` — one of the timers, and what it holds.
* `Chip8.ClockEvent` — what happens to the timers and to the speaker.
* `Chip8.Timers.replay` — the timers after what happened to them.
* `Chip8.Timers.Records` — a list of events tells the truth about the timers.

## Main results

* `Chip8.Timers.toNat_value_replay` — a timer that is not written counts down to zero.
* `Chip8.Timers.toNat_value_replay_of_write` — a timer counts down from the value last written.
* `Chip8.Timers.exists_write_of_ended_ended` — the sound timer runs out twice only if it is
  written in between.
-/

namespace Chip8

/-- One of the two timers. -/
inductive Timer where
  | delay
  | sound
  deriving DecidableEq, Repr

/-- What happens to the timers and to the speaker. -/
inductive ClockEvent where
  /-- The delay timer is read. -/
  | read (v : UInt8)
  /-- A timer is written. -/
  | write (i : Timer) (v : UInt8)
  /-- The delay timer counts down. -/
  | countDelay
  /-- The sound timer counts down; `ended` is what the tick tells that this is the end of. -/
  | countSound (ended : Bool)
  /-- The speaker is told something and answers. -/
  | call (told : SoundCall) (answer : Except Error Unit)

/-- Whether a timer counts down. -/
def ClockEvent.counts (i : Timer) : ClockEvent → Bool
  | countDelay => i = .delay
  | countSound _ => i = .sound
  | read _ | write .. | call .. => false

namespace Timers

variable {t : Timers} {i : Timer} {v : UInt8} {e : ClockEvent} {log log' : List ClockEvent}

/-- What a timer holds. -/
def value (t : Timers) : Timer → UInt8
  | .delay => t.delay
  | .sound => t.sound

/-! ## One event -/

/-- The timers after something happened to them. -/
def afterEvent (t : Timers) : ClockEvent → Timers
  | .write .delay v => { t with delay := v }
  | .write .sound v => { t with sound := v }
  | .countDelay => t.tickDelay
  | .countSound _ => t.tickSound.2
  | .read _ | .call .. => t

theorem toNat_countDown (v : UInt8) : (countDown v).toNat = v.toNat - 1 := by
  have hv := v.toNat_lt
  unfold countDown
  split
  · rename_i hzero
    rw [hzero]
    rfl
  · rename_i hne
    rw [← UInt8.toNat_inj, UInt8.toNat_zero] at hne
    rw [UInt8.toNat_sub, UInt8.toNat_one]
    omega

@[simp] theorem value_afterEvent_write (t : Timers) (i : Timer) (v : UInt8) :
    (t.afterEvent (.write i v)).value i = v := by
  cases i <;> rfl

/-- A timer that is not written counts down by one, or stays. -/
theorem toNat_value_afterEvent (t : Timers) (h : ∀ v, e ≠ .write i v) :
    ((t.afterEvent e).value i).toNat = (t.value i).toNat - (if e.counts i then 1 else 0) := by
  cases e with
  | read | call => rfl
  | write j v =>
    have hne : j ≠ i := fun hj => h v (by rw [hj])
    cases i <;> cases j
    case delay.delay | sound.sound => exact absurd rfl hne
    all_goals rfl
  | countDelay =>
    cases i <;> simp [afterEvent, value, tickDelay, ClockEvent.counts, toNat_countDown]
  | countSound =>
    cases i <;> simp [afterEvent, value, tickSound, ClockEvent.counts, toNat_countDown]

/-! ## Many events -/

/-- The timers after all that happened to them. -/
def replay (t : Timers) (log : List ClockEvent) : Timers :=
  log.foldl afterEvent t

theorem replay_append (t : Timers) (log log' : List ClockEvent) :
    t.replay (log ++ log') = (t.replay log).replay log' :=
  List.foldl_append

/-- A timer that is not written counts down to zero and stays there. -/
theorem toNat_value_replay (t : Timers) (h : ∀ v, .write i v ∉ log) :
    ((t.replay log).value i).toNat = (t.value i).toNat - log.countP (·.counts i) := by
  induction log generalizing t with
  | nil => rfl
  | cons e log ih =>
    simp only [List.mem_cons, not_or] at h
    have hone := t.toNat_value_afterEvent fun v he => (h v).1 he.symm
    have hrest := ih (t.afterEvent e) fun v => (h v).2
    rw [List.countP_cons]
    simp only [replay, List.foldl_cons] at hrest ⊢
    omega

/-- After a timer was written it counts down from the value it was given. -/
theorem toNat_value_replay_of_write (t : Timers) (h : ∀ v', .write i v' ∉ log') :
    ((t.replay (log ++ .write i v :: log')).value i).toNat =
      v.toNat - log'.countP (·.counts i) := by
  have hsince := ((t.replay log).afterEvent (.write i v)).toNat_value_replay h
  rw [value_afterEvent_write] at hsince
  rwa [replay_append]

/-- A timer at zero stays there until it is given another value. -/
theorem value_replay_eq_zero (hzero : t.value i = 0) (h : ∀ v, .write i v ∈ log → v = 0) :
    (t.replay log).value i = 0 := by
  induction log generalizing t with
  | nil => exact hzero
  | cons e log ih =>
    refine ih ?_ fun v hv => h v (List.mem_cons_of_mem _ hv)
    by_cases hwrite : ∃ v, e = .write i v
    · obtain ⟨v, rfl⟩ := hwrite
      rw [value_afterEvent_write]
      exact h v List.mem_cons_self
    · have hone := t.toNat_value_afterEvent fun v hv => hwrite ⟨v, hv⟩
      rw [hzero] at hone
      rw [← UInt8.toNat_inj, hone]
      exact Nat.zero_sub _

/-! ## Truthful lists -/

/-- A list of events tells the truth: what was read is what the delay timer held, and a tick tells
that the sound timer ran out if it held one. -/
def Records (t : Timers) : List ClockEvent → Prop
  | [] => True
  | .read v :: log => v = t.delay ∧ t.Records log
  | .countSound ended :: log => (ended = true ↔ t.sound = 1) ∧ t.tickSound.2.Records log
  | e :: log => (t.afterEvent e).Records log

theorem records_append : t.Records (log ++ log') ↔ t.Records log ∧ (t.replay log).Records log' := by
  induction log generalizing t with
  | nil => simp [Records, replay]
  | cons e log ih =>
    have hreplay : t.replay (e :: log) = (t.afterEvent e).replay log := rfl
    rw [List.cons_append, hreplay]
    cases e <;> simp only [Records, ih, afterEvent, and_assoc]

/-- A tick that tells that the sound timer ran out leaves it at zero. -/
theorem sound_replay_of_ended (h : t.Records (log ++ .countSound true :: log')) :
    (t.replay (log ++ [.countSound true])).sound = 0 := by
  obtain ⟨-, hended, -⟩ := records_append.1 h
  have hone : (t.replay log).sound = 1 := hended.1 rfl
  have hcount : (t.replay (log ++ [.countSound true])).sound = countDown (t.replay log).sound := by
    rw [replay_append]
    rfl
  rw [hcount, hone]
  rfl

/-- The sound timer runs out twice only if it is given a value other than zero in between. -/
theorem exists_write_of_ended_ended {between : List ClockEvent}
    (h : t.Records (log ++ .countSound true :: (between ++ .countSound true :: log'))) :
    ∃ v, v ≠ 0 ∧ .write .sound v ∈ between := by
  have hzero := sound_replay_of_ended h
  rw [← List.singleton_append, ← List.append_assoc, records_append] at h
  obtain ⟨-, hbetween⟩ := h
  obtain ⟨-, hended, -⟩ := records_append.1 hbetween
  have hone : ((t.replay (log ++ [.countSound true])).replay between).sound = 1 := hended.1 rfl
  by_contra hno
  simp only [not_exists, not_and] at hno
  have hstays : ((t.replay (log ++ [.countSound true])).replay between).value .sound = 0 :=
    value_replay_eq_zero hzero fun v hv => by_contra fun hne => hno v hne hv
  rw [value, hone] at hstays
  exact absurd hstays (by decide)

end Timers

end Chip8
