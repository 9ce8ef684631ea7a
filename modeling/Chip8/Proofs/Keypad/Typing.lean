import Chip8.Keypad.Terminal
import Mathlib.Data.List.Nodup

set_option relaxedAutoImplicit false
set_option autoImplicit false

/-!
# What was typed

A keypad on a terminal knows no more than the events it has read, and when it read them. The key it
takes to be held is the last one typed, whatever else came after it and however the events were
shared out among the questions to the keypad, those that failed included; and the user wants to stop
once the escape key was read. The time that passes counts, also while the keypad reads.

## Main definitions

* `Chip8.TerminalKeypad.pollOver` — a question to the keypad during which time passes.
* `Chip8.TerminalKeypad.Happening`, `Chip8.TerminalKeypad.after` — what happens to a keypad, and the
  keypad after it.
* `Chip8.TerminalKeypad.Reading`, `Chip8.TerminalKeypad.log` — events with their times, and those
  that are read.
* `Chip8.TerminalKeypad.lastKey` — the last key that was typed.
* `Chip8.TerminalKeypad.Heard` — what a keypad owes to the events it read.

## Main results

* `Chip8.TerminalKeypad.pollOver_nil` — a question that takes no time.
* `Chip8.TerminalKeypad.heard_after`, `Chip8.TerminalKeypad.events_log` — the log tells what the
  keypad knows, and has all that arrived and does not wait any more.
* `Chip8.TerminalKeypad.pollOver_fst` — what the keypad answers.
* `Chip8.TerminalKeypad.keyOf_eq_some_iff` — the characters of a key.
* `Chip8.TerminalKeypad.typed_key_is_held` — all of it together.
-/

namespace Chip8

namespace TerminalKeypad

/-! ## Happenings -/

/-- How long some delays take together. -/
def total (delays : List Nat) : Nat :=
  delays.foldr (· + ·) 0

/-- What waits is read as far as `drain` reads it, while time passes: a delay before each event, and
what is left of the delays before there is nothing more to read. -/
def readOver (k : TerminalKeypad) :
    List Nat → List Signal → Except IoError Unit × TerminalKeypad
  | delays, .event e :: rest =>
    ((Keypad.elapse (delays.headD 0) k).take e).readOver delays.tail rest
  | delays, signals => (Keypad.elapse (total delays) k).drain signals

/-- Ask which key is down, while time passes. -/
def pollOver (k : TerminalKeypad) (delays : List Nat) :
    Except IoError (Option UInt8) × TerminalKeypad :=
  match k.readOver delays k.pending with
  | (.error e, k) => (.error e, k)
  | (.ok (), k) => (.ok k.keyDown, k)

/-- What happens to a keypad. -/
inductive Happening where
  /-- Something arrives at the terminal. -/
  | arrive (signals : List Signal)
  /-- Some nanoseconds pass. -/
  | elapse (nanos : Nat)
  /-- The keypad is asked which key is down, while time passes. -/
  | poll (delays : List Nat)
  deriving DecidableEq, Repr

/-- The keypad after something happened. -/
def afterOne (k : TerminalKeypad) : Happening → TerminalKeypad
  | .arrive signals => k.arrive signals
  | .elapse nanos => Keypad.elapse nanos k
  | .poll delays => (k.pollOver delays).2

/-- The keypad after some happenings. -/
def after (k : TerminalKeypad) (happenings : List Happening) : TerminalKeypad :=
  happenings.foldl afterOne k

theorem readOver_nil (k : TerminalKeypad) (signals : List Signal) :
    k.readOver [] signals = k.drain signals := by
  induction signals generalizing k with
  | nil => rfl
  | cons signal rest ih =>
    cases signal with
    | event e => exact ih (k.take e)
    | pause | failure e => rfl

/-- A question that takes no time. -/
theorem pollOver_nil (k : TerminalKeypad) : k.pollOver [] = Keypad.poll k := by
  rw [pollOver, readOver_nil]
  rfl

/-! ## Readings -/

/-- An event that was read, and when. -/
structure Reading where
  /-- The event. -/
  event : TerminalEvent
  /-- When it was read. -/
  time : Nat
  deriving DecidableEq, Repr

/-- The key that an event types. -/
def keyOfEvent : TerminalEvent → Option UInt8
  | .character c => keyOf c
  | _ => none

/-- The last key that was typed, and when it was read. -/
def lastKey (log : List Reading) : Option (UInt8 × Nat) :=
  log.reverse.findSome? fun r => (keyOfEvent r.event).map (·, r.time)

/-- The events among some signals. -/
def events (signals : List Signal) : List TerminalEvent :=
  signals.filterMap fun
    | .event e => some e
    | _ => none

/-- The events before the first pause or failure. -/
def ahead : List Signal → List TerminalEvent
  | .event e :: rest => e :: ahead rest
  | _ => []

/-- What comes after the first pause or failure. -/
def behind : List Signal → List Signal
  | .event _ :: rest => behind rest
  | _ :: rest => rest
  | [] => []

/-- The failure that comes before any pause. -/
def failure? : List Signal → Option IoError
  | .event _ :: rest => failure? rest
  | .failure e :: _ => some e
  | _ => none

/-- Events that are read one after another, with a delay before each. -/
def stamped : Nat → List Nat → List TerminalEvent → List Reading
  | _, _, [] => []
  | now, delays, e :: es =>
    ⟨e, now + delays.headD 0⟩ :: stamped (now + delays.headD 0) delays.tail es

/-- What is read when something happens. -/
def readIn (k : TerminalKeypad) : Happening → List Reading
  | .poll delays => stamped k.now delays (ahead k.pending)
  | _ => []

/-- What is read in some happenings. -/
def log (k : TerminalKeypad) : List Happening → List Reading
  | [] => []
  | h :: hs => k.readIn h ++ (k.afterOne h).log hs

/-- All that arrives in some happenings. -/
def arrived : List Happening → List Signal
  | [] => []
  | .arrive signals :: hs => signals ++ arrived hs
  | _ :: hs => arrived hs

/-- What is read later decides about the last key, if there is a key in it. -/
theorem lastKey_append (log log' : List Reading) :
    lastKey (log ++ log') = (lastKey log').or (lastKey log) := by
  simp only [lastKey, List.reverse_append, List.findSome?_append]

theorem log_concat (k : TerminalKeypad) (hs : List Happening) (h : Happening) :
    k.log (hs ++ [h]) = k.log hs ++ (k.after hs).readIn h := by
  induction hs generalizing k with
  | nil => simp [log, after]
  | cons h' hs ih =>
    simp only [List.cons_append, log, ih, List.append_assoc, after, List.foldl_cons]

theorem after_append (k : TerminalKeypad) (hs hs' : List Happening) :
    k.after (hs ++ hs') = (k.after hs).after hs' :=
  List.foldl_append

/-! ## What the keypad knows -/

/-- All that differs between two states of a keypad, but for what waits, is due to the time and to
the events that were read in between. -/
structure Heard (k : TerminalKeypad) (log : List Reading) (k' : TerminalKeypad) : Prop where
  /-- The key typed last is held, and stays so if there is none. -/
  held : k'.held = (lastKey log).or k.held
  /-- The escape key is remembered. -/
  quit : k'.quit = true ↔ k.quit = true ∨ ∃ r ∈ log, r.event = .escape
  /-- A key counts as down for as long as before. -/
  hold : k'.hold = k.hold
  /-- Time does not go back. -/
  now : k.now ≤ k'.now
  /-- What is read is read in between. -/
  times : ∀ r ∈ log, k.now ≤ r.time ∧ r.time ≤ k'.now

variable {k k' k'' : TerminalKeypad} {l l' : List Reading}

theorem Heard.trans (h : k.Heard l k') (h' : k'.Heard l' k'') : k.Heard (l ++ l') k'' where
  held := by rw [h'.held, h.held, lastKey_append, Option.or_assoc]
  quit := by
    rw [h'.quit, h.quit, or_assoc]
    simp only [List.mem_append, or_and_right, exists_or]
  hold := h'.hold.trans h.hold
  now := Nat.le_trans h.now h'.now
  times := by
    intro r hr
    rcases List.mem_append.1 hr with hr | hr
    · exact ⟨(h.times r hr).1, Nat.le_trans (h.times r hr).2 h'.now⟩
    · exact ⟨Nat.le_trans h.now (h'.times r hr).1, (h'.times r hr).2⟩

/-- Nothing is read while time passes and things arrive. -/
theorem heard_of_elapse (k : TerminalKeypad) (nanos : Nat) (pending : List Signal) :
    k.Heard [] { k with now := k.now + nanos, pending } where
  held := rfl
  quit := by simp
  hold := rfl
  now := Nat.le_add_right ..
  times := by simp

/-- An event is read. A character that stands for a key is all that changes the key held, and the
escape key all that makes the user want to stop. -/
theorem heard_take (k : TerminalKeypad) (nanos : Nat) (e : TerminalEvent) :
    k.Heard [⟨e, k.now + nanos⟩] ((Keypad.elapse nanos k).take e) := by
  have htimes : ∀ r ∈ [(⟨e, k.now + nanos⟩ : Reading)],
      k.now ≤ r.time ∧ r.time ≤ k.now + nanos := by simp
  cases e with
  | character c =>
    cases hkey : keyOf c with
    | some key =>
      simp only [take, hkey]
      exact ⟨by simp [lastKey, keyOfEvent, hkey, Keypad.elapse], by simp [Keypad.elapse], rfl,
        Nat.le_add_right .., htimes⟩
    | none =>
      simp only [take, hkey]
      exact ⟨by simp [lastKey, keyOfEvent, hkey, Keypad.elapse], by simp [Keypad.elapse], rfl,
        Nat.le_add_right .., htimes⟩
  | escape => exact ⟨rfl, by simp [take], rfl, Nat.le_add_right .., htimes⟩
  | otherKey | resize | other =>
    exact ⟨rfl, by simp [take, Keypad.elapse], rfl, Nat.le_add_right .., htimes⟩

theorem now_take (k : TerminalKeypad) (e : TerminalEvent) : (k.take e).now = k.now := by
  cases e with
  | character c =>
    simp only [take]
    split
    · rfl
    · rfl
  | escape | otherKey | resize | other => rfl

/-- The keypad reads up to the first pause or failure.

**Proof sketch.** Induction on what waits. An event is read after its delay (`heard_take`), and the
others after it; at a pause or a failure nothing is read. -/
theorem heard_readOver (k : TerminalKeypad) (delays : List Nat) (signals : List Signal) :
    k.Heard (stamped k.now delays (ahead signals)) (k.readOver delays signals).2 := by
  induction signals generalizing k delays with
  | nil => exact k.heard_of_elapse (total delays) []
  | cons signal rest ih =>
    cases signal with
    | event e =>
      have hrest := ih ((Keypad.elapse (delays.headD 0) k).take e) delays.tail
      rw [now_take] at hrest
      exact (k.heard_take (delays.headD 0) e).trans hrest
    | pause | failure e => exact k.heard_of_elapse (total delays) rest

/-- Whether the reading fails depends on what waits only. -/
theorem readOver_fst (k : TerminalKeypad) (delays : List Nat) (signals : List Signal) :
    (k.readOver delays signals).1 = (failure? signals).elim (.ok ()) .error := by
  induction signals generalizing k delays with
  | nil => rfl
  | cons signal rest ih =>
    cases signal with
    | event e => exact ih _ _
    | pause | failure e => rfl

theorem pending_readOver (k : TerminalKeypad) (delays : List Nat) (signals : List Signal) :
    (k.readOver delays signals).2.pending = behind signals := by
  induction signals generalizing k delays with
  | nil => rfl
  | cons signal rest ih =>
    cases signal with
    | event e => exact ih _ _
    | pause | failure e => rfl

/-- All delays pass. -/
theorem now_readOver (k : TerminalKeypad) (delays : List Nat) (signals : List Signal) :
    (k.readOver delays signals).2.now = k.now + total delays := by
  induction signals generalizing k delays with
  | nil => rfl
  | cons signal rest ih =>
    cases signal with
    | event e =>
      refine (ih _ _).trans ?_
      rw [now_take]
      cases delays with
      | nil => rfl
      | cons delay delays => exact Nat.add_assoc ..
    | pause | failure e => rfl

/-! ## Questions -/

/-- What a question leaves behind is what the reading leaves behind. -/
theorem pollOver_snd (k : TerminalKeypad) (delays : List Nat) :
    (k.pollOver delays).2 = (k.readOver delays k.pending).2 := by
  rw [pollOver]
  rcases k.readOver delays k.pending with ⟨_ | _, _⟩
  · rfl
  · rfl

/-- The keypad answers with a failure that it comes upon, and else with the key that counts as
down. -/
theorem pollOver_fst (k : TerminalKeypad) (delays : List Nat) :
    (k.pollOver delays).1 =
      (failure? k.pending).elim (.ok (k.pollOver delays).2.keyDown) .error := by
  have hfst := k.readOver_fst delays k.pending
  rw [pollOver_snd, pollOver]
  rcases hread : k.readOver delays k.pending with ⟨e | _, k'⟩
  · cases hfailure : failure? k.pending with
    | none => simp [hread, hfailure] at hfst
    | some e' => simpa [hread, hfailure] using hfst
  · cases hfailure : failure? k.pending with
    | none => rfl
    | some e' => simp [hread, hfailure] at hfst

/-- A key counts as down for some time after it was read. -/
theorem keyDown_eq_some_iff {key : UInt8} :
    k.keyDown = some key ↔ ∃ since, k.held = some (key, since) ∧ k.now - since < k.hold := by
  rw [keyDown]
  cases hheld : k.held with
  | none => simp
  | some typed =>
    obtain ⟨key', since⟩ := typed
    simp only [Option.ite_none_right_eq_some, Option.some.injEq, Prod.mk.injEq]
    constructor
    · rintro ⟨hsince, rfl⟩
      exact ⟨since, ⟨rfl, rfl⟩, hsince⟩
    · rintro ⟨since, ⟨rfl, rfl⟩, hsince⟩
      exact ⟨hsince, rfl⟩

/-- One happening. -/
theorem heard_afterOne (k : TerminalKeypad) (h : Happening) :
    k.Heard (k.readIn h) (k.afterOne h) := by
  cases h with
  | arrive signals => exact k.heard_of_elapse 0 _
  | elapse nanos => exact k.heard_of_elapse nanos k.pending
  | poll delays =>
    rw [afterOne, pollOver_snd]
    exact k.heard_readOver delays k.pending

/-- Any happenings. -/
theorem heard_after (k : TerminalKeypad) (hs : List Happening) :
    k.Heard (k.log hs) (k.after hs) := by
  induction hs generalizing k with
  | nil => exact k.heard_of_elapse 0 k.pending
  | cons h hs ih => exact (k.heard_afterOne h).trans (ih (k.afterOne h))

/-! ## Nothing is lost -/

theorem events_append (signals signals' : List Signal) :
    events (signals ++ signals') = events signals ++ events signals' :=
  List.filterMap_append

theorem map_event_stamped (now : Nat) (delays : List Nat) (es : List TerminalEvent) :
    (stamped now delays es).map Reading.event = es := by
  induction es generalizing now delays with
  | nil => rfl
  | cons e es ih => simp only [stamped, List.map_cons, ih]

theorem ahead_append_behind (signals : List Signal) :
    ahead signals ++ events (behind signals) = events signals := by
  induction signals with
  | nil => rfl
  | cons signal rest ih =>
    cases signal with
    | event e => exact congrArg (e :: ·) ih
    | pause | failure e => rfl

/-- An event that waits or arrives is read, or waits afterwards. -/
theorem events_log (k : TerminalKeypad) (hs : List Happening) :
    (k.log hs).map Reading.event ++ events (k.after hs).pending =
      events k.pending ++ events (arrived hs) := by
  induction hs generalizing k with
  | nil => simp [log, after, arrived, events]
  | cons h hs ih =>
    have hrest := ih (k.afterOne h)
    simp only [log, List.map_append, List.append_assoc, after, List.foldl_cons] at hrest ⊢
    rw [hrest]
    cases h with
    | arrive signals => simp [readIn, afterOne, arrive, arrived, events_append]
    | elapse nanos => rfl
    | poll delays =>
      rw [readIn, map_event_stamped, afterOne, pollOver_snd, pending_readOver, ← List.append_assoc,
        ahead_append_behind]
      rfl

/-! ## Characters -/

/-- A key has one character, in either case. -/
theorem keyOf_eq_some_iff {c : Char} {key : UInt8} :
    keyOf c = some key ↔ layout[key.toNat]? = some c.toLower := by
  have hnodup : layout.Nodup := by decide
  simp only [keyOf, Option.map_eq_some_iff, List.idxOf?_eq_some_iff]
  constructor
  · rintro ⟨i, ⟨hi, hc, -⟩, rfl⟩
    have hi16 : i < 16 := hi
    have hkey : (UInt8.ofNat i).toNat = i := UInt8.toNat_ofNat_of_lt (Nat.lt_trans hi16 (by decide))
    rw [hkey, List.getElem?_eq_getElem hi, hc]
  · intro hc
    obtain ⟨hlt, hc⟩ := List.getElem?_eq_some_iff.1 hc
    refine ⟨key.toNat, ⟨hlt, hc, fun j hj hsame => ?_⟩, UInt8.ofNat_toNat⟩
    have hj' := (hnodup.getElem_inj_iff).1 (hsame.trans hc.symm)
    omega

/-- A key is one of the machine's own. -/
theorem toNat_lt_of_keyOf_eq_some {c : Char} {key : UInt8} (h : keyOf c = some key) :
    key.toNat < 16 :=
  (List.getElem?_eq_some_iff.1 (keyOf_eq_some_iff.1 h)).1

theorem keyOfEvent_eq_some_iff {e : TerminalEvent} {key : UInt8} :
    keyOfEvent e = some key ↔ ∃ c, e = .character c ∧ keyOf c = some key := by
  cases e with
  | character c => simp [keyOfEvent]
  | escape | otherKey | resize | other => simp [keyOfEvent]

/-- The last key comes from a character after which no other one stands for a key. -/
theorem lastKey_eq_some_iff {l : List Reading} {key : UInt8} {since : Nat} :
    lastKey l = some (key, since) ↔ ∃ before c later,
      l = before ++ ⟨.character c, since⟩ :: later ∧ keyOf c = some key ∧
        ∀ r ∈ later, keyOfEvent r.event = none := by
  simp only [lastKey, List.findSome?_eq_some_iff, Option.map_eq_some_iff, Option.map_eq_none_iff,
    Prod.mk.injEq]
  constructor
  · rintro ⟨later, ⟨e, _⟩, before, hl, ⟨_, hkey, rfl, rfl⟩, hlater⟩
    obtain ⟨c, rfl, hc⟩ := keyOfEvent_eq_some_iff.1 hkey
    refine ⟨before.reverse, c, later.reverse, ?_, hc, fun r hr => hlater r (List.mem_reverse.1 hr)⟩
    simpa using congrArg List.reverse hl
  · rintro ⟨before, c, later, rfl, hc, hlater⟩
    exact ⟨later.reverse, ⟨.character c, since⟩, before.reverse, by simp,
      ⟨key, hc, rfl, rfl⟩, fun r hr => hlater r (List.mem_reverse.1 hr)⟩

/-! ## The keypad -/

/-- **The last key typed is held, for as long as keys count as down.** Let anything happen to a new
keypad. What it has read is what arrived, up to what still waits, with times that have come. The key
held is that of the last character read that stands for a key, with the time of this character, and
the user wants to stop exactly if the escape key was read, which nothing takes back. Ask the keypad
then, and let any time pass meanwhile: it reads on up to the first pause or failure, answers with
the failure if there is one, and else with the key held if it was read less than the hold time ago.
So with no hold time there is never a key, and a key is always below 16. Each of these keys has one
character, which types it in either case. -/
theorem typed_key_is_held (hold now : Nat) (happenings : List Happening) :
    let start : TerminalKeypad := { hold, now }
    let k := start.after happenings
    let log := start.log happenings
    (events (arrived happenings) = log.map Reading.event ++ events k.pending ∧
      ∀ r ∈ log, now ≤ r.time ∧ r.time ≤ k.now) ∧
    (∀ key since, k.held = some (key, since) ↔ ∃ before c later,
      log = before ++ ⟨.character c, since⟩ :: later ∧ keyOf c = some key ∧
        ∀ r ∈ later, keyOfEvent r.event = none) ∧
    ((k.quit = true ↔ ∃ r ∈ log, r.event = .escape) ∧
      ∀ more, k.quit = true → (k.after more).quit = true) ∧
    k.pollOver [] = Keypad.poll k ∧
    (∀ delays,
      let answer := (k.pollOver delays).1
      let k' := start.after (happenings ++ [.poll delays])
      (k' = (k.pollOver delays).2 ∧ k'.now = k.now + total delays ∧
        start.log (happenings ++ [.poll delays]) =
          log ++ stamped k.now delays (ahead k.pending)) ∧
      (∀ e, answer = .error e ↔ failure? k.pending = some e) ∧
      (∀ key, answer = .ok (some key) ↔ failure? k.pending = none ∧
        ∃ since, k'.held = some (key, since) ∧ k'.now - since < hold) ∧
      (hold = 0 → ∀ key, answer ≠ .ok (some key)) ∧
      ∀ key, answer = .ok (some key) → key.toNat < 16) ∧
    ∀ key : UInt8, key.toNat < 16 → ∃ c, (∀ c', keyOf c' = some key ↔ c'.toLower = c) ∧
      (0 < hold → ∀ c', c'.toLower = c →
        (Keypad.poll (start.arrive [.event (.character c')])).1 = .ok (some key)) := by
  intro start k log
  have hheard := start.heard_after happenings
  have hheld (hs : List Happening) (key : UInt8) (since : Nat) :
      (start.after hs).held = some (key, since) ↔ lastKey (start.log hs) = some (key, since) := by
    rw [(start.heard_after hs).held, Option.or_none]
  refine ⟨⟨?_, hheard.times⟩, fun key since => ?_, ⟨?_, fun more hquit => ?_⟩, k.pollOver_nil,
    fun delays => ?_, fun key hkey => ?_⟩
  · exact (start.events_log happenings).symm
  · rw [hheld, lastKey_eq_some_iff]
  · rw [hheard.quit]
    exact or_iff_right Bool.false_ne_true
  · exact (k.heard_after more).quit.2 (Or.inl hquit)
  · intro answer k'
    have hk' : k' = (k.pollOver delays).2 := start.after_append happenings [.poll delays]
    have hhold : k'.hold = hold := (start.heard_after (happenings ++ [.poll delays])).hold
    have hanswer : answer = (failure? k.pending).elim (.ok k'.keyDown) .error := by
      rw [hk']
      exact k.pollOver_fst delays
    have hkey (key : UInt8) : answer = .ok (some key) ↔ failure? k.pending = none ∧
        ∃ since, k'.held = some (key, since) ∧ k'.now - since < hold := by
      rw [← hhold, ← keyDown_eq_some_iff, hanswer]
      cases failure? k.pending <;> simp
    refine ⟨⟨hk', ?_, ?_⟩, fun e => ?_, hkey, fun hzero key hdown => ?_, fun key hdown => ?_⟩
    · rw [hk', pollOver_snd, now_readOver]
    · exact start.log_concat happenings _
    · rw [hanswer]
      cases failure? k.pending <;> simp
    · obtain ⟨-, since, -, hsince⟩ := (hkey key).1 hdown
      omega
    · obtain ⟨-, since, hsince, -⟩ := (hkey key).1 hdown
      obtain ⟨-, c, -, -, hc, -⟩ := lastKey_eq_some_iff.1 ((hheld _ key since).1 hsince)
      exact toNat_lt_of_keyOf_eq_some hc
  · have hchar (c' : Char) : keyOf c' = some key ↔ c'.toLower = layout[key.toNat] := by
      rw [keyOf_eq_some_iff, List.getElem?_eq_getElem hkey, Option.some.injEq, eq_comm]
    refine ⟨layout[key.toNat], hchar, fun hpos c' hc' => ?_⟩
    have htyped : keyOf c' = some key := (hchar c').2 hc'
    simp [Keypad.poll, arrive, drain, take, htyped, keyDown, start, hpos]

/-- A failure between a key and the escape key. The question that comes upon it fails, but has read
the key; the next one reads on from there, and the key is down if it does not take too long. -/
theorem typed_key_is_held_after_failure :
    let start : TerminalKeypad := { hold := 10, now := 0 }
    let hung : IoError := .device "hung up"
    let arrival : Happening :=
      .arrive [.event (.character 'Q'), .failure hung, .event .escape, .event (.character 'k')]
    let k := start.after [arrival, .poll [3]]
    ((start.after [arrival]).pollOver [3]).1 = .error hung ∧ k.held = some (4, 3) ∧
      k.quit ≠ true ∧ (k.after [.poll [9]]).quit = true ∧
      (k.pollOver [9]).1 = .ok (some 4) ∧ (k.pollOver [10]).1 ≠ .ok (some 4) := by
  intro start hung arrival k
  obtain ⟨-, -, -, -, hfirst, -⟩ := typed_key_is_held 10 0 [arrival]
  obtain ⟨-, hheld, ⟨hquit, -⟩, -, hpoll, -⟩ := typed_key_is_held 10 0 [arrival, .poll [3]]
  obtain ⟨-, -, ⟨hquit', -⟩, -⟩ := typed_key_is_held 10 0 [arrival, .poll [3], .poll [9]]
  refine ⟨((hfirst [3]).2.1 hung).2 rfl, ?_, ?_, ?_, ?_, ?_⟩
  · exact (hheld 4 3).2 ⟨[], 'Q', [], rfl, by decide, by decide⟩
  · rw [Ne, hquit]
    decide
  · exact hquit'.2 ⟨⟨.escape, 12⟩, by decide, rfl⟩
  · exact ((hpoll [9]).2.2.1 4).2 ⟨rfl, 3, rfl, by decide⟩
  · rw [Ne, (hpoll [10]).2.2.1 4]
    rintro ⟨-, since, hsince, hlt⟩
    obtain rfl : since = 3 := by
      have hsame : some ((4 : UInt8), 3) = some (4, since) := hsince
      simpa using hsame.symm
    exact absurd hlt (by decide)

end TerminalKeypad

end Chip8
