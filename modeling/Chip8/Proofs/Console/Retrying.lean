import Chip8.Proofs.Console.Devices
import Chip8.Proofs.Console.Quitting

set_option relaxedAutoImplicit false
set_option autoImplicit false

/-!
# Outages of the keypad

A keypad may be out of order for a while. A question that meets an outage fails and uses nothing
up, so that the step it belongs to can be taken again. The step may have asked twice, and the
outage may have come after a key ended a wait: then the wait is over, and the step that is taken
again goes on with the instruction after it. In the end there is nothing to be seen of an outage.

## Main definitions

* `Chip8.InterruptedKeypad` — a keypad with outages between its answers.
* `Chip8.Console.interrupted`, `Chip8.Console.uninterrupted` — a console with outages, and without.
* `Chip8.Console.retry` — a step, taken again as long as it meets an outage.
* `Chip8.Console.persist` — a run whose steps are taken so.

## Main results

* `Chip8.Console.step_interrupted` — what a step with outages comes to.
* `Chip8.Console.retry_uninterrupted` — a step that is taken until it meets no outage.
* `Chip8.Console.outages_do_not_show` — a run with outages and the run without them.
-/

namespace Chip8

/-- A keypad with outages between its answers. -/
structure InterruptedKeypad (κ : Type) where
  /-- The keypad behind, which learns nothing of the outages. -/
  inner : κ
  /-- What the next questions meet, in order: an outage with its error, or an answer. All questions
  after them get an answer. -/
  outages : List (Option IoError)

namespace InterruptedKeypad

variable {κ : Type}

/-- How many outages are still to come. -/
def left (k : InterruptedKeypad κ) : Nat :=
  k.outages.countP Option.isSome

variable [Keypad κ]

instance : Keypad (InterruptedKeypad κ) where
  poll k :=
    match k.outages.head?.join with
    | some e => (.error e, { k with outages := k.outages.tail })
    | none =>
      let (r, inner) := Keypad.poll k.inner
      (r, { inner, outages := k.outages.tail })
  quitRequested k := Keypad.quitRequested k.inner
  elapse t k := { k with inner := Keypad.elapse t k.inner }

/-- A question meets an outage or gets to the keypad behind. -/
theorem poll_cases (k : InterruptedKeypad κ) :
    (∃ e k', some e ∈ k.outages ∧ Keypad.poll k = (.error e, k') ∧ k'.inner = k.inner ∧
        k'.left < k.left) ∨
      Keypad.Relays inner k ∧ (Keypad.poll k).2.left = k.left := by
  obtain ⟨inner, _ | ⟨_ | e, outages⟩⟩ := k
  · exact .inr ⟨rfl, rfl⟩
  · exact .inr ⟨rfl, by simp [left, Keypad.poll]⟩
  · exact .inl ⟨e, ⟨inner, outages⟩, by simp, rfl, rfl, by simp [left]⟩

/-- Every question uses up what it meets. -/
theorem outages_asked (k : InterruptedKeypad κ) (n : Nat) :
    (Keypad.asked k n).outages = k.outages.drop n := by
  have hpoll (k : InterruptedKeypad κ) : (Keypad.poll k).2.outages = k.outages.tail := by
    simp only [Keypad.poll]
    split
    · rfl
    · rfl
  induction n with
  | zero => rfl
  | succ n ih => rw [Keypad.asked, hpoll, ih, List.tail_drop]

end InterruptedKeypad

namespace Console

variable {κ δ σ : Type}

/-- The console with outages of its keypad to come. -/
def interrupted (c : Console κ δ σ) (outages : List (Option IoError)) :
    Console (InterruptedKeypad κ) δ σ :=
  c.through (fun inner => ⟨inner, outages⟩) id

/-- The console without any outages. -/
def uninterrupted (d : Console (InterruptedKeypad κ) δ σ) : Console κ δ σ :=
  d.through InterruptedKeypad.inner id

/-- How many outages are still to come. -/
def outagesLeft (d : Console (InterruptedKeypad κ) δ σ) : Nat :=
  d.machine.keypad.left

/-- Only what is behind the outages counts without them. -/
theorem uninterrupted_onKeypad {d : Console (InterruptedKeypad κ) δ σ} {k : InterruptedKeypad κ}
    (hinner : k.inner = d.machine.keypad.inner) :
    (d.onKeypad k).uninterrupted = d.uninterrupted := by
  have hmachine : (d.onKeypad k).machine.through InterruptedKeypad.inner id =
      d.machine.onDevices k.inner d.machine.screen.panel := rfl
  rw [uninterrupted, through, hmachine, hinner]
  rfl

variable [Keypad κ] [Panel δ] {d : Console (InterruptedKeypad κ) δ σ}

/-! ## One step -/

/-- The step met an outage: it failed, and can be taken again as if nothing had been. -/
structure Interrupted (d : Console (InterruptedKeypad κ) δ σ) : Prop where
  /-- It failed as the outage told. -/
  fails : ∃ e, some e ∈ d.machine.keypad.outages ∧ d.step.1 = .error (.io e)
  /-- The outage is over. -/
  fewer : d.step.2.outagesLeft < d.outagesLeft
  /-- Without outages the step is the same before and after. -/
  same : d.step.2.uninterrupted.step = d.uninterrupted.step

/-- The step met no outage: without outages it is the same. -/
structure Undisturbed (d : Console (InterruptedKeypad κ) δ σ) : Prop where
  /-- The step is the same. -/
  same : d.uninterrupted.step = (d.step.1, d.step.2.uninterrupted)
  /-- No outage is over. -/
  asMany : d.step.2.outagesLeft = d.outagesLeft

/-- A step that meets an outage has done nothing but ask. -/
theorem Interrupted.of_step_eq {e : IoError} {k : InterruptedKeypad κ}
    (hstep : d.step = (.error (.io e), d.onKeypad k)) (he : some e ∈ d.machine.keypad.outages)
    (hinner : k.inner = d.machine.keypad.inner) (hleft : k.left < d.machine.keypad.left) :
    d.Interrupted := by
  refine ⟨⟨e, he, ?_⟩, ?_, ?_⟩
  · rw [hstep]
  · rw [hstep]
    exact hleft
  · rw [hstep, uninterrupted_onKeypad hinner]

/-- A step that does nothing but ask is undisturbed if it gets its answer. -/
theorem Undisturbed.of_step_eq {r : Except Error Step} {k : InterruptedKeypad κ}
    (hstep : d.step = (r, d.onKeypad k))
    (hbehind : d.uninterrupted.step = (r, d.uninterrupted.onKeypad k.inner))
    (hleft : k.left = d.machine.keypad.left) : d.Undisturbed := by
  refine ⟨?_, ?_⟩
  · rw [hstep]
    exact hbehind
  · rw [hstep]
    exact hleft

/-- A console whose instruction gets its answer, or asks for none, is undisturbed. -/
theorem undisturbed_of_awake (hx : d.machine.cpu.awaiting = none)
    (h : ∀ ins, d.machine.fetch = .ok ins → ins.AsksKeypad →
      Keypad.Relays InterruptedKeypad.inner d.machine.keypad ∧
        (Keypad.poll d.machine.keypad).2.left = d.machine.keypad.left) :
    d.Undisturbed := by
  have hw : d.machine.isWaiting = false := Machine.isWaiting_eq_false_iff.2 hx
  refine ⟨step_through (fun hwait => ?_) (fun m ins hm hfetch hasks => ?_) fun _ _ => rfl, ?_⟩
  · rw [hw] at hwait
    cases hwait
  · cases hm with
    | awake => exact (h ins hfetch hasks).1
    | key hx' => rw [hx] at hx'; cases hx'
  · cases hfetch : d.machine.fetch with
    | error e =>
      rw [(Takes.lost (.awake hx) hfetch).step_eq]
      rfl
    | ok ins =>
      have hkeypad := keypad_step_of_fetch (Machine.canProceed_of_not_isWaiting hw) hw hfetch
      rw [outagesLeft, hkeypad]
      split
      · rename_i hasks
        exact (h ins hfetch hasks).2
      · rfl

/-- A step that takes an instruction at once meets an outage or not. -/
theorem step_interrupted_of_awake (hx : d.machine.cpu.awaiting = none) :
    d.Undisturbed ∨ d.Interrupted := by
  by_cases hasks : ∃ ins, d.machine.fetch = .ok ins ∧ ins.AsksKeypad
  · obtain ⟨ins, hfetch, hasks⟩ := hasks
    rcases d.machine.keypad.poll_cases with ⟨e, k, he, hpoll, hinner, hleft⟩ | hrelays
    · have hrun := Machine.execute_of_unheard (Machine.isWaiting_eq_false_iff.2 hx) hasks hpoll
      exact .inr (.of_step_eq (Takes.refused (.awake hx) hfetch hrun).step_eq he hinner hleft)
    · exact .inl (undisturbed_of_awake hx fun _ _ _ => hrelays)
  · refine .inl (undisturbed_of_awake hx fun ins hfetch hasks' => ?_)
    exact absurd ⟨ins, hfetch, hasks'⟩ hasks

/-- A step with a wait that a key ends is the step of the console as the key made it, with and
without outages. -/
theorem step_interrupted_of_key {m : Machine (InterruptedKeypad κ) δ} (hm : d.machine.Proceeds m)
    (hrelays : Keypad.Relays InterruptedKeypad.inner d.machine.keypad)
    (houtages : m.keypad.outages ⊆ d.machine.keypad.outages)
    (hleft : m.keypad.left = d.machine.keypad.left) : d.Undisturbed ∨ d.Interrupted := by
  have hstep := step_of_proceeds hm
  have hbehind : d.uninterrupted.step = (d.onMachine m).uninterrupted.step :=
    step_of_proceeds (hm.through fun _ => hrelays)
  have hmany : (d.onMachine m).outagesLeft = d.outagesLeft := hleft
  rcases step_interrupted_of_awake (d := d.onMachine m) hm.awaiting_eq with h | h
  · refine .inl ⟨?_, ?_⟩
    · rw [hbehind, h.same, hstep]
    · rw [hstep, h.asMany, hmany]
  · obtain ⟨e, he, hfails⟩ := h.fails
    refine .inr ⟨⟨e, houtages he, ?_⟩, ?_, ?_⟩
    · rw [hstep, hfails]
    · rw [hstep, ← hmany]
      exact h.fewer
    · rw [hstep, hbehind, h.same]

/-- A step meets an outage or not.

**Proof sketch.** If the machine waits, the first question may meet an outage, and nothing else
has happened then. If a key ends the wait, the instruction after it may meet one
(`step_interrupted_of_key`). Without a wait there is only that instruction. -/
theorem step_interrupted (d : Console (InterruptedKeypad κ) δ σ) :
    d.Undisturbed ∨ d.Interrupted := by
  cases hx : d.machine.cpu.awaiting with
  | none => exact step_interrupted_of_awake hx
  | some x =>
    rcases d.machine.keypad.poll_cases with ⟨e, k, he, hpoll, hinner, hleft⟩ | ⟨hrelays, hleft⟩
    · exact .inr (.of_step_eq (Takes.unheard hx hpoll).step_eq he hinner hleft)
    · have houtages := d.machine.keypad.outages_asked 1
      have hbehind : Keypad.poll d.machine.keypad.inner = _ := hrelays
      simp only [Keypad.asked] at houtages
      rcases hpoll : Keypad.poll d.machine.keypad with ⟨e | _ | key, k⟩
      · rw [hpoll] at hleft hbehind
        exact .inl (.of_step_eq (Takes.unheard hx hpoll).step_eq
          (Takes.unheard (c := d.uninterrupted) hx hbehind).step_eq hleft)
      · rw [hpoll] at hleft hbehind
        exact .inl (.of_step_eq (Takes.silent hx hpoll).step_eq
          (Takes.silent (c := d.uninterrupted) hx hbehind).step_eq hleft)
      · rw [hpoll] at hleft houtages
        have hfewer : k.outages ⊆ d.machine.keypad.outages := by
          rw [houtages]
          exact List.drop_subset ..
        exact step_interrupted_of_key (.key hx hpoll) hrelays hfewer hleft

/-! ## Taking a step again -/

/-- Take a step, and take it again as long as it meets an outage. -/
def retry (d : Console (InterruptedKeypad κ) δ σ) :
    Except Error Step × Console (InterruptedKeypad κ) δ σ :=
  if d.step.2.outagesLeft < d.outagesLeft then d.step.2.retry else d.step
termination_by d.outagesLeft

/-- An induction on the outages that a step meets. -/
theorem retry_induction {P : Console (InterruptedKeypad κ) δ σ → Prop}
    (hdone : ∀ d, d.Undisturbed → d.retry = d.step → P d)
    (hagain : ∀ d, d.Interrupted → d.retry = d.step.2.retry → P d.step.2 → P d)
    (d : Console (InterruptedKeypad κ) δ σ) : P d := by
  induction hn : d.outagesLeft using Nat.strongRecOn generalizing d with
  | ind n ih =>
    subst hn
    rcases d.step_interrupted with h | h
    · apply hdone d h
      rw [retry, if_neg (Nat.not_lt.2 (Nat.le_of_eq h.asMany.symm))]
    · apply hagain d h
      · rw [retry, if_pos h.fewer]
      · exact ih _ h.fewer _ rfl

/-- A step that is taken until it meets no outage is the step without outages. -/
theorem retry_uninterrupted (d : Console (InterruptedKeypad κ) δ σ) :
    d.uninterrupted.step = (d.retry.1, d.retry.2.uninterrupted) := by
  induction d using retry_induction with
  | hdone d h hretry => rw [hretry, h.same]
  | hagain d h hretry ih => rw [hretry, ← ih, h.same]

/-- No step brings new outages. -/
theorem outages_step (d : Console (InterruptedKeypad κ) δ σ) :
    d.step.2.machine.keypad.outages ⊆ d.machine.keypad.outages := by
  obtain ⟨n, hkeypad, -⟩ := d.keypad_step
  rw [hkeypad, InterruptedKeypad.outages_asked]
  exact List.drop_subset ..

/-- The step is taken some times more; each time before the last it failed by an outage. -/
theorem retry_eq_after (d : Console (InterruptedKeypad κ) δ σ) :
    ∃ n ≤ d.outagesLeft, d.retry = (d.after n).step ∧
      ∀ j < n, ∃ e, some e ∈ d.machine.keypad.outages ∧ (d.after j).step.1 = .error (.io e) := by
  induction d using retry_induction with
  | hdone d h hretry => exact ⟨0, Nat.zero_le _, hretry, fun j hj => absurd hj (Nat.not_lt_zero j)⟩
  | hagain d h hretry ih =>
    obtain ⟨n, hn, hlast, hbefore⟩ := ih
    refine ⟨n + 1, Nat.succ_le_of_lt (Nat.lt_of_le_of_lt hn h.fewer), ?_, fun j hj => ?_⟩
    · rw [hretry, hlast, after_succ]
    · cases j with
      | zero => exact h.fails
      | succ j =>
        obtain ⟨e, he, hfails⟩ := hbefore j (Nat.lt_of_succ_lt_succ hj)
        rw [after_succ]
        exact ⟨e, d.outages_step he, hfails⟩

theorem outages_retry (d : Console (InterruptedKeypad κ) δ σ) :
    d.retry.2.machine.keypad.outages ⊆ d.machine.keypad.outages := by
  induction d using retry_induction with
  | hdone d h hretry =>
    rw [hretry]
    exact d.outages_step
  | hagain d h hretry ih =>
    rw [hretry]
    exact List.Subset.trans ih d.outages_step

/-! ## A run -/

variable [Speaker σ]

/-- The console after something happened to it; a step is taken until it meets no outage. What the
user does is done to the keypad behind. -/
def retried (d : Console (InterruptedKeypad κ) δ σ) : Move κ → Console (InterruptedKeypad κ) δ σ
  | .step => d.retry.2
  | .beat => d.beat
  | .load source => (d.loadProgram source).2
  | .use used => d.onKeypad { d.machine.keypad with inner := used d.machine.keypad.inner }

/-- The console after all that happened to it, with each step taken until it meets no outage. -/
def persist (d : Console (InterruptedKeypad κ) δ σ) (moves : List (Move κ)) :
    Console (InterruptedKeypad κ) δ σ :=
  moves.foldl retried d

/-- What happens with outages happens without them. -/
theorem uninterrupted_retried (d : Console (InterruptedKeypad κ) δ σ) (mv : Move κ) :
    (d.retried mv).uninterrupted = d.uninterrupted.moved mv := by
  cases mv with
  | step => rw [moved, retry_uninterrupted]; rfl
  | load source => rw [moved, uninterrupted, uninterrupted, loadProgram_through]; rfl
  | beat | use => rfl

theorem uninterrupted_persist (d : Console (InterruptedKeypad κ) δ σ) (moves : List (Move κ)) :
    (d.persist moves).uninterrupted = d.uninterrupted.play moves := by
  induction moves generalizing d with
  | nil => rfl
  | cons mv moves ih =>
    rw [persist, List.foldl_cons, ← persist, ih, uninterrupted_retried]
    rfl

theorem outages_persist (d : Console (InterruptedKeypad κ) δ σ) (moves : List (Move κ)) :
    (d.persist moves).machine.keypad.outages ⊆ d.machine.keypad.outages := by
  induction moves generalizing d with
  | nil => exact List.Subset.refl _
  | cons mv moves ih =>
    have hmoved : (d.retried mv).machine.keypad.outages ⊆ d.machine.keypad.outages := by
      cases mv with
      | step => exact d.outages_retry
      | load source =>
        obtain ⟨memory, hload⟩ := d.machine_loadProgram source
        rw [retried, hload]
        exact List.Subset.refl _
      | beat | use => exact List.Subset.refl _
    exact List.Subset.trans (ih (d.retried mv)) hmoved

/-- **Outages of the keypad do not show.** Put any outages between the answers of the keypad of any
console, and take each step again as long as it meets one. After whatever happens, the console is
the one without outages, in all of its parts: machine, keypad, panel, timers and trace. Its next
step, taken until it meets no outage, gives the answer of the step without outages and leads to the
same console, be it a success or a failure for another reason. It is taken at most once for each
outage that is left and once more, and all but the last time it failed as an outage told.

**Proof sketch.** A step that meets an outage can be taken again as if nothing had been
(`step_interrupted`), since all it may have done before is to end a wait. Each time there is one
outage less, and the last time the step is the one without outages. -/
theorem outages_do_not_show (c : Console κ δ σ) (outages : List (Option IoError))
    (moves : List (Move κ)) :
    let d := (c.interrupted outages).persist moves
    d.uninterrupted = c.play moves ∧
    d.retry.1 = (c.play moves).step.1 ∧
    d.retry.2.uninterrupted = (c.play moves).step.2 ∧
    ∃ n ≤ d.outagesLeft, d.retry = (d.after n).step ∧
      ∀ j < n, ∃ e, some e ∈ outages ∧ (d.after j).step.1 = .error (.io e) := by
  intro d
  have hplay : d.uninterrupted = c.play moves := uninterrupted_persist _ moves
  have hstep := d.retry_uninterrupted
  rw [hplay] at hstep
  obtain ⟨n, hn, hlast, hbefore⟩ := d.retry_eq_after
  refine ⟨hplay, by rw [hstep], by rw [hstep], n, hn, hlast, fun j hj => ?_⟩
  obtain ⟨e, he, hfails⟩ := hbefore j hj
  exact ⟨e, outages_persist _ moves he, hfails⟩

/-- An outage that comes after a key has ended a wait: the step that is taken again asks for the
next key. -/
example :
    let c : Console ScriptedKeypad NoPanel Mute := ((Console.start {}
      ⟨[none, some 7, some 9]⟩ NoPanel.mk Mute.mk (RandomSource.seeded 0) none).loadProgram
      (Source.ofBytes [0xF3, 0x0A, 0xF4, 0x0A])).2
    let d := (c.interrupted [none, none, some (.device "unplugged")]).after 1
    d.step.1 = .error (.io (.device "unplugged")) ∧ d.step.2.machine.register 3 = 7 ∧
      d.step.2.step.1 = .ok .executed ∧ d.step.2.step.2.machine.register 4 = 9 ∧
      d.step.2.step.2.machine.register 3 = 7 := by
  decide +kernel

end Console

end Chip8
