import Chip8.Console.MainLoop

set_option relaxedAutoImplicit false
set_option autoImplicit false

/-!
# Runs of the main loop

The main loop has three ends: its budget is spent, the user wants to stop, or a step fails. The
budget is looked at before the user is asked and the user before a step is taken, so that of two
loops one after the other the second goes on exactly where a longer one would be.

## Main definitions

* `Chip8.LoopEnd.result` — what is told about the end of a loop.
* `Chip8.Console.cycles` — a console after some steps and their time.
* `Chip8.Console.Goes` — nothing stops the console for some steps.
* `Chip8.Console.Ends` — how a loop with a budget ends, and after how many steps.

## Main results

* `Chip8.Console.loop_ends` — the loop ends as it should.
* `Chip8.Console.loop_add` — a loop goes on where its first part ended.
* `Chip8.Console.mainLoop_counts_and_composes` — the main loop counts its steps, and two of them
  make up one.
-/

namespace Chip8

/-- What a caller is told about a loop that ended after `k` steps. -/
def LoopEnd.result (k : Nat) : LoopEnd → Except Error Nat
  | budgetSpent => .ok k
  | quit => .ok k
  | failed e => .error e

/-- Steps that were taken before only add to the count. -/
theorem LoopEnd.result_add (j k : Nat) (why : LoopEnd) :
    why.result (j + k) = (why.result k).map (j + ·) := by
  cases why <;> rfl

namespace Console

variable {κ δ σ : Type} [Keypad κ] [Panel δ] [Speaker σ] {c c' : Console κ δ σ}

/-- A console after `k` steps and the time of those that succeeded. -/
def cycles (c : Console κ δ σ) : Nat → Console κ δ σ
  | 0 => c
  | k + 1 => c.cycle.2.cycles k

/-- Nothing stops the console for `k` steps: the user never wants to, and no step fails. -/
structure Goes (c : Console κ δ σ) (k : Nat) : Prop where
  /-- Before each step the user wants to go on. -/
  wanted : ∀ j < k, Keypad.quitRequested (c.cycles j).machine.keypad = false
  /-- Each step succeeds, be it a wait. -/
  succeeds : ∀ j < k, ∃ s, (c.cycles j).step.1 = .ok s

/-- How a loop with a budget of `n` steps ends, after how many steps, and with which console. -/
inductive Ends (c : Console κ δ σ) (n : Nat) : LoopEnd → Nat → Console κ δ σ → Prop
  /-- All steps were taken. -/
  | budgetSpent (hgoes : c.Goes n) : Ends c n .budgetSpent n (c.cycles n)
  /-- After fewer steps the user wants to stop. -/
  | quit {k : Nat} (hk : k < n) (hgoes : c.Goes k)
      (hquit : Keypad.quitRequested (c.cycles k).machine.keypad = true) :
      Ends c n .quit k (c.cycles k)
  /-- After fewer steps the user wants to go on, but the next step fails. -/
  | failed {k : Nat} {e : Error} {c' : Console κ δ σ} (hk : k < n) (hgoes : c.Goes k)
      (hquit : Keypad.quitRequested (c.cycles k).machine.keypad = false)
      (hstep : (c.cycles k).step = (.error e, c')) : Ends c n (.failed e) k c'

/-! ## Cycles -/

theorem cycle_of_error {e : Error} (h : c.step = (.error e, c')) : c.cycle = (.error e, c') := by
  simp only [cycle, h]

theorem cycle_of_ok {s : Step} (h : c.step = (.ok s, c')) : c.cycle = (.ok s, c'.pass) := by
  simp only [cycle, h]

theorem cycles_add (c : Console κ δ σ) (j k : Nat) : c.cycles (j + k) = (c.cycles j).cycles k := by
  induction j generalizing c with
  | zero => rw [Nat.zero_add, cycles]
  | succ j ih => rw [Nat.succ_add, cycles, cycles, ih]

theorem goes_zero (c : Console κ δ σ) : c.Goes 0 :=
  ⟨fun _ h => absurd h (Nat.not_lt_zero _), fun _ h => absurd h (Nat.not_lt_zero _)⟩

/-- Nothing stops a console whose first step goes well and which goes on after it. -/
theorem goes_succ_iff {k : Nat} :
    c.Goes (k + 1) ↔ Keypad.quitRequested c.machine.keypad = false ∧ (∃ s, c.step.1 = .ok s) ∧
      c.cycle.2.Goes k := by
  constructor
  · rintro ⟨hwanted, hsucceeds⟩
    exact ⟨hwanted 0 k.succ_pos, hsucceeds 0 k.succ_pos,
      fun j hj => hwanted (j + 1) (Nat.succ_lt_succ hj),
      fun j hj => hsucceeds (j + 1) (Nat.succ_lt_succ hj)⟩
  · rintro ⟨hquit, hstep, hwanted, hsucceeds⟩
    refine ⟨fun j hj => ?_, fun j hj => ?_⟩
    · cases j with
      | zero => exact hquit
      | succ j => exact hwanted j (Nat.lt_of_succ_lt_succ hj)
    · cases j with
      | zero => exact hstep
      | succ j => exact hsucceeds j (Nat.lt_of_succ_lt_succ hj)

/-! ## The first step of a loop -/

theorem loop_of_quit (hquit : Keypad.quitRequested c.machine.keypad = true) (taken n : Nat) :
    c.loop taken (n + 1) = (.quit, taken, c) := by
  rw [loop, if_pos hquit]

/-- A loop with budget left stops at once, fails in its first step, or takes that step and goes on
with the rest of the budget. -/
theorem loop_cases (c : Console κ δ σ) :
    (Keypad.quitRequested c.machine.keypad = true ∧
        ∀ taken n, c.loop taken (n + 1) = (.quit, taken, c)) ∨
      (∃ e c', Keypad.quitRequested c.machine.keypad = false ∧ c.step = (.error e, c') ∧
        ∀ taken n, c.loop taken (n + 1) = (.failed e, taken, c')) ∨
      (∃ s c', Keypad.quitRequested c.machine.keypad = false ∧ c.step = (.ok s, c') ∧
        ∀ taken n, c.loop taken (n + 1) = c'.pass.loop (taken + 1) n) := by
  cases hquit : Keypad.quitRequested c.machine.keypad with
  | true => exact .inl ⟨rfl, loop_of_quit hquit⟩
  | false =>
    rcases hstep : c.step with ⟨e | s, c'⟩
    · refine .inr (.inl ⟨e, c', rfl, rfl, fun taken n => ?_⟩)
      simp only [loop, hquit, Bool.false_eq_true, if_false, cycle_of_error hstep]
    · refine .inr (.inr ⟨s, c', rfl, rfl, fun taken n => ?_⟩)
      simp only [loop, hquit, Bool.false_eq_true, if_false, cycle_of_ok hstep]

/-! ## The end of a loop -/

/-- A step that goes well comes before an end. -/
theorem Ends.of_step {n k : Nat} {s : Step} {why : LoopEnd} {d : Console κ δ σ}
    (hquit : Keypad.quitRequested c.machine.keypad = false) (hstep : c.step = (.ok s, c'))
    (h : c'.pass.Ends n why k d) : c.Ends (n + 1) why (k + 1) d := by
  have hnext : c.cycle.2 = c'.pass := by rw [cycle_of_ok hstep]
  have hgoes {j : Nat} (hj : c'.pass.Goes j) : c.Goes (j + 1) :=
    goes_succ_iff.2 ⟨hquit, ⟨s, by rw [hstep]⟩, hnext ▸ hj⟩
  have hcycles (j : Nat) : c'.pass.cycles j = c.cycles (j + 1) := by rw [cycles, hnext]
  cases h with
  | budgetSpent hj =>
    rw [hcycles]
    exact .budgetSpent (hgoes hj)
  | quit hk hj hend =>
    rw [hcycles] at hend ⊢
    exact .quit (Nat.succ_lt_succ hk) (hgoes hj) hend
  | failed hk hj hend hfail =>
    rw [hcycles] at hend hfail
    exact .failed (Nat.succ_lt_succ hk) (hgoes hj) hend hfail

/-- The loop ends as it should, and its count goes up by the number of its steps.

**Proof sketch.** Induction on the budget: each round is one of the three ends or a step before
one. -/
theorem loop_ends (c : Console κ δ σ) (taken n : Nat) :
    ∃ k, (c.loop taken n).2.1 = taken + k ∧
      c.Ends n (c.loop taken n).1 k (c.loop taken n).2.2 := by
  induction n generalizing c taken with
  | zero => exact ⟨0, rfl, .budgetSpent c.goes_zero⟩
  | succ n ih =>
    rcases c.loop_cases with ⟨hquit, hl⟩ | ⟨e, c', hquit, hstep, hl⟩ | ⟨s, c', hquit, hstep, hl⟩
    · rw [hl]
      exact ⟨0, rfl, .quit n.succ_pos c.goes_zero hquit⟩
    · rw [hl]
      exact ⟨0, rfl, .failed n.succ_pos c.goes_zero hquit hstep⟩
    · rw [hl]
      obtain ⟨k, hcount, hends⟩ := ih c'.pass (taken + 1)
      exact ⟨k + 1, by omega, hends.of_step hquit hstep⟩

/-- What was taken before only adds to the count. -/
theorem loop_taken (c : Console κ δ σ) (taken n : Nat) :
    c.loop taken n = ((c.loop 0 n).1, taken + (c.loop 0 n).2.1, (c.loop 0 n).2.2) := by
  induction n generalizing c taken with
  | zero => rfl
  | succ n ih =>
    rcases c.loop_cases with ⟨-, hl⟩ | ⟨e, c', -, -, hl⟩ | ⟨s, c', -, -, hl⟩
    · rw [hl, hl, Nat.add_zero]
    · rw [hl, hl, Nat.add_zero]
    · rw [hl, hl, ih c'.pass (taken + 1), ih c'.pass (0 + 1), Nat.zero_add, Nat.add_assoc]

/-- A loop goes on where its first part ended if that was for the budget alone. -/
theorem loop_add (c : Console κ δ σ) (taken a b : Nat) :
    c.loop taken (a + b) =
      match c.loop taken a with
      | (.budgetSpent, taken, c) => c.loop taken b
      | ended => ended := by
  induction a generalizing c taken with
  | zero => rw [Nat.zero_add, loop]
  | succ a ih =>
    rw [Nat.succ_add]
    rcases c.loop_cases with ⟨-, hl⟩ | ⟨e, c', -, -, hl⟩ | ⟨s, c', -, -, hl⟩
    · rw [hl, hl]
    · rw [hl, hl]
    · rw [hl, hl, ih]

/-- A loop takes the steps that nothing stops and goes on with the rest of its budget. -/
theorem loop_of_goes {j : Nat} (hgoes : c.Goes j) (taken n : Nat) :
    c.loop taken (j + n) = (c.cycles j).loop (taken + j) n := by
  induction j generalizing c taken with
  | zero => rw [Nat.zero_add, cycles, Nat.add_zero]
  | succ j ih =>
    obtain ⟨hquit, ⟨s, hs⟩, hrest⟩ := goes_succ_iff.1 hgoes
    have hcycle : c.cycle = (.ok s, c.cycle.2) := by
      rw [cycle_of_ok (Prod.ext hs rfl : c.step = (.ok s, c.step.2))]
    rw [Nat.succ_add, loop, hquit, if_neg Bool.false_ne_true, hcycle, cycles]
    dsimp only
    rw [ih hrest, Nat.add_assoc, Nat.add_comm 1 j]

/-- There is only one way in which a loop can end. -/
theorem Ends.loop_eq {n k : Nat} {why : LoopEnd} {d : Console κ δ σ} (h : c.Ends n why k d)
    (taken : Nat) : c.loop taken n = (why, taken + k, d) := by
  cases h with
  | budgetSpent hgoes =>
    have hspent := loop_of_goes hgoes taken 0
    rwa [Nat.add_zero, loop] at hspent
  | quit hk hgoes hquit =>
    obtain ⟨i, rfl⟩ := Nat.exists_eq_add_of_lt hk
    rw [Nat.add_assoc, loop_of_goes hgoes, loop_of_quit hquit]
  | failed hk hgoes hquit hstep =>
    obtain ⟨i, rfl⟩ := Nat.exists_eq_add_of_lt hk
    rw [Nat.add_assoc, loop_of_goes hgoes, loop, hquit, if_neg Bool.false_ne_true,
      cycle_of_error hstep]

/-! ## The main loop -/

theorem mainLoop_eq (c : Console κ δ σ) (n : Nat) :
    c.mainLoop n = ((c.loop 0 n).1.result (c.loop 0 n).2.1, (c.loop 0 n).2.2) := by
  rw [mainLoop]
  rcases c.loop 0 n with ⟨_ | _ | e, k, c'⟩
  · rfl
  · rfl
  · rfl

theorem Ends.mainLoop_eq {n k : Nat} {why : LoopEnd} {d : Console κ δ σ} (h : c.Ends n why k d) :
    c.mainLoop n = (why.result k, d) := by
  rw [Console.mainLoop_eq, h.loop_eq, Nat.zero_add]

theorem mainLoop_of_quit (hquit : Keypad.quitRequested c.machine.keypad = true) (n : Nat) :
    c.mainLoop n = (.ok 0, c) := by
  cases n with
  | zero => rfl
  | succ n => rw [mainLoop, loop_of_quit hquit]

/-- What a main loop of at most `n` steps comes to: all steps that it counts went well, and if it
stopped early the user wanted it to; otherwise a step within the budget failed.

**Proof sketch.** The three ends of the loop, one by one. -/
theorem mainLoop_counts (c : Console κ δ σ) (n : Nat) :
    match c.mainLoop n with
    | (.ok k, c') => k ≤ n ∧ c.Goes k ∧ c' = c.cycles k ∧
        (k < n → Keypad.quitRequested c'.machine.keypad = true)
    | (.error e, c') => ∃ k < n, c.Goes k ∧
        Keypad.quitRequested (c.cycles k).machine.keypad = false ∧
        (c.cycles k).step = (.error e, c') := by
  obtain ⟨k, hcount, hends⟩ := c.loop_ends 0 n
  rw [Nat.zero_add] at hcount
  rcases hl : c.loop 0 n with ⟨why, taken, c'⟩
  rw [hl] at hcount hends
  dsimp only at hcount hends
  subst hcount
  rw [mainLoop_eq, hl]
  cases hends with
  | budgetSpent hgoes => exact ⟨Nat.le_refl _, hgoes, rfl, fun h => absurd h (Nat.lt_irrefl _)⟩
  | quit hk hgoes hquit => exact ⟨Nat.le_of_lt hk, hgoes, rfl, fun _ => hquit⟩
  | failed hk hgoes hquit hstep => exact ⟨_, hk, hgoes, hquit, hstep⟩

/-- A main loop that nothing stops spends its budget. -/
theorem mainLoop_of_goes {n : Nat} (hgoes : c.Goes n) : c.mainLoop n = (.ok n, c.cycles n) :=
  (Ends.budgetSpent hgoes).mainLoop_eq

/-- Two main loops one after the other make up one.

**Proof sketch.** If the first one ended for its budget, the longer loop goes on as the second one
does, with a count that is ahead by the steps of the first. If the user wanted to stop, the second
one takes no step; and if a step failed, the longer loop failed there. -/
theorem mainLoop_add (c : Console κ δ σ) (a b : Nat) :
    c.mainLoop (a + b) =
      match c.mainLoop a with
      | (.ok k, c') => ((c'.mainLoop b).1.map (k + ·), (c'.mainLoop b).2)
      | (.error e, c') => (.error e, c') := by
  obtain ⟨k, -, hends⟩ := c.loop_ends 0 a
  have hsum := c.loop_add 0 a b
  rcases hl : c.loop 0 a with ⟨why, taken, c'⟩
  rw [hl] at hends hsum
  have hfirst : c.mainLoop a = (why.result taken, c') := by rw [mainLoop_eq, hl]
  rw [hfirst, mainLoop_eq, hsum]
  cases hends with
  | budgetSpent hgoes =>
    have hsecond : (c.cycles a).mainLoop b = _ := mainLoop_eq ..
    dsimp only [LoopEnd.result]
    rw [hsecond, (c.cycles a).loop_taken taken b, ← LoopEnd.result_add]
    rfl
  | quit hk hgoes hquit =>
    have hsecond : (c.cycles k).mainLoop b = (.ok 0, c.cycles k) := mainLoop_of_quit hquit b
    dsimp only [LoopEnd.result]
    rw [hsecond]
    rfl
  | failed hk hgoes hquit hstep => rfl

/-- A user who wants to stop after the second question to the keypad ends a wait for a key after
two steps, also if a budget was spent between them. -/
example :
    let c : Console (FaultyKeypad ScriptedKeypad) NoPanel Mute := ((Console.start {}
      { inner := ⟨[]⟩, error := .shortWrite, quitAfter := some 2 } NoPanel.mk Mute.mk
      (RandomSource.seeded 0) none).loadProgram (Source.ofBytes [0xF3, 0x0A])).2
    (c.mainLoop 7).1.toOption = some 2 ∧ (c.mainLoop 1).1.toOption = some 1 ∧
      ((c.mainLoop 1).2.mainLoop 6).1.toOption = some 1 := by
  decide +kernel

/-- **The main loop counts its steps, and two of them make up one.** A main loop takes at most as
many steps as its budget. If it succeeds, it counts the steps that were taken, all of which
succeeded, and there are fewer than the budget only if the user wants to stop. If it fails, one
step within the budget does. A user who wants to stop from the start gets no step at all. A loop
with the budgets of two is the first one and then, unless that failed, the second one from where
the first one ended, with the steps of both counted. -/
theorem mainLoop_counts_and_composes (c : Console κ δ σ) (n a b : Nat) :
    (match c.mainLoop n with
      | (.ok k, c') => k ≤ n ∧ c.Goes k ∧ c' = c.cycles k ∧
          (k < n → Keypad.quitRequested c'.machine.keypad = true)
      | (.error e, c') => ∃ k < n, c.Goes k ∧
          Keypad.quitRequested (c.cycles k).machine.keypad = false ∧
          (c.cycles k).step = (.error e, c')) ∧
      (Keypad.quitRequested c.machine.keypad = true → c.mainLoop n = (.ok 0, c)) ∧
      c.mainLoop (a + b) =
        match c.mainLoop a with
        | (.ok k, c') => ((c'.mainLoop b).1.map (k + ·), (c'.mainLoop b).2)
        | (.error e, c') => (.error e, c') :=
  ⟨c.mainLoop_counts n, fun hquit => mainLoop_of_quit hquit n, c.mainLoop_add a b⟩

end Console

end Chip8
