import Chip8.Proofs.Console.Moves
import Chip8.Proofs.Machine.Logs
import Chip8.Proofs.Sinks

set_option relaxedAutoImplicit false
set_option autoImplicit false

/-!
# What a trace holds

A trace is written beside the run: whatever happens to a console, its machine is the same with a
trace and without one, and so are the answers of its steps, as long as there is room for all their
entries. A step whose entry does not fit fails after its instruction was executed.

## Main definitions

* `Chip8.Trace.lines` — how an entry is laid out.
* `Chip8.Console.entry` — what the next step writes to a trace.
* `Chip8.Console.Traces` — how a step with a trace goes.
* `Chip8.Console.transcript` — what a trace is to hold after some moves.

## Main results

* `Chip8.Console.step_onTrace`, `Chip8.Console.play_onTrace` — steps and runs with a trace.
* `Chip8.Console.play_traced` — a run with a trace, up to the step that does not fit.
-/

namespace Chip8

/-- An address in at least three lower-case digits and a word in four upper-case ones on a line, and
then a log. -/
def Trace.lines (pc : UInt16) (ins : Instruction) (log : List Char) : List Char :=
  (Nat.toDigits 16 pc.toNat).leftpad 3 '0' ++ ": ".toList ++
    ((Nat.toDigits 16 ins.word.toNat).map Char.toUpper).leftpad 4 '0' ++ '\n' :: log

/-- The text of an entry, digit by digit. -/
theorem Trace.entry_eq_lines (pc : UInt16) (ins : Instruction) (after : Snapshot) :
    entry pc ins after = lines pc ins after.text := by
  rw [entry, Hex.atLeast, Hex.short_eq_toDigits, Instruction.text,
    Hex.fixed_upper ins.word.toNat_lt, lines]

namespace Console

variable {κ δ σ : Type} [Keypad κ] [Panel δ] {c c' : Console κ δ σ} {r : Except Error Step}
  {sink : Sink}

/-! ## One step -/

/-- What the next step writes to a trace: the entry of its instruction if that succeeds, with the
parts of the machine after it. A step that only asks the keypad and a step that fails write
nothing. -/
def entry (c : Console κ δ σ) : List Char :=
  match c.machine.canProceed with
  | (.ok true, m) =>
    match m.fetch with
    | .error _ => []
    | .ok ins =>
      match m.execute ins with
      | (.error _, _) => []
      | (.ok _, after) => Trace.lines m.cpu.pc ins after.status
  | _ => []

/-- A step with a trace is the step without one, and then its entry is written. -/
structure Traces (c : Console κ δ σ) (sink sink' : Sink) : Prop where
  /-- The console is the same but for its trace. -/
  after : (c.onTrace (some sink)).step.2 = c.step.2.onTrace (some sink')
  /-- The entry was written, as far as there was room for it. -/
  wrote : sink.Wrote c.entry sink'
  /-- If the entry fits, the answer is the same. -/
  same : sink.Fits c.entry → (c.onTrace (some sink)).step.1 = c.step.1
  /-- If it does not, the step fails although its instruction succeeded. -/
  fails : ¬ sink.Fits c.entry →
    (∃ s, c.step.1 = .ok s) ∧ (c.onTrace (some sink)).step.1 = .error (.io sink.refusal)

/-- A step that writes nothing leaves the trace as it was. -/
theorem traces_of_entry_eq_nil (hentry : c.entry = []) (hplain : c.Takes r c')
    (htraced : (c.onTrace (some sink)).Takes r (c'.onTrace (some sink))) :
    c.Traces sink sink := by
  refine ⟨?_, ?_, fun _ => ?_, fun hfits => ?_⟩
  · rw [htraced.step_eq, hplain.step_eq]
  · rw [hentry]
    exact .refl sink
  · rw [htraced.step_eq, hplain.step_eq]
  · rw [hentry] at hfits
    exact absurd sink.fits_nil hfits

/-- A step whose instruction succeeds writes its entry. -/
theorem traces_of_executed {m m' : Machine κ δ} {ins : Instruction} {s : Step}
    (htrace : c.trace = none) (hm : c.machine.Proceeds m) (hfetch : m.fetch = .ok ins)
    (hrun : m.execute ins = (.ok s, m')) :
    c.Traces sink (sink.writePieces (Trace.pieces m.cpu.pc ins m'.snapshot)).2 := by
  have hlog : m'.snapshot.text = m'.status := m'.log_eq_status
  have hentry : c.entry = (Trace.pieces m.cpu.pc ins m'.snapshot).flatten := by
    simp only [entry, hm.canProceed_eq, hfetch, hrun, Trace.flatten_pieces, Trace.entry_eq_lines,
      hlog]
  have hplain : c.step = (.ok s, c.onMachine m') := by
    rw [(Takes.done hm hfetch hrun).step_eq]
    simp only [record, onMachine, htrace]
    rfl
  have htraced : (c.onTrace (some sink)).Takes _ _ := .done hm hfetch hrun
  simp only [record, onMachine] at htraced
  refine ⟨?_, ?_, fun hfits => ?_, fun hfits => ⟨⟨s, ?_⟩, ?_⟩⟩
  · rw [htraced.step_eq, hplain]
    rfl
  · rw [hentry]
    exact sink.wrote_writePieces _
  · rw [hentry] at hfits
    rw [htraced.step_eq, hplain]
    simp only [onTrace, Sink.writePieces_fst_of_fits hfits]
    rfl
  · rw [hplain]
  · rw [hentry] at hfits
    rw [htraced.step_eq]
    simp only [onTrace, Sink.writePieces_fst_of_not_fits hfits]
    rfl

/-- Every step of a console without a trace goes so with one.

**Proof sketch.** The step goes the same way with a trace. Only the last of the five ways gets to
the trace. -/
theorem step_onTrace (htrace : c.trace = none) (sink : Sink) : ∃ sink', c.Traces sink sink' := by
  have hplain := c.takes_step
  rcases hstep : c.step with ⟨r, c'⟩
  rw [hstep] at hplain
  cases hplain with
  | unheard hx hpoll =>
    refine ⟨sink, traces_of_entry_eq_nil ?_ (.unheard hx hpoll) (.unheard hx hpoll)⟩
    simp only [entry, Machine.canProceed, hx, Machine.poll_of_error hpoll]
  | silent hx hpoll =>
    refine ⟨sink, traces_of_entry_eq_nil ?_ (.silent hx hpoll) (.silent hx hpoll)⟩
    simp only [entry, Machine.canProceed_of_silent hx hpoll]
  | lost hm hfetch =>
    refine ⟨sink, traces_of_entry_eq_nil ?_ (.lost hm hfetch) (.lost hm hfetch)⟩
    simp only [entry, hm.canProceed_eq, hfetch]
  | refused hm hfetch hrun =>
    refine ⟨sink, traces_of_entry_eq_nil ?_ (.refused hm hfetch hrun) (.refused hm hfetch hrun)⟩
    simp only [entry, hm.canProceed_eq, hfetch, hrun]
  | done hm hfetch hrun => exact ⟨_, traces_of_executed htrace hm hfetch hrun⟩

/-! ## A run -/

variable [Speaker σ] {moves : List (Move κ)}

/-- What a move writes to a trace. -/
def written (c : Console κ δ σ) : Move κ → List Char
  | .step => c.entry
  | .beat | .load _ | .use _ => []

/-- What a trace is to hold after some moves: the entries of the steps among them, in order. -/
def transcript (c : Console κ δ σ) : List (Move κ) → List Char
  | [] => []
  | mv :: moves => c.written mv ++ (c.moved mv).transcript moves

theorem transcript_concat (c : Console κ δ σ) (moves : List (Move κ)) (mv : Move κ) :
    c.transcript (moves ++ [mv]) = c.transcript moves ++ (c.play moves).written mv := by
  induction moves generalizing c with
  | nil => simp [transcript, play]
  | cons mv' moves ih => simp [transcript, ih, play]

/-- No move begins a trace. -/
theorem trace_moved (htrace : c.trace = none) (mv : Move κ) : (c.moved mv).trace = none := by
  cases mv with
  | step =>
    simp only [moved]
    rcases hstep : c.step with ⟨r, c'⟩
    cases takes_of_step hstep with
    | unheard | silent | lost | refused => exact htrace
    | done => simp only [record, onMachine, htrace]
  | beat | load | use => exact htrace

theorem trace_play (htrace : c.trace = none) (moves : List (Move κ)) :
    (c.play moves).trace = none :=
  play_invariant (P := fun c => c.trace = none) htrace (fun _ mv h => trace_moved h mv) moves

/-- A move with a trace is the move without one, and what it writes. -/
theorem moved_onTrace (htrace : c.trace = none) (sink : Sink) (mv : Move κ) :
    ∃ sink', (c.onTrace (some sink)).moved mv = (c.moved mv).onTrace (some sink') ∧
      sink.Wrote (c.written mv) sink' := by
  cases mv with
  | step =>
    obtain ⟨sink', htraces⟩ := step_onTrace htrace sink
    exact ⟨sink', htraces.after, htraces.wrote⟩
  | beat | load | use => exact ⟨sink, rfl, .refl sink⟩

/-- Some moves with a trace are the moves without one, and their transcript is written.

**Proof sketch.** Induction on the moves from their end: what the last one writes comes after what
those before it wrote. -/
theorem play_onTrace (htrace : c.trace = none) (sink : Sink) (moves : List (Move κ)) :
    ∃ sink', (c.onTrace (some sink)).play moves = (c.play moves).onTrace (some sink') ∧
      sink.Wrote (c.transcript moves) sink' := by
  induction moves using List.reverseRecOn with
  | nil => exact ⟨sink, rfl, .refl sink⟩
  | append_singleton moves mv ih =>
    obtain ⟨before, hplay, hbefore⟩ := ih
    obtain ⟨sink', hmoved, hwrote⟩ := moved_onTrace (trace_play htrace moves) before mv
    refine ⟨sink', ?_, ?_⟩
    · rw [play_concat, hplay, hmoved, play_concat]
    · rw [transcript_concat]
      exact hbefore.trans hwrote

/-- If the transcript does not fit, there is a first step whose entry does not. -/
theorem exists_step_not_fits (h : ¬ sink.Fits (c.transcript moves)) :
    ∃ pre, pre ++ [.step] <+: moves ∧ sink.Fits (c.transcript pre) ∧
      ¬ sink.Fits (c.transcript (pre ++ [.step])) := by
  induction moves using List.reverseRecOn with
  | nil => exact absurd sink.fits_nil h
  | append_singleton moves mv ih =>
    by_cases hfits : sink.Fits (c.transcript moves)
    · cases mv with
      | step => exact ⟨moves, List.prefix_refl _, hfits, h⟩
      | beat | load | use =>
        rw [transcript_concat, written, List.append_nil] at h
        exact absurd hfits h
    · obtain ⟨pre, hpre, hfirst⟩ := ih hfits
      exact ⟨pre, hpre.trans (List.prefix_append _ _), hfirst⟩

/-- As long as the transcript fits, the next step gives the same answer, unless its own entry does
not fit any more: then it fails although its instruction succeeded. -/
theorem step_play_onTrace (htrace : c.trace = none) (hfits : sink.Fits (c.transcript moves)) :
    (sink.Fits (c.transcript (moves ++ [.step])) →
      ((c.onTrace (some sink)).play moves).step.1 = (c.play moves).step.1) ∧
    (¬ sink.Fits (c.transcript (moves ++ [.step])) →
      (∃ s, (c.play moves).step.1 = .ok s) ∧
        ((c.onTrace (some sink)).play moves).step.1 = .error (.io sink.refusal)) := by
  obtain ⟨before, hplay, hwrote⟩ := play_onTrace htrace sink moves
  obtain ⟨sink', htraces⟩ := step_onTrace (trace_play htrace moves) before
  have hnext : before.Fits (c.play moves).entry ↔
      sink.Fits (c.transcript (moves ++ [.step])) := by
    rw [transcript_concat]
    exact hwrote.fits_iff hfits
  rw [← hnext, hplay, ← hwrote.refusal]
  exact ⟨htraces.same, htraces.fails⟩

/-- **A trace does not disturb the run, and holds exactly its transcript.** Take a console without
a trace, and with one; let the same happen to both. If the sink has no limit, the consoles are the
same but for the trace, which holds the transcript after what the sink held before, and the next
step gives the same answer on both. If there is room for `room` more bytes, the consoles are again
the same but for the trace, which holds the first `room` bytes of the transcript. The next step
gives the same answer if its entry fits too. If the entry is the first one that does not fit, the
step fails as the sink does, although its instruction succeeded and took effect. If the transcript
does not fit, there is such a step. -/
theorem play_traced (c : Console κ δ σ) (sink : Sink) (moves : List (Move κ)) :
    let plain := c.onTrace none
    let traced := c.onTrace (some sink)
    let bytes (moves : List (Move κ)) := Utf8.encode (plain.transcript moves)
    (sink.capacity = none →
      (∃ sink', traced.play moves = (plain.play moves).onTrace (some sink') ∧
        sink'.taken.toList = sink.taken.toList ++ bytes moves) ∧
      (traced.play moves).step.1 = (plain.play moves).step.1) ∧
    ∀ room, sink.capacity = some (sink.taken.size + room) →
      (∃ sink', traced.play moves = (plain.play moves).onTrace (some sink') ∧
        sink'.taken.toList = sink.taken.toList ++ (bytes moves).take room) ∧
      ((bytes (moves ++ [.step])).length ≤ room →
        (traced.play moves).step.1 = (plain.play moves).step.1) ∧
      ((bytes moves).length ≤ room → room < (bytes (moves ++ [.step])).length →
        (∃ s, (plain.play moves).step.1 = .ok s) ∧
          (traced.play moves).step.1 = .error (.io sink.refusal)) ∧
      (room < (bytes moves).length → ∃ pre, pre ++ [.step] <+: moves ∧
        (bytes pre).length ≤ room ∧ room < (bytes (pre ++ [.step])).length) := by
  intro plain traced bytes
  have htrace : plain.trace = none := rfl
  obtain ⟨sink', hplay, hwrote⟩ := play_onTrace htrace sink moves
  refine ⟨fun hcapacity => ?_, fun room hcapacity => ?_⟩
  · have hfits (text : List Char) : sink.Fits text := Sink.fits_of_capacity_eq_none hcapacity text
    refine ⟨⟨sink', hplay, ?_⟩, (step_play_onTrace htrace (hfits _)).1 (hfits _)⟩
    rw [hwrote.taken, hfits, List.take_length]
  · have hfits (text : List Char) : sink.Fits text ↔ (Utf8.encode text).length ≤ room :=
      Sink.fits_iff_le hcapacity
    refine ⟨⟨sink', hplay, ?_⟩, fun hnext => ?_, fun hbefore hnext => ?_, fun hover => ?_⟩
    · rw [hwrote.taken, Sink.room_of_capacity hcapacity, Nat.min_comm,
        ← List.take_eq_take_min]
    · have hbefore : sink.Fits (plain.transcript moves) := by
        apply Sink.Fits.of_append
        rw [← transcript_concat, hfits]
        exact hnext
      exact (step_play_onTrace htrace hbefore).1 ((hfits _).2 hnext)
    · apply (step_play_onTrace htrace ((hfits _).2 hbefore)).2
      rw [hfits]
      exact Nat.not_le.2 hnext
    · have hcrossing : ¬ sink.Fits (plain.transcript moves) := by
        rw [hfits]
        exact Nat.not_le.2 hover
      simpa only [hfits, Nat.not_le] using exists_step_not_fits hcrossing

/-- A program whose first instruction is traced to a sink with room for its address and its word. -/
theorem play_traced_of_short_sink :
    let c : Console ScriptedKeypad NoPanel Mute :=
      Console.start {} ⟨[]⟩ NoPanel.mk Mute.mk (RandomSource.seeded 0) none
    let sink : Sink := { capacity := some 10 }
    let traced := (c.onTrace (some sink)).play [.load (Source.ofBytes [0x60, 0x05])]
    traced.step.1 = .error (.io .shortWrite) ∧ traced.step.2.machine.register 0 = 5 ∧
      traced.step.2.trace.map Sink.text = some "200: 6005\n" := by
  intro c sink traced
  obtain ⟨hbefore, hnext, hafter⟩ :
      (Utf8.encode ((c.onTrace none).transcript [.load (Source.ofBytes [0x60, 0x05])])).length ≤
          10 ∧
        10 < (Utf8.encode ((c.onTrace none).transcript
          [.load (Source.ofBytes [0x60, 0x05]), .step])).length ∧
        traced.step.2.machine.register 0 = 5 ∧
        traced.step.2.trace.map Sink.text = some "200: 6005\n" := by
    decide +kernel
  obtain ⟨-, -, hfails, -⟩ :=
    (play_traced c sink [.load (Source.ofBytes [0x60, 0x05])]).2 10 rfl
  exact ⟨(hfails hbefore hnext).2, hafter⟩

end Console

end Chip8
