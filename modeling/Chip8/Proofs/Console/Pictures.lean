import Chip8.Proofs.Console.Devices
import Chip8.Proofs.Sinks

set_option relaxedAutoImplicit false
set_option autoImplicit false

/-!
# Which pictures a run shows

A run shows a frame whenever an instruction that clears the screen or draws on it is completed: the
frame as the instruction leaves it, once. So what was shown last is always what is on the screen.
A panel that writes its frames down has them all, one after another, and apart from that it makes no
difference whether it is there.

## Main definitions

* `Chip8.Instruction.Paints` — the words that clear the screen or draw on it.
* `Chip8.Console.shows`, `Chip8.Console.gallery` — the frames that a step, or a run, shows.
* `Chip8.Console.onWriter` — the same console with a panel that writes its frames down.

## Main results

* `Chip8.Machine.execute_onWriter`, `Chip8.Console.step_onWriter`, `Chip8.Console.play_onWriter` —
  instructions, steps and runs with such a panel.
* `Chip8.Machine.screen_execute`, `Chip8.Console.screen_step`, `Chip8.Console.screen_play` — what is
  on the screen was shown last.
* `Chip8.Console.panels_do_not_matter` — a run with no panel and with a writing one.
-/

namespace Chip8

/-- The words that clear the screen or draw on it. -/
def Instruction.Paints (ins : Instruction) : Prop :=
  ins.group = 0x0 ∧ ins.nn = 0xE0 ∨ ins.group = 0xD

instance (ins : Instruction) : Decidable ins.Paints :=
  inferInstanceAs (Decidable (_ ∨ _))

/-! ## One instruction -/

namespace Machine

variable {κ : Type} [Keypad κ] {m : Machine κ NoPanel} {ins : Instruction} {op : Operation}
  {sink : Sink}

/-- The same machine with a panel that writes its frames down. -/
def onWriter {δ : Type} (m : Machine κ δ) (sink : Sink) : Machine κ WriterPanel :=
  m.through id fun _ => ⟨sink⟩

/-- The frames that an instruction shows: the one it leaves, if it is completed and paints. -/
def shows {δ : Type} [Panel δ] (m : Machine κ δ) (ins : Instruction) : List Frame :=
  match m.execute ins with
  | (.ok .executed, after) => if ins.Paints then [after.screen.frame] else []
  | _ => []

/-- What is painted without a panel is done and shown. -/
theorem execute_of_painted {m₁ : Machine κ NoPanel} (hw : m.isWaiting = false)
    (hop : ins.operation? = some op) (hp : m.painted? op = some m₁) :
    m.execute ins =
        (.ok .executed, (m₁.shown NoPanel.mk).setPc (m₁.cpu.pc + Instruction.width)) ∧
      m.shows ins = [m₁.screen.frame] := by
  have hpresent : Panel.present m₁.screen.panel m₁.screen.frame = (.ok (), NoPanel.mk) := rfl
  have hrun := execute_of_painted?_ok hw hop hp hpresent
  have hpaints : ins.Paints := by
    have hcoded := Instruction.operation?_eq_some_iff.1 hop
    rcases painted?_eq_some hp with ⟨rfl, -⟩ | ⟨x, y, height, rfl, -⟩
    · exact .inl hcoded
    · exact .inr hcoded.1
  refine ⟨hrun, ?_⟩
  simp only [shows, hrun, if_pos hpaints]
  rfl

/-- Where nothing is painted nothing is shown, and the screen stays as it is. -/
theorem execute_of_not_painted (hw : m.isWaiting = false)
    (hp : ∀ op, ins.operation? = some op → m.painted? op = none) :
    (m.execute ins).2.screen = m.screen ∧ m.shows ins = [] := by
  by_cases hpaints : ins.Paints
  · -- a sprite that does not lie in memory
    rcases hpaints with hclear | hgroup
    · cases hp .clearScreen (Instruction.operation?_eq_some_iff.2 hclear)
    · have hop : ins.operation? = some (.draw ins.x ins.y ins.n) :=
        Instruction.operation?_eq_some_iff.2 ⟨hgroup, rfl, rfl, rfl⟩
      have hunpainted := hp _ hop
      simp only [painted?] at hunpainted
      split at hunpainted
      · rename_i e hread
        have hrefuses : m.Refuses (.draw ins.x ins.y ins.n) e m := .of_read rfl hread
        have hrun := execute_of_perform_error hw hop hrefuses.perform_eq
        simp only [shows, hrun, and_self]
      · cases hunpainted
  · refine ⟨m.same_of_not_mayChange (p := .screen) hpaints, ?_⟩
    unfold shows
    split
    · exact if_neg hpaints
    · rfl

omit [Keypad κ] in
theorem not_painted (h : ¬ ∃ op m₁, ins.operation? = some op ∧ m.painted? op = some m₁)
    (op : Operation) (hop : ins.operation? = some op) : m.painted? op = none := by
  rw [Option.eq_none_iff_forall_ne_some]
  exact fun m₁ hp => h ⟨op, m₁, hop, hp⟩

/-- With a writing panel an instruction does the same, and what it shows is written. -/
theorem execute_onWriter (hw : m.isWaiting = false) (hsink : sink.capacity = none)
    (ins : Instruction) :
    ∃ sink', (m.onWriter sink).execute ins = ((m.execute ins).1, (m.execute ins).2.onWriter sink') ∧
      sink.Wrote ((m.shows ins).flatMap Frame.text) sink' := by
  by_cases hpainted : ∃ op m₁, ins.operation? = some op ∧ m.painted? op = some m₁
  · obtain ⟨op, m₁, hop, hp⟩ := hpainted
    obtain ⟨hrun, hshows⟩ := execute_of_painted hw hop hp
    have hp' : (m.onWriter sink).painted? op = some (m₁.onWriter sink) := by
      rw [onWriter, painted?_through, hp]
      rfl
    have hpresent : Panel.present (WriterPanel.mk sink) m₁.screen.frame =
        (.ok (), ⟨(sink.write m₁.screen.frame.text).2⟩) :=
      Prod.ext (Sink.write_fst_of_fits (Sink.fits_of_capacity_eq_none hsink _)) rfl
    refine ⟨(sink.write m₁.screen.frame.text).2, ?_, ?_⟩
    · rw [hrun]
      exact execute_of_painted?_ok (m := m.onWriter sink) hw hop hp' hpresent
    · rw [hshows, List.flatMap_singleton]
      exact sink.wrote_write _
  · have hnone := not_painted hpainted
    refine ⟨sink, execute_through (fun _ => rfl) fun op m₁ hop hp => ?_, ?_⟩
    · rw [hnone op hop] at hp
      cases hp
    · rw [(execute_of_not_painted hw hnone).2]
      exact .refl sink

/-- What is on the screen was shown last, and the screen counts what was shown. -/
theorem screen_execute (hw : m.isWaiting = false) (ins : Instruction) :
    (m.execute ins).2.screen.frame = (m.shows ins).getLast?.getD m.screen.frame ∧
      (m.execute ins).2.screen.flushes = m.screen.flushes + (m.shows ins).length := by
  by_cases hpainted : ∃ op m₁, ins.operation? = some op ∧ m.painted? op = some m₁
  · obtain ⟨op, m₁, hop, hp⟩ := hpainted
    obtain ⟨hrun, hshows⟩ := execute_of_painted hw hop hp
    have hflushes : m₁.screen.flushes = m.screen.flushes := by
      rcases painted?_eq_some hp with ⟨-, rfl⟩ | ⟨x, y, height, -, hd⟩
      · rfl
      · rw [hd.screen]
    rw [hrun, hshows, ← hflushes]
    exact ⟨rfl, rfl⟩
  · obtain ⟨hscreen, hshows⟩ := execute_of_not_painted hw (not_painted hpainted)
    rw [hscreen, hshows]
    exact ⟨rfl, rfl⟩

end Machine

/-- A key that ends a wait leaves the screen as it is. -/
theorem Machine.Proceeds.screen_eq {κ δ : Type} [Keypad κ] {m m' : Machine κ δ}
    (h : m.Proceeds m') : m'.screen = m.screen := by
  cases h with
  | awake | key => rfl

theorem Machine.Proceeds.onWriter {κ δ : Type} [Keypad κ] {m m' : Machine κ δ}
    (h : m.Proceeds m') (sink : Sink) : (m.onWriter sink).Proceeds (m'.onWriter sink) :=
  h.through fun _ => rfl

/-! ## One step -/

namespace Console

variable {κ σ : Type}

/-- The same console with a panel that writes its frames down. -/
def onWriter {δ : Type} (c : Console κ δ σ) (sink : Sink) : Console κ WriterPanel σ :=
  c.through id fun _ => ⟨sink⟩

@[simp] theorem frame_onWriter {δ : Type} (c : Console κ δ σ) (sink : Sink) :
    (c.onWriter sink).machine.screen.frame = c.machine.screen.frame := rfl

@[simp] theorem panel_onWriter {δ : Type} (c : Console κ δ σ) (sink : Sink) :
    (c.onWriter sink).machine.screen.panel = ⟨sink⟩ := rfl

variable [Keypad κ] {c : Console κ NoPanel σ} {sink : Sink}

/-- The frames that the next step shows: those of its instruction, if it executes one. -/
def shows {δ : Type} [Panel δ] (c : Console κ δ σ) : List Frame :=
  match c.machine.canProceed with
  | (.ok true, m) =>
    match m.fetch with
    | .error _ => []
    | .ok ins => m.shows ins
  | _ => []

/-- A step that executes no instruction shows nothing. -/
theorem shows_of_asked {x : Fin 16} {r : Except IoError (Option UInt8)} {keypad : κ}
    (hx : c.machine.cpu.awaiting = some x) (hpoll : Keypad.poll c.machine.keypad = (r, keypad))
    (hr : ∀ key, r ≠ .ok (some key)) : c.shows = [] := by
  unfold shows Machine.canProceed
  rcases r with e | _ | key
  · simp only [hx, Machine.poll_of_error hpoll]
  · simp only [hx, Machine.poll_of_ok hpoll]
  · exact absurd rfl (hr key)

theorem shows_of_fetch {m : Machine κ NoPanel} {ins : Instruction} (hm : c.machine.Proceeds m)
    (hfetch : m.fetch = .ok ins) : c.shows = m.shows ins := by
  simp only [shows, hm.canProceed_eq, hfetch]

theorem shows_of_lost {m : Machine κ NoPanel} {e : Error} (hm : c.machine.Proceeds m)
    (hfetch : m.fetch = .error e) : c.shows = [] := by
  simp only [shows, hm.canProceed_eq, hfetch]

/-- With a writing panel a step does the same, and what it shows is written. -/
theorem step_onWriter (c : Console κ NoPanel σ) (hsink : sink.capacity = none) :
    ∃ sink', (c.onWriter sink).step = (c.step.1, c.step.2.onWriter sink') ∧
      sink.Wrote (c.shows.flatMap Frame.text) sink' := by
  rcases hstep : c.step with ⟨r, c'⟩
  cases takes_of_step hstep with
  | unheard hx hpoll =>
    refine ⟨sink, (Takes.unheard (c := c.onWriter sink) hx hpoll).step_eq, ?_⟩
    rw [shows_of_asked hx hpoll nofun]
    exact .refl sink
  | silent hx hpoll =>
    refine ⟨sink, (Takes.silent (c := c.onWriter sink) hx hpoll).step_eq, ?_⟩
    rw [shows_of_asked hx hpoll nofun]
    exact .refl sink
  | lost hm hfetch =>
    have hm' : (c.onWriter sink).machine.Proceeds _ := hm.onWriter sink
    refine ⟨sink, (Takes.lost hm' hfetch).step_eq, ?_⟩
    rw [shows_of_lost hm hfetch]
    exact .refl sink
  | @refused m m' ins e hm hfetch hrun =>
    have hm' : (c.onWriter sink).machine.Proceeds _ := hm.onWriter sink
    obtain ⟨sink', hrun', hwrote⟩ := Machine.execute_onWriter hm.isWaiting_eq hsink ins
    rw [hrun] at hrun'
    refine ⟨sink', (Takes.refused hm' hfetch hrun').step_eq, ?_⟩
    rw [shows_of_fetch hm hfetch]
    exact hwrote
  | @done m m' ins s hm hfetch hrun =>
    have hm' : (c.onWriter sink).machine.Proceeds _ := hm.onWriter sink
    obtain ⟨sink', hrun', hwrote⟩ := Machine.execute_onWriter hm.isWaiting_eq hsink ins
    rw [hrun] at hrun'
    refine ⟨sink', step_through_of_execute hm' hfetch hrun', ?_⟩
    rw [shows_of_fetch hm hfetch]
    exact hwrote

/-- What is on the screen was shown last, and the screen counts what was shown. -/
theorem screen_step (c : Console κ NoPanel σ) :
    c.step.2.machine.screen.frame = c.shows.getLast?.getD c.machine.screen.frame ∧
      c.step.2.machine.screen.flushes = c.machine.screen.flushes + c.shows.length := by
  rcases hstep : c.step with ⟨r, c'⟩
  cases takes_of_step hstep with
  | unheard hx hpoll | silent hx hpoll =>
    rw [shows_of_asked hx hpoll nofun]
    exact ⟨rfl, rfl⟩
  | lost hm hfetch =>
    rw [shows_of_lost hm hfetch, ← hm.screen_eq]
    exact ⟨rfl, rfl⟩
  | @refused m m' ins e hm hfetch hrun =>
    have hscreen := Machine.screen_execute hm.isWaiting_eq ins
    rw [hrun, hm.screen_eq] at hscreen
    rw [shows_of_fetch hm hfetch]
    exact hscreen
  | @done m m' ins s hm hfetch hrun =>
    have hscreen := Machine.screen_execute hm.isWaiting_eq ins
    rw [hrun, hm.screen_eq] at hscreen
    rw [shows_of_fetch hm hfetch, machine_record]
    exact hscreen

/-! ## A run -/

variable [Speaker σ] {moves : List (Move κ)}

/-- The frames that a move shows. -/
def exhibited (c : Console κ NoPanel σ) : Move κ → List Frame
  | .step => c.shows
  | .beat | .load _ | .use _ => []

/-- The frames that a run shows, in order. -/
def gallery (c : Console κ NoPanel σ) : List (Move κ) → List Frame
  | [] => []
  | mv :: moves => c.exhibited mv ++ (c.moved mv).gallery moves

/-- The last move shows its frames after those of the moves before it. -/
theorem gallery_concat (c : Console κ NoPanel σ) (moves : List (Move κ)) (mv : Move κ) :
    c.gallery (moves ++ [mv]) = c.gallery moves ++ (c.play moves).exhibited mv := by
  induction moves generalizing c with
  | nil => simp [gallery, play]
  | cons mv' moves ih => simp [gallery, ih, play]

/-- With a writing panel the same happens, and what is shown is written. -/
theorem moved_onWriter (c : Console κ NoPanel σ) (hsink : sink.capacity = none) (mv : Move κ) :
    ∃ sink', (c.onWriter sink).moved mv = (c.moved mv).onWriter sink' ∧
      sink.Wrote ((c.exhibited mv).flatMap Frame.text) sink' := by
  cases mv with
  | step =>
    obtain ⟨sink', hstep, hwrote⟩ := c.step_onWriter hsink
    exact ⟨sink', congrArg (fun r => r.2) hstep, hwrote⟩
  | load source =>
    refine ⟨sink, ?_, .refl sink⟩
    rw [moved, onWriter, loadProgram_through]
    rfl
  | beat | use => exact ⟨sink, rfl, .refl sink⟩

/-- A run with a writing panel is the run without one, and its gallery is written.

**Proof sketch.** Induction on the moves from their end: what the last one shows is written after
what those before it have shown. -/
theorem play_onWriter (c : Console κ NoPanel σ) (hsink : sink.capacity = none)
    (moves : List (Move κ)) :
    ∃ sink', (c.onWriter sink).play moves = (c.play moves).onWriter sink' ∧
      sink.Wrote ((c.gallery moves).flatMap Frame.text) sink' := by
  induction moves using List.reverseRecOn with
  | nil => exact ⟨sink, rfl, .refl sink⟩
  | append_singleton moves mv ih =>
    obtain ⟨before, hplay, hbefore⟩ := ih
    obtain ⟨sink', hmoved, hwrote⟩ :=
      (c.play moves).moved_onWriter (hbefore.capacity.trans hsink) mv
    refine ⟨sink', ?_, ?_⟩
    · rw [play_concat, hplay, hmoved, play_concat]
    · rw [gallery_concat, List.flatMap_append]
      exact hbefore.trans hwrote

/-- After every move, what is on the screen was shown last, if anything was, and the screen counts
what was shown. -/
theorem screen_play (c : Console κ NoPanel σ) (moves : List (Move κ)) :
    (c.play moves).machine.screen.frame =
        (c.gallery moves).getLast?.getD c.machine.screen.frame ∧
      (c.play moves).machine.screen.flushes =
        c.machine.screen.flushes + (c.gallery moves).length := by
  induction moves using List.reverseRecOn with
  | nil => exact ⟨rfl, rfl⟩
  | append_singleton moves mv ih =>
    obtain ⟨hframe, hflushes⟩ := ih
    have hmoved :
        ((c.play moves).moved mv).machine.screen.frame =
            ((c.play moves).exhibited mv).getLast?.getD (c.play moves).machine.screen.frame ∧
          ((c.play moves).moved mv).machine.screen.flushes =
            (c.play moves).machine.screen.flushes + ((c.play moves).exhibited mv).length := by
      cases mv with
      | step => exact (c.play moves).screen_step
      | load source =>
        obtain ⟨memory, hload⟩ := (c.play moves).machine_loadProgram source
        rw [moved, hload]
        exact ⟨rfl, rfl⟩
      | beat | use => exact ⟨rfl, rfl⟩
    rw [play_concat, gallery_concat, List.getLast?_append, Option.getD_or, ← hframe,
      List.length_append, ← Nat.add_assoc, ← hflushes]
    exact hmoved

/-- **Which panel is there does not matter, and none shows old pictures.** Start a console with no
panel, and one with a panel that writes its frames to a sink without a limit, and let the same
happen to both: load any programs, take steps, let the timers tick, use the keypad. The consoles are
then the same but for their panels, and so are the answers of their next steps. The sink has the
text of each frame that was shown, in order, after what it held before: one frame for every
instruction that cleared the screen or drew on it and was completed, as it was then, and none for
any other. The frame shown last, or a blank one if none was shown, is the one on the screen.

**Proof sketch.** What an instruction paints depends on no panel, and the panel is told only of what
was painted (`Machine.execute_onWriter`). Where nothing is painted the screen stays as it is
(`Machine.screen_execute`). -/
theorem panels_do_not_matter (config : Config) (keypad : κ) (speaker : σ) (random : RandomSource)
    (trace : Option Sink) (hsink : sink.capacity = none) (moves : List (Move κ)) :
    let plain : Console κ NoPanel σ := start config keypad NoPanel.mk speaker random trace
    let written : Console κ WriterPanel σ := start config keypad ⟨sink⟩ speaker random trace
    ∃ sink', written.play moves = (plain.play moves).onWriter sink' ∧
      (written.play moves).step.1 = (plain.play moves).step.1 ∧
      sink'.taken.toList =
        sink.taken.toList ++ Utf8.encode ((plain.gallery moves).flatMap Frame.text) ∧
      (plain.gallery moves).getLast?.getD Frame.blank = (plain.play moves).machine.screen.frame ∧
      (plain.play moves).machine.screen.flushes = (plain.gallery moves).length := by
  intro plain written
  obtain ⟨sink', hplay, hwrote⟩ := plain.play_onWriter hsink moves
  obtain ⟨hframe, hflushes⟩ := plain.screen_play moves
  have hsame : written.play moves = (plain.play moves).onWriter sink' := hplay
  have hcapacity : sink'.capacity = none := hwrote.capacity.trans hsink
  obtain ⟨_, hstep, -⟩ := (plain.play moves).step_onWriter hcapacity
  refine ⟨sink', hsame, ?_, ?_, hframe.symm, ?_⟩
  · rw [hsame, hstep]
  · have hfits := Sink.fits_of_capacity_eq_none hsink ((plain.gallery moves).flatMap Frame.text)
    rw [hwrote.taken, hfits, List.take_length]
  · rw [hflushes]
    exact Nat.zero_add _

/-- A program that draws the digit 0 and clears the screen again shows two frames. -/
theorem panels_do_not_matter_after_clearing :
    let sink : Sink := {}
    let plain : Console ScriptedKeypad NoPanel Mute := start {} ⟨[]⟩ NoPanel.mk Mute.mk
      (RandomSource.seeded 0) none
    let written : Console ScriptedKeypad WriterPanel Mute := start {} ⟨[]⟩ ⟨sink⟩ Mute.mk
      (RandomSource.seeded 0) none
    let load : Move ScriptedKeypad := .load (Source.ofBytes [0xD0, 0x15, 0x00, 0xE0])
    let drawn := (plain.play [load, .step]).machine.screen.frame
    drawn.pixel 0 0 = true ∧
      (written.play [load, .step, .step]).machine.screen.panel.sink.taken.toList =
        Utf8.encode (drawn.text ++ Frame.blank.text) ∧
      (written.play [load, .step, .step]).machine.screen.frame = Frame.blank := by
  intro sink plain written load drawn
  obtain ⟨sink', hplay, -, htaken, hlast, -⟩ :=
    panels_do_not_matter {} ⟨[]⟩ Mute.mk (RandomSource.seeded 0) none (rfl : sink.capacity = none)
      [load, .step, .step]
  obtain ⟨hgallery, hlit⟩ :
      plain.gallery [load, .step, .step] = [drawn, Frame.blank] ∧ drawn.pixel 0 0 = true := by
    decide +kernel
  rw [hgallery] at htaken hlast
  refine ⟨hlit, ?_, ?_⟩
  · rw [hplay, panel_onWriter, htaken, List.flatMap_cons, List.flatMap_singleton]
    exact List.nil_append _
  · rw [hplay, frame_onWriter, ← hlast, List.getLast?_cons_cons, List.getLast?_singleton,
      Option.getD_some]

end Console

end Chip8
