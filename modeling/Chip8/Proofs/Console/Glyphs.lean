import Chip8.Proofs.Console.Moves
import Chip8.Proofs.Machine.Awaiting
import Chip8.Proofs.Machine.Drawing
import Chip8.Proofs.Machine.Effects
import Chip8.Proofs.Machine.Run
import Chip8.Proofs.Memory.Loading

set_option relaxedAutoImplicit false
set_option autoImplicit false

/-!
# Glyphs

Nothing but the programs themselves protects the font, which lies at the start of memory like
anything else. A program that is loaded after it, and that stores only after it, never overwrites
it. As long as the font is there, the index can be set to the glyph of any register, and drawing
five rows from there draws just the glyph.

## Main definitions

* `Chip8.Font.digitOf`, `Chip8.Font.Lights` — the digit whose glyph a byte gets, and the pixels that
  the rows of a glyph light.
* `Chip8.Memory.HasFont`, `Chip8.Memory.KeepsFont` — the font is in memory, and programs are loaded
  after it.
* `Chip8.Machine.Spares`, `Chip8.Console.Spares` — what happens to a machine, or to a console, does
  not store into the font.

## Main results

* `Chip8.Machine.memory_execute` — an instruction writes at the index, or nothing.
* `Chip8.Machine.keepsFont_run`, `Chip8.Console.keepsFont_play` — the font stays along a run.
* `Chip8.Machine.execute_glyph`, `Chip8.Machine.execute_draw_glyph` — a glyph is looked up, and
  drawn.
* `Chip8.Console.glyphs_stay_drawable` — all of it together.
-/

namespace Chip8

/-! ## Rows of a glyph -/

namespace Font

/-- The digit whose glyph a byte gets: itself, or 0 if it is none. -/
def digitOf (v : UInt8) : Nat :=
  if v.toNat ≤ 15 then v.toNat else 0

theorem digitOf_lt (v : UInt8) : digitOf v < 16 := by
  unfold digitOf
  split <;> omega

/-- A digit has a glyph. -/
theorem exists_rows {digit : Nat} (h : digit < 16) :
    ∃ rows, glyphs[digit]? = some rows ∧ rows.length = 5 := by
  have hall : ∀ d < 16, ∃ rows ∈ glyphs[d]?, rows.length = 5 := by decide
  exact hall digit h

/-- Whether five rows with their top left corner at `(x, y)` light the pixel in column `px` and row
`py`: one of their bits falls on it, and is set. -/
def Lights (rows : List UInt8) (x y : UInt8) (px py : Nat) : Prop :=
  ∃ r < 5, ∃ b < 8, (y.toNat + r) % 32 = py ∧ (x.toNat + b) % 64 = px ∧
    (rows[r]?.any fun row => row.toNat.testBit (7 - b)) = true

instance (rows : List UInt8) (x y : UInt8) (px py : Nat) : Decidable (Lights rows x y px py) := by
  unfold Lights
  infer_instance

/-- The rows of a glyph lie at five times its digit. -/
theorem getElem?_bytes {digit r : Nat} (hdigit : digit < 16) (hr : r < 5) {rows : List UInt8}
    (hrows : glyphs[digit]? = some rows) : bytes[5 * digit + r]? = rows[r]? := by
  have hall : ∀ d < 16, ∀ r < 5, bytes[5 * d + r]? = glyphs[d]?.bind (·[r]?) := by decide
  rw [hall digit hdigit r hr, hrows]
  rfl

end Font

/-! ## Memory with a font -/

namespace Memory

variable {m m' : Memory}

/-- The font is at the start of memory, where glyphs are looked for. -/
structure HasFont (m : Memory) : Prop where
  /-- The rows of the glyphs. -/
  rows : m.Holds 0 Font.bytes
  /-- Where the glyph of digit 0 is looked for. -/
  start : m.fontStart = 0

/-- The font is there, and programs are loaded after it. -/
structure KeepsFont (m : Memory) : Prop extends m.HasFont where
  /-- Programs are loaded after the font. -/
  program : 0x50 ≤ m.programStart.toNat

theorem keepsFont_fresh {programStart : UInt16} (h : 0x50 ≤ programStart.toNat) :
    KeepsFont { fresh with programStart } := by
  have hwrite : ({ bytes := Vector.replicate memorySize 0, programStart } : Memory).write 0
      Font.bytes = .ok { fresh with programStart } := write_eq_ok_iff.2 ⟨by decide, rfl⟩
  exact ⟨⟨holds_of_write hwrite, rfl⟩, h⟩

/-- What is written after the font leaves it alone. -/
theorem KeepsFont.write {addr : UInt16} {data : List UInt8} (h : m.KeepsFont)
    (hwrite : m.write addr data = .ok m') (haddr : 0x50 ≤ addr.toNat) : m'.KeepsFont := by
  obtain ⟨hprogram, hstart⟩ := starts_of_write hwrite
  refine ⟨⟨fun k b hb => ?_, hstart.trans h.start⟩, hprogram ▸ h.program⟩
  have hk : k < 80 := (List.getElem?_eq_some_iff.1 hb).1
  rw [getElem?_of_write hwrite (Or.inl (by rw [UInt16.toNat_zero]; omega))]
  exact h.rows k b hb

theorem KeepsFont.loadProgram {source : Source} {size : Nat} (h : m.KeepsFont)
    (hload : m.loadProgram source = .ok (size, m')) : m'.KeepsFont := by
  obtain ⟨data, hwrite⟩ := write_of_loadProgram hload
  exact h.write hwrite h.program

/-- Five bytes for each digit. -/
theorem HasFont.toNat_glyphAddress (h : m.HasFont) (v : UInt8) :
    (m.glyphAddress v).toNat = 5 * Font.digitOf v := by
  have hv := v.toNat_lt
  by_cases hdigit : v.toNat ≤ 15
  · have hlt : v.toNat < 16 := by omega
    simp only [glyphAddress, h.start, Font.digitOf, Font.glyphSize, if_pos hdigit, if_pos hlt,
      UInt16.toNat_add, UInt16.toNat_mul, UInt16.toNat_zero, UInt8.toNat_toUInt16,
      UInt16.toNat_ofNat']
    omega
  · have hlt : ¬ v.toNat < 16 := by omega
    simp only [glyphAddress, h.start, Font.digitOf, if_neg hdigit, if_neg hlt, UInt16.toNat_zero]

end Memory

/-! ## Machines -/

namespace Machine

variable {κ δ : Type} [Keypad κ] [Panel δ] {m : Machine κ δ} {ins : Instruction}

/-- An instruction that stores into memory and succeeds has its index after the font. -/
def SparesFont (m : Machine κ δ) (ins : Instruction) : Prop :=
  ins.group = 0xF → ins.nn = 0x33 ∨ ins.nn = 0x55 → (m.execute ins).1 = .ok .executed →
    0x50 ≤ m.cpu.index.toNat

/-- What is asked of a machine does not store into the font. Programs are loaded where they are
loaded. -/
def Spares (m : Machine κ δ) : Action → Prop
  | .execute ins => m.SparesFont ins
  | .write addr _ => 0x50 ≤ addr.toNat
  | _ => True

/-- An instruction leaves memory as it is, or it stores something at the index and succeeds. -/
theorem memory_execute (m : Machine κ δ) (ins : Instruction) :
    (m.execute ins).2.memory = m.memory ∨
      ins.group = 0xF ∧ (ins.nn = 0x33 ∨ ins.nn = 0x55) ∧ (m.execute ins).1 = .ok .executed ∧
        ∃ data, m.memory.write m.cpu.index data = .ok (m.execute ins).2.memory := by
  by_cases hmay : ins.MayChange .memory
  · obtain ⟨op, data, hop, hp⟩ : ∃ op data, ins.operation? = some op ∧
        m.perform op = m.replaceMemory (m.memory.write m.cpu.index data) := by
      obtain ⟨hgroup, hbyte | hbyte⟩ := hmay
      · exact ⟨.storeDecimal ins.x, _,
          Instruction.operation?_eq_some_iff.2 ⟨hgroup, hbyte, rfl⟩, rfl⟩
      · exact ⟨.save ins.x, _, Instruction.operation?_eq_some_iff.2 ⟨hgroup, hbyte, rfl⟩, rfl⟩
    cases hw : m.isWaiting with
    | true => exact Or.inl (by rw [execute_of_isWaiting hw])
    | false =>
      cases hwrite : m.memory.write m.cpu.index data with
      | error e =>
        rw [hwrite] at hp
        exact Or.inl (by rw [execute_of_perform_error hw hop hp])
      | ok memory =>
        rw [hwrite] at hp
        rw [execute_of_perform_ok hw hop hp]
        exact Or.inr ⟨hmay.1, hmay.2, rfl, data, hwrite⟩
  · exact Or.inl (m.same_of_not_mayChange hmay)

theorem keepsFont_execute (h : m.memory.KeepsFont) (hspares : m.SparesFont ins) :
    (m.execute ins).2.memory.KeepsFont := by
  rcases m.memory_execute ins with hsame | ⟨hgroup, hbyte, hdone, data, hwrite⟩
  · rwa [hsame]
  · exact h.write hwrite (hspares hgroup hbyte hdone)

omit [Keypad κ] [Panel δ] in
theorem keepsFont_loadProgram (h : m.memory.KeepsFont) (source : Source) :
    (m.loadProgram source).2.memory.KeepsFont := by
  unfold loadProgram
  split
  · exact h
  · exact h.loadProgram ‹_›

/-- An action that spares the font leaves it there. -/
theorem keepsFont_after (h : m.memory.KeepsFont) {a : Action} (hspares : m.Spares a) :
    (m.after a).memory.KeepsFont := by
  cases a with
  | execute ins => exact keepsFont_execute h hspares
  | proceed =>
    have hsame : m.canProceed.2.memory = m.memory := m.same_canProceed (p := .memory) (by simp)
    exact hsame ▸ h
  | tick | elapse => exact h
  | write addr data =>
    simp only [after, write]
    split
    · exact h
    · exact h.write ‹_› hspares
  | load source => exact keepsFont_loadProgram h source

/-- Actions that spare the font leave it there.

**Proof sketch.** Induction on the actions, the last one first. -/
theorem keepsFont_run (h : m.memory.KeepsFont) {actions : List Action}
    (hspares : ∀ pre a, pre ++ [a] <+: actions → (m.run pre).Spares a) :
    (m.run actions).memory.KeepsFont := by
  induction actions using List.reverseRecOn with
  | nil => exact h
  | append_singleton actions a ih =>
    rw [run_concat]
    refine keepsFont_after (ih fun pre b hpre => ?_) (hspares actions a (List.prefix_refl _))
    exact hspares pre b (hpre.trans (List.prefix_append _ _))

/-! ### Looking a glyph up, and drawing it -/

/-- The index is set to the glyph of a register, and nothing else happens. -/
theorem execute_glyph (hw : m.isWaiting = false) (hgroup : ins.group = 0xF)
    (hbyte : ins.nn = 0x29) :
    m.execute ins = (.ok .executed,
      (m.setIndex (m.memory.glyphAddress (m.register ins.x))).setPc
        (m.cpu.pc + Instruction.width)) := by
  have hop : ins.operation? = some (.glyph ins.x) :=
    Instruction.operation?_eq_some_iff.2 ⟨hgroup, hbyte, rfl⟩
  exact execute_of_perform_ok hw hop rfl

omit [Keypad κ] [Panel δ] in
/-- At the glyph of a digit, the pixels covered are those that its rows light. -/
theorem covers_iff_of_glyph (h : m.memory.HasFont) {x y : Fin 16} {digit px py : Nat}
    {rows : List UInt8} (hdigit : digit < 16) (hrows : Font.glyphs[digit]? = some rows)
    (hindex : m.cpu.index.toNat = 5 * digit) (hpx : px < 64) :
    m.Covers x y 5 px py ↔ Font.Lights rows (m.register x) (m.register y) px py := by
  have hrow {r : Nat} (hr : r < 5) : m.memory.bytes[m.cpu.index.toNat + r]? = rows[r]? := by
    have hlt : 5 * digit + r < Font.bytes.length := by
      rw [Font.length_bytes]
      omega
    have hbyte := h.rows (5 * digit + r) _ (List.getElem?_eq_getElem hlt)
    rw [← List.getElem?_eq_getElem hlt, UInt16.toNat_zero, Nat.zero_add] at hbyte
    rw [hindex, hbyte, Font.getElem?_bytes hdigit hr hrows]
  have hcolumn {b : Nat} (hb : b < 8) :
      ((px : Int) - (m.register x).toNat) % 64 = b ↔ ((m.register x).toNat + b) % 64 = px := by
    omega
  constructor
  · rintro ⟨r, hr, hpy, b, hb, hcol, hbit⟩
    rw [hrow hr] at hbit
    exact ⟨r, hr, b, hb, hpy, (hcolumn hb).1 hcol, hbit⟩
  · rintro ⟨r, hr, b, hb, hpy, hcol, hbit⟩
    rw [← hrow hr] at hbit
    exact ⟨r, hr, hpy, b, hb, (hcolumn hb).2 hcol, hbit⟩

/-- A glyph that the index points to is drawn. -/
theorem execute_draw_glyph {m' : Machine κ δ} {r : Except Error Step} (h : m.memory.HasFont)
    (hw : m.isWaiting = false) (hgroup : ins.group = 0xD) (hheight : ins.n = 5) {digit : Nat}
    (hdigit : digit < 16) (hindex : m.cpu.index.toNat = 5 * digit) {rows : List UInt8}
    (hrows : Font.glyphs[digit]? = some rows) (hrun : m.execute ins = (r, m'))
    (hflush : (Panel.present m.screen.panel m'.screen.frame).1 = .ok ()) :
    r = .ok .executed ∧ ∀ px < 64, ∀ py < 32, m'.screen.frame.pixel px py =
      (m.screen.frame.pixel px py ^^
        decide (Font.Lights rows (m.register ins.x) (m.register ins.y) px py)) := by
  have hn : ins.n.val = 5 := by rw [hheight]; rfl
  have hrange : m.cpu.index.toNat + ins.n.val ≤ memorySize := by
    rw [hn, hindex, memorySize]
    omega
  obtain ⟨hdone, hpixel, -⟩ := execute_draw hw hgroup hrange hrun hflush
  refine ⟨hdone, fun px hpx py hpy => ?_⟩
  have hcovers : m.Covers ins.x ins.y 5 px py ↔
      Font.Lights rows (m.register ins.x) (m.register ins.y) px py :=
    covers_iff_of_glyph h hdigit hrows hindex hpx
  rw [hpixel px hpx py hpy, hn, decide_eq_decide.2 hcovers]

end Machine

/-! ## Consoles -/

namespace Machine

variable {κ δ : Type} [Keypad κ] {m m' : Machine κ δ}

/-- The end of a wait leaves memory alone. -/
theorem Proceeds.memory_eq (h : m.Proceeds m') : m'.memory = m.memory := by
  cases h with
  | awake hx => rfl
  | key hx hpoll => rfl

end Machine

namespace Console

variable {κ δ σ : Type} [Keypad κ] [Panel δ] [Speaker σ] {c : Console κ δ σ}

/-- What happens to a console does not store into the font. -/
def Spares (c : Console κ δ σ) : Move κ → Prop
  | .step => ∀ m ins, c.machine.canProceed = (.ok true, m) → m.fetch = .ok ins → m.SparesFont ins
  | _ => True

omit [Speaker σ] in
/-- A console whose machine does not wait executes what is at its program counter. -/
theorem spares_step_of_not_isWaiting (hw : c.machine.isWaiting = false)
    (h : ∀ ins, c.machine.fetch = .ok ins → c.machine.SparesFont ins) : c.Spares .step := by
  intro m ins hm hfetch
  obtain rfl : c.machine = m :=
    (Prod.mk.inj ((Machine.canProceed_of_not_isWaiting hw).symm.trans hm)).2
  exact h ins hfetch

omit [Speaker σ] in
/-- A step that spares the font leaves it there. -/
theorem keepsFont_step (h : c.machine.memory.KeepsFont) (hspares : c.Spares .step) :
    c.step.2.machine.memory.KeepsFont := by
  have hexecute {m m' : Machine κ δ} {ins : Instruction} {r : Except Error Step}
      (hm : c.machine.Proceeds m) (hfetch : m.fetch = .ok ins) (hrun : m.execute ins = (r, m')) :
      m'.memory.KeepsFont := by
    have hafter := Machine.keepsFont_execute (hm.memory_eq ▸ h)
      (hspares m ins hm.canProceed_eq hfetch)
    rwa [hrun] at hafter
  rcases hstep : c.step with ⟨r, c'⟩
  cases takes_of_step hstep with
  | unheard | silent => exact h
  | lost hm => exact hm.memory_eq ▸ h
  | refused hm hfetch hrun => exact hexecute hm hfetch hrun
  | done hm hfetch hrun =>
    rw [machine_record]
    exact hexecute hm hfetch hrun

/-- What spares the font leaves it there. -/
theorem keepsFont_moved (h : c.machine.memory.KeepsFont) {mv : Move κ} (hspares : c.Spares mv) :
    (c.moved mv).machine.memory.KeepsFont := by
  cases mv with
  | step => exact keepsFont_step h hspares
  | beat | use => exact h
  | load source => exact Machine.keepsFont_loadProgram h source

/-- The font stays along every run that spares it.

**Proof sketch.** Induction on what happens, the last of it first. -/
theorem keepsFont_play (h : c.machine.memory.KeepsFont) {moves : List (Move κ)}
    (hspares : ∀ pre mv, pre ++ [mv] <+: moves → (c.play pre).Spares mv) :
    (c.play moves).machine.memory.KeepsFont := by
  induction moves using List.reverseRecOn with
  | nil => exact h
  | append_singleton moves mv ih =>
    rw [play_concat]
    refine keepsFont_moved (ih fun pre mv' hpre => ?_) (hspares moves mv (List.prefix_refl _))
    exact hspares pre mv' (hpre.trans (List.prefix_append _ _))

/-- **Glyphs stay drawable.** Take any run of a machine that starts with a fresh memory, or of a
console as it is started, whose programs are loaded at `0x50` or after it. If every instruction that
stores into memory, and succeeds, has its index at `0x50` or after it, then the font is at the start
of memory all the time.

Whenever it is, a machine that does not wait looks the glyph of any register up: the index becomes
five times the digit in the register, or 0 if it holds none, and nothing else changes but the
program counter. As long as the index stays there, and the font too, a drawing of five rows from any
two registers succeeds if the panel takes the frame, and flips the pixels that the rows of the glyph
light at the position in these registers, and no others. -/
theorem glyphs_stay_drawable :
    (∀ (m : Machine κ δ) (programStart : UInt16) (actions : List Machine.Action),
      m.memory = { Memory.fresh with programStart } → 0x50 ≤ programStart.toNat →
      (∀ pre a, pre ++ [a] <+: actions → (m.run pre).Spares a) →
      ∀ pre, pre <+: actions → (m.run pre).memory.HasFont) ∧
    (∀ (config : Config) (keypad : κ) (panel : δ) (speaker : σ) (random : RandomSource)
        (trace : Option Sink) (moves : List (Move κ)),
      let c := start config keypad panel speaker random trace
      0x50 ≤ config.entryPoint.toNat →
      (∀ pre mv, pre ++ [mv] <+: moves → (c.play pre).Spares mv) →
      ∀ pre, pre <+: moves → (c.play pre).machine.memory.HasFont) ∧
    ∀ (m : Machine κ δ) (find : Instruction), m.memory.HasFont → m.isWaiting = false →
      find.group = 0xF → find.nn = 0x29 →
      let vx := m.register find.x
      let found := (m.execute find).2
      (m.execute find).1 = .ok .executed ∧
      found.cpu.index.toNat = (if vx.toNat ≤ 15 then 5 * vx.toNat else 0) ∧
      found = (m.setIndex found.cpu.index).setPc (m.cpu.pc + 2) ∧
      ∀ (later : Machine κ δ) (draw : Instruction), later.memory.HasFont →
        later.isWaiting = false → later.cpu.index = found.cpu.index →
        draw.group = 0xD → draw.n = 5 →
        let drawn := (later.execute draw).2
        (Panel.present later.screen.panel drawn.screen.frame).1 = .ok () →
        (later.execute draw).1 = .ok .executed ∧
        ∃ rows, Font.glyphs[if vx.toNat ≤ 15 then vx.toNat else 0]? = some rows ∧
          rows.length = 5 ∧ ∀ px < 64, ∀ py < 32, drawn.screen.frame.pixel px py =
            (later.screen.frame.pixel px py ^^ decide (Font.Lights rows
              (later.register draw.x) (later.register draw.y) px py)) := by
  refine ⟨fun m programStart actions hmemory hstart hspares pre hpre => ?_,
    fun config keypad panel speaker random trace moves => ?_,
    fun m find hfont hw hgroup hbyte => ?_⟩
  · have hkeeps : m.memory.KeepsFont := hmemory ▸ Memory.keepsFont_fresh hstart
    exact (Machine.keepsFont_run hkeeps fun before a hbefore =>
      hspares before a (hbefore.trans hpre)).toHasFont
  · intro c hstart hspares pre hpre
    have hkeeps : c.machine.memory.KeepsFont := Memory.keepsFont_fresh hstart
    exact (keepsFont_play hkeeps fun before mv hbefore =>
      hspares before mv (hbefore.trans hpre)).toHasFont
  · intro vx found
    have hrun := Machine.execute_glyph hw hgroup hbyte
    have hindex : found.cpu.index.toNat = 5 * Font.digitOf vx := by
      simp only [found, hrun]
      exact hfont.toNat_glyphAddress vx
    refine ⟨by rw [hrun], ?_, by simp only [found, hrun]; rfl, ?_⟩
    · rw [hindex, Font.digitOf]
      split <;> rfl
    · intro later draw hfont' hw' hsame hgroup' hheight drawn hflush
      obtain ⟨rows, hrows, hlen⟩ := Font.exists_rows (Font.digitOf_lt vx)
      rw [← hsame] at hindex
      obtain ⟨hdone, hpixel⟩ := Machine.execute_draw_glyph hfont' hw' hgroup' hheight
        (Font.digitOf_lt vx) hindex hrows rfl hflush
      exact ⟨hdone, rows, hrows, hlen, hpixel⟩

/-- A machine and a console that store right after the font: it stays where it is, and the glyph of
the digit B is found there and drawn, here with the flag register for both coordinates. A byte that
is no digit gets the glyph of 0. -/
theorem glyphs_stay_drawable_after_stores :
    let m := Machine.switchedOn (⟨[]⟩ : ScriptedKeypad) NoPanel.mk
    let actions : List Machine.Action :=
      [.execute ⟨0xA0, 0x50⟩, .execute ⟨0xF1, 0x55⟩, .execute ⟨0x60, 0x0B⟩]
    let ready := m.run actions
    let found := (ready.execute ⟨0xF0, 0x29⟩).2
    let drawn := (found.execute ⟨0xDF, 0xF5⟩).2
    let moves : List (Move ScriptedKeypad) :=
      [.load (Source.ofBytes [0xA0, 0x50, 0xF0, 0x33]), .step, .step]
    ready.memory.HasFont ∧
      ((start {} (⟨[]⟩ : ScriptedKeypad) NoPanel.mk Mute.mk (RandomSource.seeded 0) none).play
        moves).machine.memory.HasFont ∧
      found.cpu.index.toNat = 55 ∧ drawn.screen.frame.pixel 3 1 = true ∧
      drawn.screen.frame.pixel 3 0 = false ∧
      ((ready.setRegister 0 0x10).execute ⟨0xF0, 0x29⟩).2.cpu.index.toNat = 0 := by
  intro m actions ready found drawn moves
  obtain ⟨hrun, hplay, hfind⟩ :=
    glyphs_stay_drawable (κ := ScriptedKeypad) (δ := NoPanel) (σ := Mute)
  have hfont : ready.memory.HasFont := by
    refine hrun m 0x200 actions rfl (by decide) (fun pre a hpre => ?_) actions (List.prefix_refl _)
    rcases pre with _ | ⟨b, _ | ⟨b', _ | ⟨b'', pre⟩⟩⟩
    · obtain rfl : a = .execute ⟨0xA0, 0x50⟩ := by simpa [actions] using hpre
      exact fun hgroup => absurd hgroup (by decide)
    · obtain ⟨rfl, rfl⟩ : b = .execute ⟨0xA0, 0x50⟩ ∧ a = .execute ⟨0xF1, 0x55⟩ := by
        simpa [actions] using hpre
      exact fun _ _ _ => by decide
    · obtain ⟨rfl, rfl, rfl⟩ : b = .execute ⟨0xA0, 0x50⟩ ∧ b' = .execute ⟨0xF1, 0x55⟩ ∧
          a = .execute ⟨0x60, 0x0B⟩ := by simpa [actions] using hpre
      exact fun hgroup => absurd hgroup (by decide)
    · simp [actions] at hpre
  obtain ⟨-, hindex, hfound, hdraw⟩ := hfind ready ⟨0xF0, 0x29⟩ hfont rfl (by decide) (by decide)
  have hfont' : found.memory.HasFont := by
    simp only [found]
    rw [hfound]
    exact hfont
  obtain ⟨-, rows, hrows, -, hpixel⟩ :=
    hdraw found ⟨0xDF, 0xF5⟩ hfont' rfl rfl (by decide) (by decide) rfl
  obtain rfl : [0xE0, 0x90, 0xE0, 0x90, 0xE0] = rows := Option.some.inj hrows
  refine ⟨hfont, ?_, ?_, ?_, ?_, ?_⟩
  · refine hplay {} ⟨[]⟩ NoPanel.mk Mute.mk (RandomSource.seeded 0) none moves (by decide)
      (fun pre mv hpre => ?_) moves (List.prefix_refl _)
    rcases pre with _ | ⟨b, _ | ⟨b', _ | ⟨b'', pre⟩⟩⟩
    · obtain rfl : mv = .load (Source.ofBytes [0xA0, 0x50, 0xF0, 0x33]) := by
        simpa [moves] using hpre
      trivial
    · obtain ⟨rfl, rfl⟩ : b = .load (Source.ofBytes [0xA0, 0x50, 0xF0, 0x33]) ∧ mv = .step := by
        simpa [moves] using hpre
      refine spares_step_of_not_isWaiting rfl fun ins hfetch => ?_
      obtain ⟨-, rfl⟩ := Memory.fetch_eq_ok_iff.1 hfetch
      exact fun hgroup => absurd hgroup (by decide +kernel +revert)
    · obtain ⟨rfl, rfl, rfl⟩ : b = .load (Source.ofBytes [0xA0, 0x50, 0xF0, 0x33]) ∧
          b' = .step ∧ mv = .step := by simpa [moves] using hpre
      refine spares_step_of_not_isWaiting (by decide +kernel) fun _ _ _ _ _ => ?_
      decide +kernel
    · simp [moves] at hpre
  · simp only [found]
    rw [hindex]
    decide
  · simp only [drawn]
    rw [hpixel 3 (by decide) 1 (by decide)]
    decide
  · simp only [drawn]
    rw [hpixel 3 (by decide) 0 (by decide)]
    decide
  · rw [(hfind (ready.setRegister 0 0x10) ⟨0xF0, 0x29⟩ hfont rfl (by decide) (by decide)).2.1]
    decide

end Console

end Chip8
