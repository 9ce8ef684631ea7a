import Chip8.Proofs.Decoding
import Chip8.Proofs.Machine.Execute
import Mathlib.Tactic.ByContra
import Mathlib.Tactic.Set

set_option relaxedAutoImplicit false
set_option autoImplicit false

/-!
# Drawing a sprite

The drawing instruction, pixel by pixel. Which pixels a sprite covers is said through the
registers, the index and memory as they are before the instruction; the instruction flips exactly
these pixels, tells in the flag whether one of them was lit, and shows the frame once.

## Main definitions

* `Chip8.Machine.Covers` — whether a sprite covers a pixel.
* `Chip8.Machine.Meets` — whether a sprite covers a lit pixel, or a dark one.
* `Chip8.Machine.IsDrawing` — what the sprite leaves behind, before the frame is shown.

## Main results

* `Chip8.Machine.exists_isDrawing` — a sprite inside memory is painted as `IsDrawing` says.
* `Chip8.Machine.painted?_eq_some` — a frame that is painted is blank or has a sprite on it.
* `Chip8.Machine.execute_draw` — the drawing instruction, and the same instruction again.
-/

namespace Chip8

namespace Machine

variable {κ δ : Type}

/-! ## The pixels of a sprite -/

/-- Whether a sprite of `height` rows at the index, drawn from the position that registers `x` and
`y` hold, covers the pixel in column `px` and row `py`: one of its rows falls on `py`, `px` is one
of the eight columns from the left edge on, and that row has the bit for it. -/
def Covers (m : Machine κ δ) (x y : Fin 16) (height px py : Nat) : Prop :=
  ∃ r < height, ((m.register y).toNat + r) % 32 = py ∧
    ∃ b : Nat, b < 8 ∧ ((px : Int) - (m.register x).toNat) % 64 = b ∧
      (m.memory.bytes[m.cpu.index.toNat + r]?.any fun row => row.toNat.testBit (7 - b)) = true

instance (m : Machine κ δ) (x y : Fin 16) (height px py : Nat) :
    Decidable (m.Covers x y height px py) := by
  unfold Covers
  infer_instance

/-- Whether a sprite covers a pixel that is lit, or one that is dark. -/
def Meets (m : Machine κ δ) (x y : Fin 16) (height : Nat) (lit : Bool) : Prop :=
  ∃ px < 64, ∃ py < 32, m.Covers x y height px py ∧ m.screen.frame.pixel px py = lit

instance (m : Machine κ δ) (x y : Fin 16) (height : Nat) (lit : Bool) :
    Decidable (m.Meets x y height lit) := by
  unfold Meets
  infer_instance

/-- Which pixels are covered depends on two registers, the index and memory only. -/
theorem covers_congr {m m' : Machine κ δ} {x y : Fin 16} (hx : m'.register x = m.register x)
    (hy : m'.register y = m.register y) (hindex : m'.cpu.index = m.cpu.index)
    (hmemory : m'.memory = m.memory) (height px py : Nat) :
    m'.Covers x y height px py ↔ m.Covers x y height px py := by
  simp only [Covers, hx, hy, hindex, hmemory]

/-- The pixels covered are those that the bytes at the index light. -/
theorem covers_iff_lights {m : Machine κ δ} {x y : Fin 16} {height px py : Nat}
    (hrange : m.cpu.index.toNat + height ≤ memorySize) (hheight : height ≤ 32) (hpy : py < 32) :
    m.Covers x y height px py ↔
      Frame.lights (Bytes.slice m.memory.bytes m.cpu.index.toNat height hrange) (m.register x)
        (m.register y) px py = true := by
  have hvx := (m.register x).toNat_lt
  have hvy := (m.register y).toNat_lt
  simp only [Frame.lights, Bytes.getElem?_slice, Frame.spriteBit]
  constructor
  · rintro ⟨r, hr, hrow, b, hb, hcol, hbit⟩
    have hr' : Frame.rowFrom (m.register y) py = r := by simp only [Frame.rowFrom]; omega
    have hb' : Frame.columnFrom (m.register x) px = b := by simp only [Frame.columnFrom]; omega
    simpa [hr', hr, hb', hb] using hbit
  · intro h
    by_cases hr : Frame.rowFrom (m.register y) py < height
    · simp only [if_pos hr, Option.any_eq_true, Bool.and_eq_true, decide_eq_true_eq] at h
      obtain ⟨row, hrow, hb, hbit⟩ := h
      refine ⟨_, hr, ?_, _, hb, ?_, by simpa [hrow] using hbit⟩
      · simp only [Frame.rowFrom]; omega
      · simp only [Frame.columnFrom]; omega
    · simp [hr] at h

/-! ## The painted machine -/

/-- What a sprite leaves behind, before the frame is shown: the covered pixels are flipped, the
flag tells whether a lit one was among them, and the rows drawn are counted. -/
structure IsDrawing (m m₁ : Machine κ δ) (x y : Fin 16) (height : Nat) : Prop where
  /-- The covered pixels are flipped. -/
  pixel : ∀ px < 64, ∀ py < 32, m₁.screen.frame.pixel px py =
    (m.screen.frame.pixel px py ^^ decide (m.Covers x y height px py))
  /-- The flag tells whether a lit pixel was covered. -/
  flag : m₁.register flagRegister = if m.Meets x y height true then 1 else 0
  /-- The other registers stay. -/
  register : ∀ r ≠ flagRegister, m₁.register r = m.register r
  /-- The screen has the new frame and counted the rows. -/
  screen : m₁.screen =
    { m.screen with frame := m₁.screen.frame, draws := m.screen.draws + height }
  /-- Nothing but the screen and the registers differs. -/
  rest : m₁ =
    { m with screen := m₁.screen, cpu := { m.cpu with registers := m₁.cpu.registers } }

/-- A sprite inside memory is painted.

**Proof sketch.** The read gives the bytes at the index, and the screen draws them on its frame
(`Screen.drawSprite_eq`). At most 15 rows never meet, so the pixels and the hit are those of the
frame before the instruction (`Frame.pixel_drawSprite`, `Frame.drawSprite_fst_iff`). -/
theorem exists_isDrawing {m : Machine κ δ} (x y height : Fin 16)
    (hrange : m.cpu.index.toNat + height.val ≤ memorySize) :
    ∃ m₁, m.painted? (.draw x y height) = some m₁ ∧ m.IsDrawing m₁ x y height.val := by
  set sprite := Bytes.slice m.memory.bytes m.cpu.index.toNat height.val hrange with hsprite
  have hlen : sprite.length ≤ 32 := by rw [hsprite, Bytes.length_slice]; omega
  have hread : m.memory.read m.cpu.index height.val = .ok sprite :=
    Memory.read_eq_ok_iff.2 ⟨hrange, rfl⟩
  have hcovers {px py : Nat} (hpy : py < 32) :
      m.Covers x y height.val px py ↔
        Frame.lights sprite (m.register x) (m.register y) px py = true :=
    covers_iff_lights hrange (by omega) hpy
  set drawn := m.screen.frame.drawSprite (m.register x) (m.register y) sprite with hdrawn
  refine ⟨Machine.setFlag { m with screen := { m.screen with
      frame := drawn.2, draws := m.screen.draws + height.val } } drawn.1, ?_, ?_, ?_, ?_, rfl, rfl⟩
  · simp only [painted?, hread, Screen.drawSprite_eq, hdrawn, hsprite, Bytes.length_slice]
  · intro px hpx py hpy
    have hdecide : decide (m.Covers x y height.val px py) =
        Frame.lights sprite (m.register x) (m.register y) px py := by
      rw [Bool.eq_iff_iff, decide_eq_true_iff]
      exact hcovers hpy
    rw [hdecide]
    exact Frame.pixel_drawSprite _ _ _ hlen hpx hpy
  · have hhit : drawn.1 = true ↔ m.Meets x y height.val true := by
      rw [hdrawn, Frame.drawSprite_fst_iff _ _ _ hlen]
      constructor
      · rintro ⟨px, hpx, py, hpy, hlights, hlit⟩
        exact ⟨px, hpx, py, hpy, (hcovers hpy).2 hlights, hlit⟩
      · rintro ⟨px, hpx, py, hpy, hcov, hlit⟩
        exact ⟨px, hpx, py, hpy, (hcovers hpy).1 hcov, hlit⟩
    rw [register_setFlag_self]
    simp only [hhit]
  · intro r hr
    exact register_setFlag_of_ne _ _ hr

/-- What an operation paints is a blank frame or a sprite. -/
theorem painted?_eq_some {m m₁ : Machine κ δ} {op : Operation} (h : m.painted? op = some m₁) :
    op = .clearScreen ∧ m₁ = { m with screen := m.screen.clear } ∨
      ∃ x y height, op = .draw x y height ∧ m.IsDrawing m₁ x y height.val := by
  cases op
  case clearScreen =>
    cases h
    exact Or.inl ⟨rfl, rfl⟩
  case draw x y height =>
    have hrange : m.cpu.index.toNat + height.val ≤ memorySize := by
      by_contra hout
      have hread : m.memory.read m.cpu.index height.val = .error (.outOfRange m.cpu.index _) :=
        Memory.read_eq_error_iff.2 ⟨Nat.lt_of_not_le hout, rfl⟩
      simp only [painted?, hread, reduceCtorEq] at h
    obtain ⟨p, hp, hd⟩ := exists_isDrawing x y height hrange
    cases hp.symm.trans h
    exact Or.inr ⟨x, y, height, rfl, hd⟩
  all_goals cases h

namespace IsDrawing

variable {m p q : Machine κ δ} {x y : Fin 16} {height : Nat} {panel : δ} {pc : UInt16}

theorem index_eq (hd : m.IsDrawing p x y height) : p.cpu.index = m.cpu.index := by
  rw [hd.rest]

theorem memory_eq (hd : m.IsDrawing p x y height) : p.memory = m.memory := by
  rw [hd.rest]

theorem pc_eq (hd : m.IsDrawing p x y height) : p.cpu.pc = m.cpu.pc := by
  rw [hd.rest]

theorem panel_eq (hd : m.IsDrawing p x y height) : p.screen.panel = m.screen.panel := by
  rw [hd.screen]

/-- A machine that was drawn on still waits, or still does not. -/
theorem isWaiting_eq (hd : m.IsDrawing p x y height) : p.isWaiting = m.isWaiting := by
  rw [hd.rest]
  rfl

/-- A sprite whose position is not in the flag register covers the same pixels again. -/
theorem covers_iff (hd : m.IsDrawing p x y height) (hx : x ≠ flagRegister)
    (hy : y ≠ flagRegister) (px py : Nat) :
    ((p.shown panel).setPc pc).Covers x y height px py ↔ m.Covers x y height px py :=
  covers_congr (hd.register x hx) (hd.register y hy) hd.index_eq hd.memory_eq height px py

/-- Drawing the sprite again puts the frame back. -/
theorem frame_again (hd : m.IsDrawing p x y height)
    (hd' : ((p.shown panel).setPc pc).IsDrawing q x y height) (hx : x ≠ flagRegister)
    (hy : y ≠ flagRegister) : q.screen.frame = m.screen.frame := by
  refine Frame.ext_pixel fun px hpx py hpy => ?_
  have hcov : decide (((p.shown panel).setPc pc).Covers x y height px py) =
      decide (m.Covers x y height px py) := decide_eq_decide.2 (hd.covers_iff hx hy px py)
  calc q.screen.frame.pixel px py
      = (p.screen.frame.pixel px py ^^
          decide (((p.shown panel).setPc pc).Covers x y height px py)) := hd'.pixel px hpx py hpy
    _ = (m.screen.frame.pixel px py ^^ decide (m.Covers x y height px py) ^^
          decide (m.Covers x y height px py)) := by rw [hd.pixel px hpx py hpy, hcov]
    _ = m.screen.frame.pixel px py := by rw [Bool.xor_assoc, Bool.xor_self, Bool.xor_false]

/-- Drawing the sprite again meets a lit pixel where it met a dark one before. -/
theorem meets_again (hd : m.IsDrawing p x y height) (hx : x ≠ flagRegister)
    (hy : y ≠ flagRegister) :
    ((p.shown panel).setPc pc).Meets x y height true ↔ m.Meets x y height false := by
  have hlit {px py : Nat} (hpx : px < 64) (hpy : py < 32) (hcov : m.Covers x y height px py) :
      p.screen.frame.pixel px py = true ↔ m.screen.frame.pixel px py = false := by
    rw [hd.pixel px hpx py hpy, decide_eq_true hcov]
    simp
  constructor
  · rintro ⟨px, hpx, py, hpy, hcov, hpixel⟩
    rw [hd.covers_iff hx hy] at hcov
    exact ⟨px, hpx, py, hpy, hcov, (hlit hpx hpy hcov).1 hpixel⟩
  · rintro ⟨px, hpx, py, hpy, hcov, hpixel⟩
    exact ⟨px, hpx, py, hpy, (hd.covers_iff hx hy px py).2 hcov, (hlit hpx hpy hcov).2 hpixel⟩

end IsDrawing

/-! ## The instruction -/

variable [Keypad κ] [Panel δ]

/-- A drawing instruction paints its sprite, shows the frame once and moves on, if the panel takes
the frame. -/
theorem exists_isDrawing_execute {m m' : Machine κ δ} {ins : Instruction} {r : Except Error Step}
    (hw : m.isWaiting = false) (hgroup : ins.group = 0xD)
    (hrange : m.cpu.index.toNat + ins.n.val ≤ memorySize) (hrun : m.execute ins = (r, m'))
    (hflush : (Panel.present m.screen.panel m'.screen.frame).1 = .ok ()) :
    r = .ok .executed ∧ ∃ m₁, m.IsDrawing m₁ ins.x ins.y ins.n.val ∧
      m' = (m₁.shown (Panel.present m.screen.panel m₁.screen.frame).2).setPc
        (m.cpu.pc + Instruction.width) := by
  obtain ⟨m₁, hp, hd⟩ := exists_isDrawing ins.x ins.y ins.n hrange
  have hop : ins.operation? = some (.draw ins.x ins.y ins.n) :=
    Instruction.operation?_eq_some_iff.2 ⟨hgroup, rfl, rfl, rfl⟩
  have hframe : m'.screen.frame = m₁.screen.frame := by
    rw [← frame_execute_of_painted? hw hop hp, hrun]
  have hpresent : Panel.present m₁.screen.panel m₁.screen.frame =
      (.ok (), (Panel.present m.screen.panel m₁.screen.frame).2) := by
    rw [hd.panel_eq, ← hframe, ← hflush]
  rw [execute_of_painted?_ok hw hop hp hpresent, hd.pc_eq] at hrun
  cases hrun
  exact ⟨rfl, m₁, hd, rfl⟩

/-- **Drawing, pixel by pixel.** A drawing instruction whose sprite lies in memory and whose frame
is taken by the panel flips exactly the covered pixels, sets the flag exactly if one of them was
lit, and draws each row and then shows the frame once. If the position is not in the flag
register, the same instruction again puts the frame back, and sets the flag exactly if the sprite
covered a pixel that was dark at first. -/
theorem execute_draw {m m₁ : Machine κ δ} {ins : Instruction} {r : Except Error Step}
    (hw : m.isWaiting = false) (hgroup : ins.group = 0xD)
    (hrange : m.cpu.index.toNat + ins.n.val ≤ memorySize) (hrun : m.execute ins = (r, m₁))
    (hflush : (Panel.present m.screen.panel m₁.screen.frame).1 = .ok ()) :
    r = .ok .executed ∧
      (∀ px < 64, ∀ py < 32, m₁.screen.frame.pixel px py =
        (m.screen.frame.pixel px py ^^ decide (m.Covers ins.x ins.y ins.n.val px py))) ∧
      m₁.register flagRegister = (if m.Meets ins.x ins.y ins.n.val true then 1 else 0) ∧
      m₁.screen = {
        frame := m₁.screen.frame
        panel := (Panel.present m.screen.panel m₁.screen.frame).2
        clears := m.screen.clears
        draws := m.screen.draws + ins.n.val
        flushes := m.screen.flushes + 1 } ∧
      ∀ (r₂ : Except Error Step) (m₂ : Machine κ δ),
        ins.x ≠ flagRegister → ins.y ≠ flagRegister → m₁.execute ins = (r₂, m₂) →
        (Panel.present m₁.screen.panel m₂.screen.frame).1 = .ok () →
        r₂ = .ok .executed ∧ m₂.screen.frame = m.screen.frame ∧
          m₂.register flagRegister =
            (if m.Meets ins.x ins.y ins.n.val false then 1 else 0) := by
  obtain ⟨rfl, p, hd, rfl⟩ := exists_isDrawing_execute hw hgroup hrange hrun hflush
  refine ⟨rfl, hd.pixel, hd.flag, ?_, fun r₂ m₂ hx hy hrun₂ hflush₂ => ?_⟩
  · simp only [shown, setPc]
    rw [hd.screen]
  · set m₁ := (p.shown (Panel.present m.screen.panel p.screen.frame).2).setPc
      (m.cpu.pc + Instruction.width)
    have hw₁ : m₁.isWaiting = false := hd.isWaiting_eq.trans hw
    have hindex : m₁.cpu.index = m.cpu.index := hd.index_eq
    have hrange₁ : m₁.cpu.index.toNat + ins.n.val ≤ memorySize := by rwa [hindex]
    obtain ⟨rfl, q, hd', rfl⟩ := exists_isDrawing_execute hw₁ hgroup hrange₁ hrun₂ hflush₂
    have hframe : q.screen.frame = m.screen.frame := hd.frame_again hd' hx hy
    have hmeets : m₁.Meets ins.x ins.y ins.n.val true ↔ m.Meets ins.x ins.y ins.n.val false :=
      hd.meets_again hx hy
    refine ⟨rfl, hframe, hd'.flag.trans ?_⟩
    simp only [hmeets]

/-- The digit 0, drawn across the bottom right corner of a blank frame and drawn again. -/
theorem execute_draw_across_corner :
    let m := ((switchedOn (⟨[]⟩ : ScriptedKeypad) NoPanel.mk).setRegister 0 62).setRegister 1 30
    let ins : Instruction := ⟨0xD0, 0x15⟩
    let m₁ := (m.execute ins).2
    m.isWaiting = false ∧ ins.group = 0xD ∧ m.cpu.index.toNat + ins.n.val ≤ memorySize ∧
      (Panel.present m.screen.panel m₁.screen.frame).1 = .ok () ∧
      m₁.screen.frame.pixel 1 31 = true ∧ m₁.register flagRegister = 0 ∧
      (m₁.execute ins).2.screen.frame = m.screen.frame ∧
      (m₁.execute ins).2.register flagRegister = 1 := by
  intro m ins m₁
  have hw : m.isWaiting = false := rfl
  have hgroup : ins.group = 0xD := by decide
  have hrange : m.cpu.index.toNat + ins.n.val ≤ memorySize := by decide
  obtain ⟨-, hpixel, hflag, -, hagain⟩ := execute_draw hw hgroup hrange rfl rfl
  obtain ⟨-, hframe, hflag₂⟩ := hagain _ _ (by decide) (by decide) rfl rfl
  refine ⟨hw, hgroup, hrange, rfl, ?_, ?_, hframe, ?_⟩
  · exact (hpixel 1 (by decide) 31 (by decide)).trans (by decide +kernel)
  · exact hflag.trans (by decide +kernel)
  · exact hflag₂.trans (by decide +kernel)

end Machine

end Chip8
