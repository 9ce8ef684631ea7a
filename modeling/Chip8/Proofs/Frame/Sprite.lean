import Chip8.Screen
import Mathlib.Tactic.ByContra

set_option relaxedAutoImplicit false
set_option autoImplicit false

/-!
# Sprites, pixel by pixel

What drawing does to a frame, said for one pixel at a time. A frame is its pixels. Drawing one
sprite row flips the pixels that the row lights, and drawing the rows of a sprite one below the
other flips the pixels that one of them lights: at most 32 rows never meet, so it does not matter
that each row is drawn on what the rows above it left behind.

## Main definitions

* `Chip8.Frame.columnFrom`, `Chip8.Frame.rowFrom` — how far a pixel is from the top left corner of
  a sprite.
* `Chip8.Frame.spriteBit` — whether a sprite row lights the pixel at some distance from its left
  edge.
* `Chip8.Frame.lights` — whether a sprite lights a pixel.
* `Chip8.Frame.drawSprite` — draw the rows of a sprite on a frame.

## Main results

* `Chip8.Frame.ext_pixel` — a frame is its pixels.
* `Chip8.Frame.pixel_draw`, `Chip8.Frame.draw_fst_iff` — one sprite row: the pixels, and the hit.
* `Chip8.Frame.pixel_drawSprite`, `Chip8.Frame.drawSprite_fst_iff` — a whole sprite.
* `Chip8.Screen.drawSprite_eq` — a screen draws on its frame, and counts.
-/

namespace Chip8

namespace Frame

/-! ## Pixels -/

/-- A frame is its pixels. -/
theorem ext_pixel {f g : Frame} (h : ∀ px < 64, ∀ py < 32, f.pixel px py = g.pixel px py) :
    f = g := by
  obtain ⟨rows⟩ := f
  obtain ⟨rows'⟩ := g
  congr 1
  refine Vector.ext fun py hpy => BitVec.eq_of_getMsbD_eq fun px hpx => ?_
  have := h px hpx py hpy
  simpa [pixel, rowIndex, Nat.mod_eq_of_lt hpx, Nat.mod_eq_of_lt hpy] using this

/-- A row has a lit pixel exactly if it is not zero. -/
theorem ne_zero_iff_getMsbD {v : BitVec 64} : v ≠ 0 ↔ ∃ px < 64, v.getMsbD px = true := by
  constructor
  · intro h
    by_contra hnone
    refine h (BitVec.eq_of_getMsbD_eq fun px hpx => ?_)
    cases hbit : v.getMsbD px with
    | false => simp
    | true => exact absurd ⟨px, hpx, hbit⟩ hnone
  · rintro ⟨px, -, hbit⟩ rfl
    simp at hbit

/-! ## One sprite row -/

/-- How far a column is to the right of `x`; columns wrap around. -/
def columnFrom (x : UInt8) (px : Nat) : Nat :=
  (px + 256 - x.toNat) % 64

/-- How far a row is below `y`; rows wrap around. -/
def rowFrom (y : UInt8) (py : Nat) : Nat :=
  (py + 256 - y.toNat) % 32

/-- Whether a sprite row lights the pixel `b` columns to the right of its left edge. -/
def spriteBit (row : UInt8) (b : Nat) : Bool :=
  decide (b < 8) && row.toNat.testBit (7 - b)

theorem getMsbD_toBitVec (row : UInt8) (b : Nat) : row.toBitVec.getMsbD b = spriteBit row b := by
  simp only [BitVec.getMsbD, BitVec.getLsbD, spriteBit, UInt8.toNat_toBitVec]

/-- The pixels a sprite row covers, by their distance from its left edge. -/
theorem getMsbD_cover (x row : UInt8) {px : Nat} (hpx : px < 64) :
    (cover x row).getMsbD px = spriteBit row (columnFrom x px) := by
  have hx := x.toNat_lt
  have hshift (k : Nat) : ((row.toBitVec.setWidth 64) <<< 56).getMsbD k = spriteBit row k := by
    rw [BitVec.getMsbD_shiftLeft, BitVec.getMsbD_setWidth, ← getMsbD_toBitVec]
    simp
  rw [cover, BitVec.getMsbD_rotateRight]
  simp only [hpx, decide_true, Bool.true_and, hshift, columnFrom]
  split
  · congr 1; omega
  · congr 1; omega

/-- A row is drawn on exactly if its distance is zero. -/
theorem rowIndex_eq_iff {y : UInt8} {py : Nat} (hpy : py < 32) :
    (rowIndex y.toNat).val = py ↔ rowFrom y py = 0 := by
  have := y.toNat_lt
  simp only [rowIndex, rowFrom]
  omega

/-- A sprite row flips the pixels it lights, and no others. -/
theorem pixel_draw (f : Frame) (x y row : UInt8) {px py : Nat} (hpx : px < 64) (hpy : py < 32) :
    (f.draw x y row).2.pixel px py =
      (f.pixel px py ^^ (decide (rowFrom y py = 0) && spriteBit row (columnFrom x px))) := by
  have hrow : rowIndex py = ⟨py, hpy⟩ := Fin.ext (Nat.mod_eq_of_lt hpy)
  simp only [draw, pixel, hrow, Nat.mod_eq_of_lt hpx, ← rowIndex_eq_iff hpy, Fin.getElem_fin]
  by_cases h : (rowIndex y.toNat).val = py
  · subst h
    rw [Vector.getElem_set_self, BitVec.getMsbD_xor, getMsbD_cover x row hpx]
    simp
  · rw [Vector.getElem_set_ne _ _ h]
    simp [h]

/-- A sprite row hits something exactly if a pixel it lights was lit. -/
theorem draw_fst_iff (f : Frame) (x y row : UInt8) :
    (f.draw x y row).1 = true ↔
      ∃ px < 64, ∃ py < 32, rowFrom y py = 0 ∧ spriteBit row (columnFrom x px) = true ∧
        f.pixel px py = true := by
  have hhit : (f.draw x y row).1 = true ↔ f.rows[rowIndex y.toNat] &&& cover x row ≠ 0 := by
    simp [draw]
  rw [hhit, ne_zero_iff_getMsbD]
  constructor
  · rintro ⟨px, hpx, h⟩
    rw [BitVec.getMsbD_and, getMsbD_cover x row hpx, Bool.and_eq_true] at h
    have hpy := (rowIndex y.toNat).isLt
    refine ⟨px, hpx, _, hpy, (rowIndex_eq_iff hpy).1 rfl, h.2, ?_⟩
    simpa [pixel, rowIndex, Nat.mod_eq_of_lt hpx] using h.1
  · rintro ⟨px, hpx, py, hpy, hrow, hbit, hlit⟩
    obtain rfl := (rowIndex_eq_iff hpy).2 hrow
    refine ⟨px, hpx, ?_⟩
    rw [BitVec.getMsbD_and, getMsbD_cover x row hpx, hbit, Bool.and_true]
    simpa [pixel, rowIndex, Nat.mod_eq_of_lt hpx] using hlit

/-! ## A whole sprite -/

/-- Draw the rows of a sprite from `(x, y)` down; tells whether one of them hit a lit pixel. -/
def drawSprite (f : Frame) (x y : UInt8) : List UInt8 → Bool × Frame
  | [] => (false, f)
  | row :: rows =>
    let (hit, f) := f.draw x y row
    let (later, f) := f.drawSprite x (y + 1) rows
    (hit || later, f)

/-- Whether a sprite at `(x, y)` lights a pixel. -/
def lights (rows : List UInt8) (x y : UInt8) (px py : Nat) : Bool :=
  rows[rowFrom y py]?.any fun row => spriteBit row (columnFrom x px)

theorem rowFrom_succ_of_eq_zero {y : UInt8} {py : Nat} (h : rowFrom y py = 0) :
    rowFrom (y + 1) py = 31 := by
  have := y.toNat_lt
  have hsucc : (y + 1).toNat = (y.toNat + 1) % 256 := UInt8.toNat_add y 1
  simp only [rowFrom] at h ⊢
  omega

theorem rowFrom_of_ne_zero {y : UInt8} {py : Nat} (h : rowFrom y py ≠ 0) :
    rowFrom y py = rowFrom (y + 1) py + 1 := by
  have := y.toNat_lt
  have hsucc : (y + 1).toNat = (y.toNat + 1) % 256 := UInt8.toNat_add y 1
  simp only [rowFrom] at h ⊢
  omega

/-- On the row that a sprite starts on, its first row says what is lit. -/
theorem lights_cons_of_eq_zero {row : UInt8} {rows : List UInt8} {x y : UInt8} {px py : Nat}
    (h : rowFrom y py = 0) : lights (row :: rows) x y px py = spriteBit row (columnFrom x px) := by
  simp [lights, h]

/-- On any other row the rest of the sprite does, which starts one row further down. -/
theorem lights_cons_of_ne_zero {row : UInt8} {rows : List UInt8} {x y : UInt8} {px py : Nat}
    (h : rowFrom y py ≠ 0) : lights (row :: rows) x y px py = lights rows x (y + 1) px py := by
  rw [lights, lights, rowFrom_of_ne_zero h, List.getElem?_cons_succ]

/-- The rest of a sprite does not come round to the row that the sprite starts on. -/
theorem lights_succ_of_eq_zero {rows : List UInt8} {x y : UInt8} {px py : Nat}
    (hlen : rows.length < 32) (h : rowFrom y py = 0) : lights rows x (y + 1) px py = false := by
  rw [lights, rowFrom_succ_of_eq_zero h, List.getElem?_eq_none (by omega)]
  rfl

/-- A sprite flips the pixels it lights, and no others.

**Proof sketch.** Induction on the rows. A pixel on the first row is flipped by that row alone,
since the rest does not come round to it; any other pixel is left to the rest. -/
theorem pixel_drawSprite (f : Frame) (x y : UInt8) {rows : List UInt8} (hlen : rows.length ≤ 32)
    {px py : Nat} (hpx : px < 64) (hpy : py < 32) :
    (f.drawSprite x y rows).2.pixel px py = (f.pixel px py ^^ lights rows x y px py) := by
  induction rows generalizing f y with
  | nil => simp [drawSprite, lights]
  | cons row rows ih =>
    rw [List.length_cons] at hlen
    simp only [drawSprite]
    rw [ih _ _ (by omega), pixel_draw f x y row hpx hpy]
    by_cases h : rowFrom y py = 0
    · rw [lights_succ_of_eq_zero (by omega) h, lights_cons_of_eq_zero h]
      simp [h]
    · rw [lights_cons_of_ne_zero h]
      simp [h]

/-- A sprite hits something exactly if a pixel it lights was lit before the whole drawing.

**Proof sketch.** Induction on the rows. The later rows look at the frame that the first row was
drawn on already; where they light a pixel, the first row left it alone (`pixel_draw`). -/
theorem drawSprite_fst_iff (f : Frame) (x y : UInt8) {rows : List UInt8}
    (hlen : rows.length ≤ 32) :
    (f.drawSprite x y rows).1 = true ↔
      ∃ px < 64, ∃ py < 32, lights rows x y px py = true ∧ f.pixel px py = true := by
  induction rows generalizing f y with
  | nil => simp [drawSprite, lights]
  | cons row rows ih =>
    rw [List.length_cons] at hlen
    simp only [drawSprite, Bool.or_eq_true]
    rw [ih _ _ (by omega), draw_fst_iff]
    constructor
    · rintro (⟨px, hpx, py, hpy, hrow, hbit, hlit⟩ | ⟨px, hpx, py, hpy, hbit, hlit⟩)
      · exact ⟨px, hpx, py, hpy, by rw [lights_cons_of_eq_zero hrow, hbit], hlit⟩
      · have hrow : rowFrom y py ≠ 0 := by
          intro h
          rw [lights_succ_of_eq_zero (by omega) h] at hbit
          contradiction
        rw [pixel_draw f x y row hpx hpy] at hlit
        refine ⟨px, hpx, py, hpy, by rw [lights_cons_of_ne_zero hrow, hbit], ?_⟩
        simpa [hrow] using hlit
    · rintro ⟨px, hpx, py, hpy, hbit, hlit⟩
      by_cases hrow : rowFrom y py = 0
      · rw [lights_cons_of_eq_zero hrow] at hbit
        exact Or.inl ⟨px, hpx, py, hpy, hrow, hbit, hlit⟩
      · rw [lights_cons_of_ne_zero hrow] at hbit
        refine Or.inr ⟨px, hpx, py, hpy, hbit, ?_⟩
        rw [pixel_draw f x y row hpx hpy]
        simpa [hrow] using hlit

end Frame

/-- A screen draws a sprite on its frame and counts the rows; its panel is not asked. -/
theorem Screen.drawSprite_eq {δ : Type} (s : Screen δ) (x y : UInt8) (rows : List UInt8) :
    s.drawSprite x y rows =
      ((s.frame.drawSprite x y rows).1,
        { s with frame := (s.frame.drawSprite x y rows).2, draws := s.draws + rows.length }) := by
  induction rows generalizing s y with
  | nil => rfl
  | cons row rows ih =>
    simp only [Screen.drawSprite, Frame.drawSprite, draw]
    rw [ih]
    simp only [List.length_cons, Prod.mk.injEq, Screen.mk.injEq, true_and, and_true]
    omega

end Chip8
