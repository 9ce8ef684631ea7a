import Chip8.Proofs.Bare.Checked
import Chip8.Proofs.Frame.Sprite

set_option relaxedAutoImplicit false
set_option autoImplicit false

/-!
# Drawing, bit by bit

A sprite row is drawn by a loop over its bits: each one that is set flips a pixel, whose column
wraps around, by a mask that is shifted there. All rows, columns and shifts that the loop comes to
are in range, and its result is the one of drawing the row at once.

## Main definitions

* `Chip8.Checked.pixel` — look at a pixel.
* `Chip8.Checked.flip` — one round of the loop.
* `Chip8.Checked.draw` — the loop.
* `Chip8.Checked.drawSprite` — the rows of a sprite.

## Main results

* `Chip8.Checked.pixel_eq`, `Chip8.Checked.draw_eq`, `Chip8.Checked.drawSprite_eq` — no fault, and
  the same result.
-/

namespace Chip8

namespace Checked

open Chip8.Frame (columnFrom spriteBit ne_zero_iff_getMsbD getMsbD_cover)

/-! ## The loop -/

/-- The word in which the bit of a column is set. -/
def mask (column : Nat) : Checked (BitVec 64) := do
  let last ← sub Frame.width 1
  let amount ← sub last column
  shiftLeft 1 amount

/-- Look at a pixel; columns and rows wrap around. -/
def pixel (f : Frame) (x y : Nat) : Checked Bool := do
  let row ← Checked.get f.rows (y % Frame.height)
  let probe ← mask (x % Frame.width)
  return row &&& probe != 0

/-- Flip the pixel of a bit of a sprite row if the bit is set. The state is whether a lit pixel was
hit, and the row of the frame. -/
def flip (x sprite : UInt8) (state : Bool × BitVec 64) (bit : Nat) :
    Checked (Bool × BitVec 64) := do
  let probe ← shiftRight (0x80 : BitVec 8) bit
  if sprite.toBitVec &&& probe = 0 then
    return state
  let place ← add 64 x.toNat bit
  let probe ← mask (place % Frame.width)
  return (state.1 || state.2 &&& probe != 0, state.2 ^^^ probe)

/-- Flip the pixels of a sprite row one after the other; tells whether one of them was lit. -/
def draw (f : Frame) (x y sprite : UInt8) : Checked (Bool × Frame) := do
  let k := y.toNat % Frame.height
  let row ← Checked.get f.rows k
  let (hit, row) ← (List.range 8).foldlM (flip x sprite) (false, row)
  let rows ← Checked.set f.rows k row
  return (hit, ⟨rows⟩)

/-- Draw the rows of a sprite from `(x, y)` down; tells whether one of them hit a lit pixel. -/
def drawSprite {δ : Type} (s : Screen δ) (x y : UInt8) : List UInt8 → Checked (Bool × Screen δ)
  | [] => return (false, s)
  | row :: rows => do
    let (hit, frame) ← draw s.frame x y row
    let (later, s) ← drawSprite { s with frame, draws := s.draws + 1 } x (y + 1) rows
    return (hit || later, s)

/-! ## Masks -/

/-- Only the bit of its column is set in a mask. -/
theorem getMsbD_one_shiftLeft {column : Nat} (hcolumn : column < 64) (px : Nat) :
    ((1 : BitVec 64) <<< (63 - column)).getMsbD px = decide (px = column) := by
  have hone (k : Nat) : (1 : BitVec 64).getMsbD k = decide (k = 63) := by
    simp [show (1 : BitVec 64) = 1#64 from rfl, BitVec.getMsbD_one]
  rw [BitVec.getMsbD_shiftLeft, hone, decide_eq_decide]
  omega

theorem mask_of_lt {column : Nat} (h : column < 64) :
    mask column = .ok ((1 : BitVec 64) <<< (63 - column)) := by
  have hamount : 63 - column < 64 := by omega
  rw [mask, sub_of_le (by decide), ok_bind, sub_of_le (by simp only [Frame.width]; omega), ok_bind]
  exact shiftLeft_of_lt 1 hamount

/-- A mask asks for one pixel of a row. -/
theorem and_one_shiftLeft_ne_zero (row : BitVec 64) {column : Nat} (h : column < 64) :
    (row &&& (1 : BitVec 64) <<< (63 - column) != 0) = row.getMsbD column := by
  rw [Bool.eq_iff_iff, bne_iff_ne, ne_zero_iff_getMsbD]
  constructor
  · rintro ⟨px, hpx, hbit⟩
    rw [BitVec.getMsbD_and, getMsbD_one_shiftLeft h px, Bool.and_eq_true, decide_eq_true_eq]
      at hbit
    exact hbit.2 ▸ hbit.1
  · intro hbit
    refine ⟨column, h, ?_⟩
    rw [BitVec.getMsbD_and, getMsbD_one_shiftLeft h, hbit]
    simp

/-- Looking at a pixel is always possible. -/
theorem pixel_eq (f : Frame) (x y : Nat) : pixel f x y = .ok (f.pixel x y) := by
  have hy : y % Frame.height < 32 := Nat.mod_lt _ (by decide)
  have hx : x % Frame.width < 64 := Nat.mod_lt _ (by decide)
  rw [pixel, get_of_lt f.rows hy, ok_bind, mask_of_lt hx, ok_bind, and_one_shiftLeft_ne_zero _ hx]
  rfl

/-! ## A round -/

/-- The bit that a round looks at. -/
theorem and_shiftRight_eq_zero (sprite : UInt8) {bit : Nat} (h : bit < 8) :
    sprite.toBitVec &&& (0x80 : BitVec 8) >>> bit = 0 ↔ spriteBit sprite bit = false := by
  have hprobe : ∀ b < 8, (0x80 : BitVec 8) >>> b = BitVec.twoPow 8 (7 - b) := by decide
  have hne : ∀ b < 8, BitVec.twoPow 8 (7 - b) ≠ 0#8 := by decide
  have hbit : sprite.toBitVec.getLsbD (7 - bit) = spriteBit sprite bit := by
    simp [spriteBit, h, BitVec.getLsbD]
  rw [hprobe bit h, BitVec.and_twoPow, hbit]
  cases spriteBit sprite bit with
  | false => simp
  | true => simpa using hne bit h

/-- A round whose bit is not set does nothing. -/
theorem flip_of_dark {x sprite : UInt8} {bit : Nat} (hbit : bit < 8)
    (h : spriteBit sprite bit = false) (state : Bool × BitVec 64) :
    flip x sprite state bit = .ok state := by
  rw [flip, shiftRight_of_lt _ hbit, ok_bind, if_pos ((and_shiftRight_eq_zero sprite hbit).2 h)]
  rfl

/-- A round whose bit is set flips the pixel of its column. -/
theorem flip_of_lit {x sprite : UInt8} {bit : Nat} (hbit : bit < 8)
    (h : spriteBit sprite bit = true) (hit : Bool) (row : BitVec 64) :
    flip x sprite (hit, row) bit =
      .ok (hit || row.getMsbD ((x.toNat + bit) % 64),
        row ^^^ (1 : BitVec 64) <<< (63 - (x.toNat + bit) % 64)) := by
  have hset : ¬ sprite.toBitVec &&& (0x80 : BitVec 8) >>> bit = 0 := by
    rw [and_shiftRight_eq_zero sprite hbit, h]
    exact nofun
  have hplace : x.toNat + bit < 2 ^ 64 := by have := x.toNat_lt; omega
  have hcolumn : (x.toNat + bit) % Frame.width < 64 := Nat.mod_lt _ (by decide)
  rw [flip, shiftRight_of_lt _ hbit, ok_bind, if_neg hset, add_of_lt hplace, ok_bind,
    mask_of_lt hcolumn, ok_bind, and_one_shiftLeft_ne_zero _ hcolumn]
  rfl

/-! ## The whole loop -/

/-- The column of a bit is the one column that is as far to the right. -/
theorem columnFrom_eq_iff {x : UInt8} {px bit : Nat} (hpx : px < 64) (hbit : bit < 64) :
    columnFrom x px = bit ↔ px = (x.toNat + bit) % 64 := by
  have := x.toNat_lt
  simp only [columnFrom]
  omega

/-- Whether the pixel in a column is flipped by one of the first `k` bits of a sprite row. -/
def covered (x sprite : UInt8) (k px : Nat) : Bool :=
  decide (columnFrom x px < k) && spriteBit sprite (columnFrom x px)

/-- A bit that is not set flips nothing. -/
theorem covered_succ_of_dark {x sprite : UInt8} {k : Nat} (h : spriteBit sprite k = false)
    (px : Nat) : covered x sprite (k + 1) px = covered x sprite k px := by
  by_cases heq : columnFrom x px = k
  · simp [covered, heq, h]
  · have hlt : columnFrom x px < k + 1 ↔ columnFrom x px < k := by omega
    simp only [covered, hlt]

/-- A bit that is set flips the pixel in its column. -/
theorem covered_succ_of_lit {x sprite : UInt8} {k px : Nat} (hk : k < 64) (hpx : px < 64)
    (h : spriteBit sprite k = true) :
    covered x sprite (k + 1) px =
      (covered x sprite k px || decide (px = (x.toNat + k) % 64)) := by
  simp only [← columnFrom_eq_iff hpx hk]
  by_cases heq : columnFrom x px = k
  · simp [covered, heq, h]
  · have hlt : columnFrom x px < k + 1 ↔ columnFrom x px < k := by omega
    simp only [covered, hlt, heq, decide_false, Bool.or_false]

/-- No bit before flips the pixel in the column of a bit. -/
theorem covered_column {x sprite : UInt8} {k : Nat} (hk : k < 64) :
    covered x sprite k ((x.toNat + k) % 64) = false := by
  have heq : columnFrom x ((x.toNat + k) % 64) = k :=
    (columnFrom_eq_iff (Nat.mod_lt _ (by decide)) hk).2 rfl
  simp [covered, heq]

/-- After `k` rounds the pixels of the first `k` bits are flipped, and it is known whether one of
them was lit.

**Proof sketch.** Induction on the rounds. A round flips the pixel of its bit alone, and no round
before it came to that pixel, so that the loop finds it as it was at the start. -/
theorem foldlM_flip (x sprite : UInt8) (row : BitVec 64) {k : Nat} (hk : k ≤ 8) :
    ∃ hit row', (List.range k).foldlM (flip x sprite) (false, row) = .ok (hit, row') ∧
      (∀ px < 64, row'.getMsbD px = (row.getMsbD px ^^ covered x sprite k px)) ∧
      (hit = true ↔ ∃ px < 64, covered x sprite k px = true ∧ row.getMsbD px = true) := by
  induction k with
  | zero => exact ⟨false, row, rfl, by simp [covered], by simp [covered]⟩
  | succ k ih =>
    obtain ⟨hit, row', hrun, hrow, hhit⟩ := ih (by omega)
    simp only [List.range_succ, List.foldlM_append, hrun, ok_bind, List.foldlM_cons,
      List.foldlM_nil]
    cases hbit : spriteBit sprite k with
    | false =>
      rw [flip_of_dark (by omega) hbit]
      simp only [covered_succ_of_dark hbit]
      exact ⟨hit, row', rfl, hrow, hhit⟩
    | true =>
      have hcolumn : (x.toNat + k) % 64 < 64 := Nat.mod_lt _ (by decide)
      have hfound : row'.getMsbD ((x.toNat + k) % 64) = row.getMsbD ((x.toNat + k) % 64) := by
        rw [hrow _ hcolumn, covered_column (by omega), Bool.xor_false]
      have hcovered {px : Nat} (hpx : px < 64) :=
        covered_succ_of_lit (x := x) (by omega : k < 64) hpx hbit
      rw [flip_of_lit (by omega) hbit, hfound]
      refine ⟨_, _, rfl, fun px hpx => ?_, ?_⟩
      · rw [BitVec.getMsbD_xor, getMsbD_one_shiftLeft hcolumn, hrow px hpx, hcovered hpx]
        by_cases heq : px = (x.toNat + k) % 64
        · simp [heq, covered_column (show k < 64 by omega)]
        · simp [heq]
      · rw [Bool.or_eq_true, hhit]
        constructor
        · rintro (⟨px, hpx, hlit, hset⟩ | hset)
          · exact ⟨px, hpx, by simp [hcovered hpx, hlit], hset⟩
          · exact ⟨_, hcolumn, by simp [hcovered hcolumn], hset⟩
        · rintro ⟨px, hpx, hlit, hset⟩
          rw [hcovered hpx, Bool.or_eq_true, decide_eq_true_eq] at hlit
          rcases hlit with hlit | rfl
          · exact Or.inl ⟨px, hpx, hlit, hset⟩
          · exact Or.inr hset

/-- All eight rounds cover what a sprite row covers. -/
theorem covered_eight (x sprite : UInt8) {px : Nat} (hpx : px < 64) :
    covered x sprite 8 px = (Frame.cover x sprite).getMsbD px := by
  rw [getMsbD_cover x sprite hpx]
  simp [covered, spriteBit]

/-- Drawing a sprite row is always possible, and the loop draws it as if at once. -/
theorem draw_eq (f : Frame) (x y sprite : UInt8) : draw f x y sprite = .ok (f.draw x y sprite) := by
  have hy : y.toNat % Frame.height < 32 := Nat.mod_lt _ (by decide)
  obtain ⟨hit, row', hrun, hrow, hhit⟩ :=
    foldlM_flip x sprite (f.rows[y.toNat % Frame.height]) (Nat.le_refl 8)
  have hrow' : row' = f.rows[y.toNat % Frame.height] ^^^ Frame.cover x sprite := by
    refine BitVec.eq_of_getMsbD_eq fun px hpx => ?_
    rw [hrow px hpx, covered_eight x sprite hpx, BitVec.getMsbD_xor]
  have hhit' : hit = (f.rows[y.toNat % Frame.height] &&& Frame.cover x sprite != 0) := by
    rw [Bool.eq_iff_iff, hhit, bne_iff_ne, ne_zero_iff_getMsbD]
    refine exists_congr fun px => and_congr_right fun hpx => ?_
    rw [covered_eight x sprite hpx, BitVec.getMsbD_and, Bool.and_eq_true, and_comm]
  rw [draw, get_of_lt f.rows hy, ok_bind, hrun, ok_bind]
  dsimp only
  rw [set_of_lt f.rows hy, ok_bind, hrow', hhit']
  rfl

/-- Drawing a sprite is always possible. -/
theorem drawSprite_eq {δ : Type} (s : Screen δ) (x y : UInt8) (rows : List UInt8) :
    drawSprite s x y rows = .ok (s.drawSprite x y rows) := by
  induction rows generalizing s y with
  | nil => rfl
  | cons row rows ih =>
    rw [drawSprite, draw_eq, ok_bind]
    dsimp only
    rw [ih]
    rfl

end Checked

end Chip8
