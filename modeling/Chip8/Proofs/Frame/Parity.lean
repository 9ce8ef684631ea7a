import Chip8.Proofs.Frame.Sprite
import Mathlib.Algebra.Ring.Parity
import Mathlib.Data.List.DropRight

set_option relaxedAutoImplicit false
set_option autoImplicit false

/-!
# What was drawn since the last clearing

A sprite row flips the pixels that it covers, whatever they were, so that a pixel is lit exactly if
it was covered an odd number of times since the frame was last cleared. The order in which the rows
were drawn does not matter for the picture, only for what each of them hits.

## Main definitions

* `Chip8.Frame.Call` — what a frame is asked to do.
* `Chip8.Frame.Call.Covers` — whether a call covers a pixel.
* `Chip8.Frame.replay`, `Chip8.Frame.answers` — the frame after some calls, and their answers.

## Main results

* `Chip8.Frame.pixel_apply` — one call, pixel by pixel.
* `Chip8.Frame.pixel_replay_of_draws` — drawing only, on any frame.
* `Chip8.Frame.pixel_replay_blank` — any calls, on a new frame.
* `Chip8.Frame.replay_perm` — drawings in another order.
* `Chip8.Frame.replay_is_parity` — all of it together.
-/

namespace Chip8

namespace Frame

/-! ## Calls -/

/-- What a frame is asked to do. -/
inductive Call where
  /-- Switch every pixel off. -/
  | clear
  /-- Draw a sprite row with its left edge at `(x, y)`. -/
  | draw (x y row : UInt8)
  deriving DecidableEq, Repr

namespace Call

/-- Whether a call draws. -/
def isDraw : Call → Bool
  | clear => false
  | draw .. => true

/-- Whether a call covers the pixel in column `px` and row `py`: it draws on row `py`, `px` is one
of the eight columns from the left edge on, and the sprite row has the bit for it. -/
def Covers (px py : Nat) : Call → Prop
  | clear => False
  | draw x y row =>
    y.toNat % 32 = py ∧
      ∃ b : Nat, b < 8 ∧ ((px : Int) - x.toNat) % 64 = b ∧ row.toNat.testBit (7 - b) = true

instance (px py : Nat) (call : Call) : Decidable (call.Covers px py) := by
  cases call <;> unfold Covers <;> infer_instance

/-- The pixels covered are those that the sprite row lights. -/
theorem covers_draw_iff {x y row : UInt8} {px py : Nat} (hpx : px < 64) (hpy : py < 32) :
    (draw x y row).Covers px py ↔ rowFrom y py = 0 ∧ spriteBit row (columnFrom x px) = true := by
  have hx := x.toNat_lt
  have hrow : y.toNat % 32 = py ↔ rowFrom y py = 0 := rowIndex_eq_iff hpy
  have hcolumn : ((columnFrom x px : Nat) : Int) = ((px : Int) - x.toNat) % 64 := by
    simp only [columnFrom]
    omega
  rw [Covers, hrow, spriteBit, Bool.and_eq_true, decide_eq_true_eq]
  refine and_congr_right fun _ => ⟨?_, ?_⟩
  · rintro ⟨b, hb, hcol, hbit⟩
    obtain rfl : columnFrom x px = b := by omega
    exact ⟨hb, hbit⟩
  · rintro ⟨hb, hbit⟩
    exact ⟨columnFrom x px, hb, hcolumn.symm, hbit⟩

end Call

/-! ## Replaying calls -/

/-- Do what a call asks for. A drawing answers whether it hit a lit pixel. -/
def apply (f : Frame) : Call → Option Bool × Frame
  | .clear => (none, blank)
  | .draw x y row =>
    let (hit, f) := f.draw x y row
    (some hit, f)

/-- The frame after some calls. -/
def replay (f : Frame) (calls : List Call) : Frame :=
  calls.foldl (fun f call => (f.apply call).2) f

/-- What some calls answer, one after the other. -/
def answers (f : Frame) : List Call → List (Option Bool)
  | [] => []
  | call :: calls => (f.apply call).1 :: (f.apply call).2.answers calls

theorem replay_append (f : Frame) (calls calls' : List Call) :
    f.replay (calls ++ calls') = (f.replay calls).replay calls' :=
  List.foldl_append

theorem replay_concat (f : Frame) (calls : List Call) (call : Call) :
    f.replay (calls ++ [call]) = ((f.replay calls).apply call).2 :=
  replay_append f calls [call]

/-- Every call is answered on the frame that those before it left behind. -/
theorem getElem?_answers (f : Frame) (calls : List Call) (k : Nat) :
    (f.answers calls)[k]? = calls[k]?.map fun call => ((f.replay (calls.take k)).apply call).1 := by
  induction calls generalizing f k with
  | nil => rfl
  | cons call calls ih =>
    cases k with
    | zero => rfl
    | succ k => exact ih (f.apply call).2 k

/-! ## Pixels -/

section Pixel

variable (f : Frame) {px py : Nat}

theorem pixel_blank : blank.pixel px py = false := by
  simp [pixel, blank]

/-- A clearing makes every pixel dark, and a drawing flips those that it covers. -/
theorem pixel_apply (call : Call) (hpx : px < 64) (hpy : py < 32) :
    (f.apply call).2.pixel px py =
      (call.isDraw && (f.pixel px py ^^ decide (call.Covers px py))) := by
  cases call with
  | clear => exact pixel_blank
  | draw x y row =>
    simp only [apply, Call.isDraw, Bool.true_and]
    rw [pixel_draw f x y row hpx hpy, decide_eq_decide.2 (Call.covers_draw_iff hpx hpy),
      Bool.decide_and, Bool.decide_eq_true]

/-- One more call flips the parity if it covers the pixel. -/
theorem odd_countP_concat (calls : List Call) (call : Call) :
    decide (Odd ((calls ++ [call]).countP (Call.Covers px py ·))) =
      (decide (Odd (calls.countP (Call.Covers px py ·))) ^^ decide (call.Covers px py)) := by
  rw [List.countP_append, List.countP_singleton]
  by_cases h : call.Covers px py
  · simp only [h, decide_true, if_true, Nat.odd_add_one, decide_not, Bool.xor_true]
  · simp [h]

/-- Drawings flip a pixel as often as they cover it. -/
theorem pixel_replay_of_draws {calls : List Call} (hdraws : ∀ call ∈ calls, call.isDraw = true)
    (hpx : px < 64) (hpy : py < 32) :
    (f.replay calls).pixel px py =
      (f.pixel px py ^^ decide (Odd (calls.countP (Call.Covers px py ·)))) := by
  induction calls using List.reverseRecOn with
  | nil => simp [replay]
  | append_singleton calls call ih =>
    obtain ⟨hbefore, hcall⟩ : (∀ c ∈ calls, c.isDraw = true) ∧ call.isDraw = true := by
      simpa [or_imp, forall_and] using hdraws
    rw [replay_concat, pixel_apply _ call hpx hpy, hcall, Bool.true_and, ih hbefore,
      odd_countP_concat, Bool.xor_assoc]

/-- A pixel of a new frame is lit after some calls exactly if the drawings after the last clearing
covered it an odd number of times.

**Proof sketch.** Induction on the calls from their end. A clearing leaves no drawings after it and
no pixel lit; a drawing is one more after the same clearing, and flips what it covers. -/
theorem pixel_replay_blank (calls : List Call) (hpx : px < 64) (hpy : py < 32) :
    (blank.replay calls).pixel px py =
      decide (Odd ((calls.rtakeWhile Call.isDraw).countP (Call.Covers px py ·))) := by
  induction calls using List.reverseRecOn with
  | nil => exact pixel_blank
  | append_singleton calls call ih =>
    rw [replay_concat, pixel_apply _ call hpx hpy, ih]
    cases hcall : call.isDraw with
    | false =>
      rw [List.rtakeWhile_concat_neg _ _ _ (by simp [hcall])]
      simp
    | true =>
      rw [List.rtakeWhile_concat_pos _ _ _ hcall, odd_countP_concat, Bool.true_and]

end Pixel

/-! ## Laws of drawing -/

/-- A drawing hits something exactly if a pixel that it covers was lit. -/
theorem draw_fst_iff_covers (f : Frame) (x y row : UInt8) :
    (f.draw x y row).1 = true ↔
      ∃ px < 64, ∃ py < 32, (Call.draw x y row).Covers px py ∧ f.pixel px py = true := by
  rw [draw_fst_iff]
  refine exists_congr fun px => and_congr_right fun hpx => exists_congr fun py =>
    and_congr_right fun hpy => ?_
  rw [Call.covers_draw_iff hpx hpy, and_assoc]

/-- The order of drawings does not matter for the picture. -/
theorem replay_perm (f : Frame) {draws draws' : List Call}
    (hdraws : ∀ call ∈ draws, call.isDraw = true) (hperm : draws.Perm draws') :
    f.replay draws' = f.replay draws := by
  refine ext_pixel fun px hpx py hpy => ?_
  have hdraws' : ∀ call ∈ draws', call.isDraw = true := fun call h =>
    hdraws call (hperm.mem_iff.2 h)
  rw [pixel_replay_of_draws f hdraws hpx hpy, pixel_replay_of_draws f hdraws' hpx hpy,
    hperm.countP_eq]

/-- Drawing a sprite row again takes it off. -/
theorem draw_draw (f : Frame) (x y row : UInt8) : ((f.draw x y row).2.draw x y row).2 = f := by
  refine ext_pixel fun px hpx py hpy => ?_
  rw [pixel_draw _ x y row hpx hpy, pixel_draw f x y row hpx hpy, Bool.xor_assoc, Bool.xor_self,
    Bool.xor_false]

/-- Columns wrap around. -/
theorem draw_add_width (f : Frame) (x y row : UInt8) : f.draw (x + 64) y row = f.draw x y row := by
  have hsum : (x + 64).toNat = (x.toNat + 64) % 256 := UInt8.toNat_add x 64
  have hx : (x + 64).toNat % 64 = x.toNat % 64 := by omega
  simp only [draw, cover, hx]

/-- Rows wrap around. -/
theorem draw_add_height (f : Frame) (x y row : UInt8) :
    f.draw x (y + 32) row = f.draw x y row := by
  have hsum : (y + 32).toNat = (y.toNat + 32) % 256 := UInt8.toNat_add y 32
  have hy : rowIndex (y + 32).toNat = rowIndex y.toNat := Fin.ext (by simp only [rowIndex]; omega)
  simp only [draw, hy]

/-! ## The picture -/

/-- **The picture is the parity of what was drawn.** Give a new frame any calls. A pixel is lit in
the end exactly if the drawings after the last clearing covered it an odd number of times. Each
drawing tells whether a pixel that it covers was lit on the frame that the calls before it left
behind. The picture stays the same if drawings with no clearing among them change places; drawing
a sprite row on any frame twice changes nothing, and 64 columns or 32 rows further is the same
place. -/
theorem replay_is_parity (calls : List Call) :
    (∀ px < 64, ∀ py < 32, (blank.replay calls).pixel px py = true ↔
      Odd ((calls.rtakeWhile Call.isDraw).countP (Call.Covers px py ·))) ∧
    (∀ k x y row, calls[k]? = some (.draw x y row) →
      ∃ hit, (blank.answers calls)[k]? = some (some hit) ∧
        (hit = true ↔ ∃ px < 64, ∃ py < 32, (Call.draw x y row).Covers px py ∧
          (blank.replay (calls.take k)).pixel px py = true)) ∧
    (∀ before draws draws' after, calls = before ++ draws ++ after →
      (∀ call ∈ draws, call.isDraw = true) → draws.Perm draws' →
        blank.replay (before ++ draws' ++ after) = blank.replay calls) ∧
    ∀ (f : Frame) (x y row : UInt8), ((f.draw x y row).2.draw x y row).2 = f ∧
      f.draw (x + 64) y row = f.draw x y row ∧ f.draw x (y + 32) row = f.draw x y row := by
  refine ⟨fun px hpx py hpy => ?_, fun k x y row hcall => ?_, ?_, fun f x y row => ?_⟩
  · rw [pixel_replay_blank calls hpx hpy, decide_eq_true_eq]
  · refine ⟨((blank.replay (calls.take k)).draw x y row).1, ?_, draw_fst_iff_covers _ x y row⟩
    rw [getElem?_answers, hcall]
    rfl
  · rintro before draws draws' after rfl hdraws hperm
    simp only [replay_append, replay_perm _ hdraws hperm]
  · exact ⟨draw_draw f x y row, draw_add_width f x y row, draw_add_height f x y row⟩

/-- Two sprite rows that overlap across the corner after a clearing: where both are, the pixel is
dark, the second one hits the first, and they may change places. -/
theorem replay_is_parity_across_corner :
    let calls : List Call := [.draw 62 31 0xFF, .clear, .draw 62 31 0xF0, .draw 126 63 0xC0]
    (blank.replay calls).pixel 62 31 = false ∧ (blank.replay calls).pixel 0 31 = true ∧
      (blank.answers calls)[3]? = some (some true) ∧
      blank.replay [.draw 62 31 0xFF, .clear, .draw 126 63 0xC0, .draw 62 31 0xF0] =
        blank.replay calls := by
  intro calls
  obtain ⟨hpixel, hanswer, hperm, -⟩ := replay_is_parity calls
  refine ⟨?_, ?_, ?_, ?_⟩
  · rw [Bool.eq_false_iff, Ne, hpixel 62 (by decide) 31 (by decide)]
    decide
  · rw [hpixel 0 (by decide) 31 (by decide)]
    decide
  · obtain ⟨hit, hthird, hhit⟩ := hanswer 3 126 63 0xC0 rfl
    have hlit : (blank.replay (calls.take 3)).pixel 62 31 = true := by decide
    rw [hthird, hhit.2 ⟨62, by decide, 31, by decide, by decide, hlit⟩]
  · exact hperm [.draw 62 31 0xFF, .clear] [.draw 62 31 0xF0, .draw 126 63 0xC0] _ [] rfl
      (by decide) (.swap ..)

end Frame

end Chip8
