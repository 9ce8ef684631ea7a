import Chip8.Frame.Plane
import Mathlib.Data.List.Nodup
import Mathlib.Data.List.Perm.Basic
import Mathlib.Data.List.Range

set_option relaxedAutoImplicit false
set_option autoImplicit false

/-!
# The planes of a frame

The listing of a plane goes through the pixels from the last one to the first, and each call goes on
where the one before it found a point. It ends after as many calls as there are points, and all
later calls find nothing either. What the calls find are the points of the plane, each of them once,
and the two planes share the points of the canvas out among them.

## Main definitions

* `Chip8.Frame.pointOf` — the point of a pixel with a number.
* `Chip8.Frame.planeBelow` — the points of a plane that a listing has still to come to.

## Main results

* `Chip8.Frame.nextPoint_fst`, `Chip8.Frame.planeBelow_nextPoint` — a call takes the first point off
  those that are still to come.
* `Chip8.Frame.pointAt_eq` — the calls answer with the points of the plane, and then with nothing.
* `Chip8.Frame.mem_plane_iff`, `Chip8.Frame.nodup_plane` — the points of a plane.
* `Chip8.Frame.mem_planes_iff`, `Chip8.Frame.nodup_planes` — the points of both.
* `Chip8.Frame.planes_partition` — the two planes share the points out among them.
-/

namespace Chip8.Frame

variable (f : Frame) (lit : Bool)

/-! ## Calls -/

/-- The point of the pixel with a number. -/
def pointOf (k : Nat) : Int × Int :=
  (((k % width : Nat) : Int), -((k / width : Nat) : Int))

/-- The points of a plane among the first `k` pixels, from the last pixel to the first. -/
def planeBelow (k : Nat) : List (Int × Int) :=
  ((List.range k).reverse.filter fun k => f.pixel (k % width) (k / width) == lit).map pointOf

theorem planeBelow_all : f.planeBelow lit (width * height) = f.plane lit := rfl

theorem planeBelow_succ (k : Nat) :
    f.planeBelow lit (k + 1) = if f.pixel (k % width) (k / width) == lit then
      pointOf k :: f.planeBelow lit k else f.planeBelow lit k := by
  simp only [planeBelow, List.range_succ, List.reverse_append, List.reverse_singleton,
    List.singleton_append, List.filter_cons]
  split
  · rfl
  · rfl

/-- A call finds the first of the points that are still to come. -/
theorem nextPoint_fst (left : Nat) :
    (f.nextPoint lit left).1 = (f.planeBelow lit left).head? := by
  induction left with
  | zero => rfl
  | succ k ih =>
    rw [nextPoint, planeBelow_succ]
    split
    · rfl
    · exact ih

/-- The other points are still to come after it. -/
theorem planeBelow_nextPoint (left : Nat) :
    f.planeBelow lit (f.nextPoint lit left).2 = (f.planeBelow lit left).tail := by
  induction left with
  | zero => rfl
  | succ k ih =>
    rw [nextPoint, planeBelow_succ]
    split
    · rfl
    · exact ih

/-- After some calls, that many points have come. -/
theorem planeBelow_leftAfter (calls : Nat) :
    f.planeBelow lit (f.leftAfter lit calls) = (f.plane lit).drop calls := by
  induction calls with
  | zero => rfl
  | succ calls ih => rw [leftAfter, planeBelow_nextPoint, ih, List.tail_drop]

/-- The calls answer with the points of the plane, one after another, and then with nothing. -/
theorem pointAt_eq (calls : Nat) : f.pointAt lit calls = (f.plane lit)[calls]? := by
  rw [pointAt, nextPoint_fst, planeBelow_leftAfter, List.head?_drop]

/-! ## Points -/

/-- Different pixels have different points. -/
theorem pointOf_injective : Function.Injective pointOf := by
  intro j k h
  simp only [pointOf, width, Prod.mk.injEq] at h
  omega

/-- A point comes up once at most. -/
theorem nodup_plane : (f.plane lit).Nodup := by
  rw [← planeBelow_all]
  exact ((List.nodup_reverse.2 List.nodup_range).filter _).map pointOf_injective

/-- The points of a plane are those of its pixels. -/
theorem mem_plane_iff {p : Int × Int} :
    p ∈ f.plane lit ↔
      ∃ x < width, ∃ y < height, f.pixel x y = lit ∧ p = ((x : Int), -(y : Int)) := by
  simp only [← planeBelow_all, planeBelow, List.mem_map, List.mem_filter, List.mem_reverse,
    List.mem_range, beq_iff_eq]
  constructor
  · rintro ⟨k, ⟨hk, hlit⟩, rfl⟩
    simp only [width, height] at hk ⊢
    exact ⟨k % 64, by omega, k / 64, by omega, hlit, rfl⟩
  · rintro ⟨x, hx, y, hy, hlit, rfl⟩
    simp only [width, height] at hx hy
    have hcolumn : (64 * y + x) % 64 = x := by omega
    have hrow : (64 * y + x) / 64 = y := by omega
    refine ⟨64 * y + x, ⟨?_, ?_⟩, ?_⟩
    · simp only [width, height]
      omega
    · simpa only [width, hcolumn, hrow] using hlit
    · simp only [pointOf, width, hcolumn, hrow]

/-- The point of a pixel is in the plane of pixels like it. -/
theorem mem_plane_pixel_iff {x y : Nat} (hx : x < width) (hy : y < height) :
    ((x : Int), -(y : Int)) ∈ f.plane lit ↔ f.pixel x y = lit := by
  rw [mem_plane_iff]
  constructor
  · rintro ⟨x', -, y', -, hlit, hpoint⟩
    obtain ⟨rfl, rfl⟩ : x = x' ∧ y = y' := by
      simp only [Prod.mk.injEq] at hpoint
      omega
    exact hlit
  · intro hlit
    exact ⟨x, hx, y, hy, hlit, rfl⟩

/-- There are not more points than pixels. -/
theorem length_plane_le : (f.plane lit).length ≤ width * height := by
  rw [← planeBelow_all, planeBelow, List.length_map]
  refine (List.length_filter_le _ _).trans ?_
  rw [List.length_reverse, List.length_range]

/-! ## Both planes -/

/-- No point comes up twice, and none in both planes. -/
theorem nodup_planes : (f.plane true ++ f.plane false).Nodup := by
  refine List.nodup_append.2 ⟨f.nodup_plane true, f.nodup_plane false, fun p hlit q hdark => ?_⟩
  rintro rfl
  obtain ⟨x, hx, y, hy, hpixel, rfl⟩ := (f.mem_plane_iff true).1 hlit
  rw [mem_plane_pixel_iff f false hx hy, hpixel] at hdark
  cases hdark

/-- The points of both planes are those of all pixels. -/
theorem mem_planes_iff {p : Int × Int} :
    p ∈ f.plane true ++ f.plane false ↔
      ∃ x y : Nat, x < width ∧ y < height ∧ p = ((x : Int), -(y : Int)) := by
  rw [List.mem_append, mem_plane_iff, mem_plane_iff]
  constructor
  · rintro (⟨x, hx, y, hy, -, hp⟩ | ⟨x, hx, y, hy, -, hp⟩)
    · exact ⟨x, y, hx, hy, hp⟩
    · exact ⟨x, y, hx, hy, hp⟩
  · rintro ⟨x, y, hx, hy, hp⟩
    cases hpixel : f.pixel x y with
    | true => exact Or.inl ⟨x, hx, y, hy, hpixel, hp⟩
    | false => exact Or.inr ⟨x, hx, y, hy, hpixel, hp⟩

/-- **The two planes share the points of the canvas out among them.** The calls of a listing answer
with the points of its plane one after another, and then with nothing for good, which they do after
2048 points at the latest. No point comes up twice. Both planes together have the point of each
pixel exactly once, and no others; the point of a pixel is in the first one exactly if the pixel is
lit; and every point is within the bounds of the canvas. -/
theorem planes_partition :
    (∀ lit calls, f.pointAt lit calls = (f.plane lit)[calls]?) ∧
    (∀ lit, ∃ ends ≤ 2048, ∀ calls, f.pointAt lit calls = none ↔ ends ≤ calls) ∧
    (∀ lit, (f.plane lit).Nodup) ∧
    (∀ x y : Nat, x < 64 → y < 32 →
      (f.plane true ++ f.plane false).count ((x : Int), -(y : Int)) = 1) ∧
    (∀ p ∈ f.plane true ++ f.plane false,
      ∃ x y : Nat, x < 64 ∧ y < 32 ∧ p = ((x : Int), -(y : Int))) ∧
    (∀ x y : Nat, x < 64 → y < 32 →
      (((x : Int), -(y : Int)) ∈ f.plane true ↔ f.pixel x y = true)) ∧
    ∀ lit, ∀ p ∈ f.plane lit,
      (horizontalBounds.1 ≤ p.1 ∧ p.1 ≤ horizontalBounds.2) ∧
        verticalBounds.1 ≤ p.2 ∧ p.2 ≤ verticalBounds.2 := by
  refine ⟨f.pointAt_eq, fun lit => ⟨_, f.length_plane_le lit, fun calls => ?_⟩, f.nodup_plane,
    fun x y hx hy => ?_, fun p hp => f.mem_planes_iff.1 hp,
    fun x y hx hy => mem_plane_pixel_iff f true hx hy, fun lit p hp => ?_⟩
  · rw [pointAt_eq, List.getElem?_eq_none_iff]
  · exact List.count_eq_one_of_mem f.nodup_planes (f.mem_planes_iff.2 ⟨x, y, hx, hy, rfl⟩)
  · obtain ⟨x, hx, y, hy, -, rfl⟩ := (f.mem_plane_iff lit).1 hp
    simp only [horizontalBounds, verticalBounds, width, height] at hx hy ⊢
    omega

/-- Two pixels of the last row, across the edge: they are found in the first two calls, the second
of which goes past those between them. The first pixel of all is dark. -/
theorem planes_partition_across_edge :
    let f := (blank.draw 63 31 0xC0).2
    f.pointAt true 0 = some (63, -31) ∧ f.pointAt true 1 = some (0, -31) ∧
      ((63 : Int), (-31 : Int)) ∈ f.plane true ∧
      (f.plane true ++ f.plane false).count (0, 0) = 1 ∧
      ((0 : Int), (0 : Int)) ∉ f.plane true ∧
      ∃ x y : Nat, x < 64 ∧ y < 32 ∧ ((63 : Int), (-31 : Int)) = ((x : Int), -(y : Int)) := by
  intro f
  obtain ⟨-, -, -, honce, hpoints, hlit, -⟩ := planes_partition f
  have hcorner : ((63 : Int), (-31 : Int)) ∈ f.plane true :=
    (hlit 63 31 (by decide) (by decide)).2 (by decide)
  refine ⟨by decide +kernel, by decide +kernel, hcorner,
    honce 0 0 (by decide) (by decide), ?_, hpoints _ (List.mem_append_left _ hcorner)⟩
  intro hfirst
  exact absurd ((hlit 0 0 (by decide) (by decide)).1 hfirst) (by decide)

end Chip8.Frame
