import Chip8.Sink

set_option relaxedAutoImplicit false
set_option autoImplicit false

/-!
# What a sink holds

A sink takes a text as far as there is room for it. Whether a text fits, and what the sink holds
after it, depends only on the bytes of all that was written: two texts one after another are one
text, and so are the pieces of a text.

## Main definitions

* `Chip8.Sink.Fits`, `Chip8.Sink.Wrote` — a text fits into a sink, and was written to it as far as
  it fits.

## Main results

* `Chip8.Sink.Wrote.trans` — texts are written one after another.
* `Chip8.Sink.Wrote.fits_iff_of_ne_nil` — whether there is room for one more.
* `Chip8.Sink.write_fst_of_fits`, `Chip8.Sink.write_fst_of_not_fits` — whether a write succeeds.
-/

namespace Chip8

/-- A text with something in it has bytes. -/
theorem Utf8.encode_ne_nil {text : List Char} (h : text ≠ []) : encode text ≠ [] := by
  obtain ⟨c, text, rfl⟩ := List.exists_cons_of_ne_nil h
  exact List.append_ne_nil_of_left_ne_nil String.utf8EncodeChar_ne_nil _

namespace Sink

variable {s s' s'' : Sink} {text text' : List Char} {pieces : List (List Char)}

/-- There is room for all of the text. -/
def Fits (s : Sink) (text : List Char) : Prop :=
  s.room (Utf8.encode text).length = (Utf8.encode text).length

/-- The text was written to the first sink as far as there was room for it, which gave the second
one. -/
structure Wrote (s : Sink) (text : List Char) (s' : Sink) : Prop where
  /-- The sink can hold as much as before. -/
  capacity : s'.capacity = s.capacity
  /-- A write that does not fit fails as before. -/
  refusal : s'.refusal = s.refusal
  /-- The sink took the bytes for which it had room. -/
  taken : s'.taken.toList =
    s.taken.toList ++ (Utf8.encode text).take (s.room (Utf8.encode text).length)

instance : Decidable (s.Fits text) :=
  inferInstanceAs (Decidable (_ = _))

theorem room_le (s : Sink) (len : Nat) : s.room len ≤ len := by
  unfold room
  split
  · exact Nat.le_refl len
  · exact Nat.min_le_left ..

theorem fits_nil (s : Sink) : s.Fits [] :=
  Nat.le_zero.1 (s.room_le 0)

theorem Wrote.refl (s : Sink) : s.Wrote [] s :=
  ⟨rfl, rfl, by simp [Utf8.encode]⟩

theorem Wrote.size (h : s.Wrote text s') :
    s'.taken.size = s.taken.size + s.room (Utf8.encode text).length := by
  have hlength := congrArg List.length h.taken
  simpa [Nat.min_eq_left (s.room_le _)] using hlength

/-- Two texts written one after another are one text. -/
theorem Wrote.trans (h : s.Wrote text s') (h' : s'.Wrote text' s'') :
    s.Wrote (text ++ text') s'' := by
  have hsize := h.size
  refine ⟨h'.capacity.trans h.capacity, h'.refusal.trans h.refusal, ?_⟩
  rw [h'.taken, h.taken, List.append_assoc, Utf8.encode_append, List.length_append,
    List.take_append]
  congr 2
  · rw [List.take_eq_take_iff]
    simp only [room]
    split <;> omega
  · simp only [room, h.capacity] at hsize ⊢
    split at hsize
    · congr 1
      omega
    · congr 1
      omega

/-- After a text that fits, another one fits if both do. -/
theorem Wrote.fits_iff (h : s.Wrote text s') (hfits : s.Fits text) :
    s'.Fits text' ↔ s.Fits (text ++ text') := by
  have hsize := h.size
  simp only [Fits, Utf8.encode_append, List.length_append] at hfits ⊢
  simp only [room, h.capacity] at hfits hsize ⊢
  cases hcapacity : s.capacity with
  | none => simp
  | some capacity =>
    simp only [hcapacity] at hfits hsize ⊢
    omega

/-- What fits with more after it fits. -/
theorem Fits.of_append (h : s.Fits (text ++ text')) : s.Fits text := by
  simp only [Fits, Utf8.encode_append, List.length_append, room] at h ⊢
  split at h <;> omega

/-- After any text, another one with something in it fits if both do. A text that does not fit
leaves no room for it. -/
theorem Wrote.fits_iff_of_ne_nil (h : s.Wrote text s') (hne : text' ≠ []) :
    s'.Fits text' ↔ s.Fits (text ++ text') := by
  by_cases hfits : s.Fits text
  · exact h.fits_iff hfits
  · refine iff_of_false (fun hfits' => ?_) fun hboth => hfits hboth.of_append
    have hsize := h.size
    have hpos : 0 < (Utf8.encode text').length :=
      List.length_pos_iff.2 (Utf8.encode_ne_nil hne)
    simp only [Fits, room, h.capacity] at hfits hfits' hsize
    cases hcapacity : s.capacity with
    | none => simp [hcapacity] at hfits
    | some capacity =>
      simp only [hcapacity] at hfits hfits' hsize
      omega

/-- Everything fits if there is no limit. -/
theorem fits_of_capacity_eq_none (h : s.capacity = none) (text : List Char) : s.Fits text := by
  simp only [Fits, room, h]

section Limit

variable {room : Nat} (h : s.capacity = some (s.taken.size + room))

include h

theorem room_of_capacity (len : Nat) : s.room len = min len room := by
  simp only [Sink.room, h, Nat.add_sub_cancel_left]

theorem fits_iff_le : s.Fits text ↔ (Utf8.encode text).length ≤ room := by
  rw [Fits, room_of_capacity h]
  omega

/-- The sink takes as many bytes of a text as it has room for. -/
theorem Wrote.taken_of_capacity (hwrote : s.Wrote text s') :
    s'.taken.toList = s.taken.toList ++ (Utf8.encode text).take room := by
  rw [hwrote.taken, room_of_capacity h, List.append_cancel_left_eq, List.take_eq_take_iff]
  omega

end Limit

/-! ## Writing -/

/-- A write writes its text. -/
theorem wrote_write (s : Sink) (text : List Char) : s.Wrote text (s.write text).2 :=
  ⟨rfl, rfl, s.taken_write text⟩

/-- A write succeeds if the text fits. -/
theorem write_fst_of_fits (h : s.Fits text) : (s.write text).1 = .ok () := by
  have hroom : ¬ s.room (Utf8.encode text).length < (Utf8.encode text).length :=
    Nat.not_lt.2 (Nat.le_of_eq h.symm)
  simp only [write, hroom, if_false]

/-- A write fails if the text does not fit. -/
theorem write_fst_of_not_fits (h : ¬ s.Fits text) : (s.write text).1 = .error s.refusal := by
  have hroom : s.room (Utf8.encode text).length < (Utf8.encode text).length :=
    Nat.lt_of_le_of_ne (s.room_le _) h
  simp only [write, hroom, if_true]

/-- Writing in pieces writes the text that they make up. -/
theorem wrote_writePieces (s : Sink) (pieces : List (List Char)) :
    s.Wrote pieces.flatten (s.writePieces pieces).2 :=
  ⟨rfl, rfl, s.taken_write _⟩

/-- A write in pieces succeeds if the text fits. -/
theorem writePieces_fst_of_fits (h : s.Fits pieces.flatten) :
    (s.writePieces pieces).1 = .ok () :=
  write_fst_of_fits h

/-- A write in pieces fails if the text does not fit. -/
theorem writePieces_fst_of_not_fits (h : ¬ s.Fits pieces.flatten) :
    (s.writePieces pieces).1 = .error s.refusal :=
  write_fst_of_not_fits h

end Sink

end Chip8
