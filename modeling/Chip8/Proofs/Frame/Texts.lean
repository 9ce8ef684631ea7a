import Chip8.Proofs.Frame.Parity
import Chip8.Proofs.Machine.Effects
import Chip8.Proofs.Sinks
import Chip8.Proofs.Text.Reading

set_option relaxedAutoImplicit false
set_option autoImplicit false

/-!
# Frames and their texts

The text of a frame tells all of its pixels: it is read back, and nothing else is read as a frame.
As every frame has a text of the same length, frames written one after another are told apart
without anything between them, and a panel that writes its frames down has told the list of them.
A sink with a limit takes as much of that as it can hold, be it in the middle of a character, and
refuses each frame that it cannot hold the whole of.

## Main definitions

* `Chip8.Frame.ofPixels`, `Chip8.Frame.reader` — the frame with some pixels, and what reads one.
* `Chip8.Frame.ofText?`, `Chip8.Frame.listOfBytes?` — the frame of a text, and the frames of some
  bytes.
* `Chip8.Frame.flushed`, `Chip8.Screen.answers` — the frames that some calls show, and what the panel
  answers to them.

## Main results

* `Chip8.Frame.spells_text`, `Chip8.Frame.listOfBytes?_eq_some_iff` — one frame, and frames one
  after another, are read back, and nothing else is.
* `Chip8.Frame.text_injective` — different frames have different texts.
* `Chip8.Screen.wrote_told`, `Chip8.Screen.getElem?_answers` — what some calls write, and which
  frames are refused.
* `Chip8.Screen.written_text_tells_frames` — all of it together.
-/

namespace Chip8

/-! ## Bytes -/

namespace Utf8

/-- Bytes are the bytes of a text exactly if the text gives them. -/
theorem text?_eq_some_iff {bytes : List UInt8} {s : String} :
    text? bytes = some s ↔ bytes = encode s.toList := by
  have hbytes (cs : List Char) : cs.utf8Encode.data.toList = encode cs :=
    congrArg Array.toList List.data_toByteArray
  constructor
  · intro h
    simp only [text?, String.fromUTF8?] at h
    split at h
    · cases h
      rw [← hbytes, String.utf8Encode_toList]
      rfl
    · cases h
  · rintro rfl
    have hdata : (⟨(encode s.toList).toArray⟩ : ByteArray) = s.toByteArray := by
      rw [← hbytes, String.utf8Encode_toList]
    simp only [text?, String.fromUTF8?, hdata, s.isValidUTF8, dif_pos]
    rfl

end Utf8

/-! ## One frame -/

namespace Frame

/-- The frame with some pixels. -/
def ofPixels (pixel : Fin 64 → Fin 32 → Bool) : Frame :=
  ⟨Vector.ofFn fun y =>
    (BitVec.ofBoolListBE (List.ofFn fun x => pixel x y)).cast (List.length_ofFn ..)⟩

/-- A row of bits that was made of a list has the bits of the list. -/
theorem getMsbD_ofFn {n : Nat} (bit : Fin n → Bool) (k : Fin n) :
    (BitVec.ofBoolListBE (List.ofFn bit)).getMsbD k.val = bit k := by
  rw [BitVec.getMsbD_ofBoolListBE, List.getD_eq_getElem?_getD, List.getElem?_ofFn, dif_pos k.isLt]
  rfl

@[simp] theorem pixel_ofPixels (pixel : Fin 64 → Fin 32 → Bool) (x : Fin 64) (y : Fin 32) :
    (ofPixels pixel).pixel x.val y.val = pixel x y := by
  have hrow : rowIndex y.val = y := Fin.ext (Nat.mod_eq_of_lt y.isLt)
  simp only [Frame.pixel, ofPixels, hrow, Nat.mod_eq_of_lt x.isLt, Fin.getElem_fin,
    Vector.getElem_ofFn, BitVec.getMsbD_cast, Fin.eta]
  exact getMsbD_ofFn (fun x => pixel x y) x

/-- A frame is the frame with its pixels. -/
theorem ofPixels_pixel (f : Frame) : ofPixels (fun x y => f.pixel x.val y.val) = f :=
  ext_pixel fun px hpx py hpy => pixel_ofPixels _ ⟨px, hpx⟩ ⟨py, hpy⟩

/-- The pixel of a character. -/
def pixelReader : Reader Bool
  | '■' :: rest => some (true, rest)
  | '□' :: rest => some (false, rest)
  | _ => none

/-- The pixels of a line. -/
def lineReader : Reader (Vector Bool 64) := do
  let line ← Reader.vector 64 fun _ => pixelReader
  Reader.token ['\n']
  return line

/-- A frame. -/
def reader : Reader Frame := do
  let lines ← Reader.vector 32 fun _ => lineReader
  return ofPixels fun x y => lines[y][x]

/-- The frame of a text, if it is the text of one. -/
def ofText? (text : List Char) : Option Frame :=
  reader.whole text

theorem spells_pixelReader : pixelReader.Spells fun lit => [square lit] := by
  intro text lit rest
  unfold pixelReader
  split <;> cases lit <;> simp_all [square, eq_comm]

/-- The lines are spelled pixel by pixel, each with its end. -/
theorem spells_lineReader :
    lineReader.Spells fun v => ((List.finRange 64).map fun x => square v[x]) ++ ['\n'] := by
  simp only [List.map_eq_flatMap]
  exact (Reader.Spells.vector fun _ => spells_pixelReader).andToken ['\n']

/-- A frame is spelled as its text. -/
theorem spells_text : reader.Spells text := by
  refine (Reader.Spells.vector fun _ => spells_lineReader).map (fun lines => ?_) fun f => ?_
  · refine List.flatMap_congr fun y _ => ?_
    simp only [textLine, Fin.getElem_fin, pixel_ofPixels]
  · refine ⟨.ofFn fun y => .ofFn fun x => f.pixel x.val y.val, ?_⟩
    simpa using f.ofPixels_pixel

/-- The text of a frame is read as the frame, and no other text is. -/
theorem ofText?_eq_some_iff {t : List Char} {f : Frame} : ofText? t = some f ↔ t = f.text :=
  spells_text.whole_eq_some_iff

/-- Different frames have different texts. -/
theorem text_injective : Function.Injective text := by
  intro f g h
  have hread : ofText? f.text = some f := ofText?_eq_some_iff.2 rfl
  rw [h, ofText?_eq_some_iff.2 rfl, Option.some.injEq] at hread
  exact hread.symm

/-- The text is lines. -/
theorem lines_text (f : Frame) : Text.lines f.text = (List.finRange 32).map f.textLine := by
  rw [text, List.flatMap_def]
  refine Text.lines_flatten (List.forall_mem_map.2 fun y _ => ⟨_, fun hmem => ?_, rfl⟩)
  obtain ⟨x, -, hsquare⟩ := List.mem_map.1 hmem
  unfold square at hsquare
  split at hsquare
  · cases hsquare
  · cases hsquare

/-- There is a line for each row, and a character before its end for each pixel. -/
theorem lines_text_pixel (f : Frame) {y : Nat} (hy : y < 32) :
    ∃ body, (Text.lines f.text)[y]? = some (body ++ ['\n']) ∧ body.length = 64 ∧
      ∀ x < 64, body[x]? = some (square (f.pixel x y)) := by
  refine ⟨(List.finRange 64).map fun x => square (f.pixel x.val y), ?_, ?_, fun x hx => ?_⟩
  · have hline : (List.finRange 32)[y]? = some ⟨y, hy⟩ := by simp [hy]
    rw [lines_text, List.getElem?_map, hline]
    rfl
  · rw [List.length_map, List.length_finRange]
  · have hchar : (List.finRange 64)[x]? = some ⟨x, hx⟩ := by simp [hx]
    rw [List.getElem?_map, hchar]
    rfl

/-! ## Frames one after another -/

/-- How many characters a frame takes. -/
def textLength : Nat := 32 * 65

@[simp] theorem length_text (f : Frame) : f.text.length = textLength := by
  simp [text, textLine, textLength, List.length_flatMap, List.map_const']

/-- The frames of a text, if it is their texts one after another. -/
def listOfText? (text : List Char) : Option (List Frame) :=
  (reader.times (text.length / textLength)).whole text

/-- The frames of some bytes. -/
def listOfBytes? (bytes : List UInt8) : Option (List Frame) := do
  listOfText? (← Utf8.text? bytes).toList

theorem length_flatMap_text (frames : List Frame) :
    (frames.flatMap text).length = frames.length * textLength := by
  simp [List.length_flatMap, List.map_const']

/-- The texts of frames one after another are read as the frames, and no other text is. -/
theorem listOfText?_eq_some_iff {t : List Char} {frames : List Frame} :
    listOfText? t = some frames ↔ t = frames.flatMap text := by
  rw [listOfText?, Reader.whole_eq_some_iff, spells_text.times, List.append_nil]
  refine and_iff_right_of_imp ?_
  rintro rfl
  rw [length_flatMap_text, Nat.mul_div_cancel _ (by decide)]

/-- The same for their bytes. -/
theorem listOfBytes?_eq_some_iff {bytes : List UInt8} {frames : List Frame} :
    listOfBytes? bytes = some frames ↔ bytes = Utf8.encode (frames.flatMap text) := by
  simp only [listOfBytes?, Option.bind_eq_bind, Option.bind_eq_some_iff, listOfText?_eq_some_iff,
    Utf8.text?_eq_some_iff]
  constructor
  · rintro ⟨s, rfl, hs⟩
    rw [hs]
  · rintro rfl
    exact ⟨String.ofList (frames.flatMap text), by rw [String.toList_ofList],
      String.toList_ofList ..⟩

/-- How many bytes a line takes: three for each pixel, and one for its end. -/
theorem length_encode_textLine (f : Frame) (y : Fin 32) :
    (Utf8.encode (f.textLine y)).length = 193 := by
  have hsquare (lit : Bool) : (square lit).utf8Size = 3 := by
    cases lit <;> rfl
  have hend : (String.utf8EncodeChar '\n').length = 1 := rfl
  simp only [textLine, Utf8.encode, List.flatMap_append, List.length_append, List.flatMap_map,
    List.flatMap_singleton, List.length_flatMap, String.length_utf8EncodeChar, hsquare,
    List.map_const', List.length_finRange, List.sum_replicate_nat, hend]

/-- How many bytes a frame takes. -/
theorem length_encode_text (f : Frame) : (Utf8.encode f.text).length = 32 * 193 := by
  have hlines : Utf8.encode f.text =
      (List.finRange 32).flatMap fun y => Utf8.encode (f.textLine y) :=
    List.flatMap_assoc
  simp only [hlines, List.length_flatMap, length_encode_textLine, List.map_const',
    List.length_finRange, List.sum_replicate_nat]

/-- A frame has a text. -/
theorem flatMap_text_ne_nil {frames : List Frame} (h : frames ≠ []) :
    frames.flatMap text ≠ [] := by
  rw [← List.length_pos_iff, length_flatMap_text]
  exact Nat.mul_pos (List.length_pos_iff.2 h) (by decide)

/-- The frames that some calls show, if they find this one. -/
def flushed (f : Frame) : List ScreenCall → List Frame
  | [] => []
  | .clear :: calls => blank.flushed calls
  | .draw x y sprite :: calls => (f.draw x y sprite).2.flushed calls
  | .flush :: calls => f :: f.flushed calls

end Frame

/-! ## Panels that write -/

namespace Screen

open Chip8.Frame

/-- What the panel answers to the frames that it is to show. -/
def answers {δ : Type} [Panel δ] (s : Screen δ) : List ScreenCall → List (Except IoError Unit)
  | [] => []
  | .clear :: calls => s.clear.answers calls
  | .draw x y sprite :: calls => (s.draw x y sprite).2.answers calls
  | .flush :: calls => s.flush.1 :: s.flush.2.answers calls

variable (s : Screen WriterPanel) (calls : List ScreenCall)

/-- To show a frame is to write its text. -/
theorem wrote_flush : s.panel.sink.Wrote s.frame.text s.flush.2.panel.sink :=
  s.panel.sink.wrote_write s.frame.text

/-- Some calls write the texts of the frames that they show. -/
theorem wrote_told :
    s.panel.sink.Wrote ((s.frame.flushed calls).flatMap text) (calls.foldl told s).panel.sink := by
  induction calls generalizing s with
  | nil => exact Sink.Wrote.refl _
  | cons call calls ih =>
    cases call with
    | clear => exact ih s.clear
    | draw x y sprite => exact ih (s.draw x y sprite).2
    | flush => exact s.wrote_flush.trans (ih s.flush.2)

/-- There are as many answers as frames. -/
theorem length_answers : (s.answers calls).length = (s.frame.flushed calls).length := by
  induction calls generalizing s with
  | nil => rfl
  | cons call calls ih =>
    cases call with
    | clear => exact ih s.clear
    | draw x y sprite => exact ih (s.draw x y sprite).2
    | flush => exact congrArg Nat.succ (ih s.flush.2)

/-- A sink's answer to one text. -/
theorem flush_fst :
    s.flush.1 = if s.panel.sink.Fits s.frame.text then .ok () else .error s.panel.sink.refusal := by
  split
  · exact Sink.write_fst_of_fits ‹_›
  · exact Sink.write_fst_of_not_fits ‹_›

/-- A frame is refused if it does not fit together with those before it.

**Proof sketch.** Induction on the calls. What a first frame leaves of the room decides about the
frames after it in the same way, even if it did not fit itself, as they have texts too. -/
theorem getElem?_answers {k : Nat} (hk : k < (s.frame.flushed calls).length) :
    (s.answers calls)[k]? =
      some (if s.panel.sink.Fits (((s.frame.flushed calls).take (k + 1)).flatMap text) then .ok ()
        else .error s.panel.sink.refusal) := by
  induction calls generalizing s k with
  | nil => cases hk
  | cons call calls ih =>
    cases call with
    | clear => exact ih s.clear hk
    | draw x y sprite => exact ih (s.draw x y sprite).2 hk
    | flush =>
      simp only [answers, flushed, List.take_succ_cons, List.flatMap_cons] at hk ⊢
      cases k with
      | zero => simp [flush_fst]
      | succ k =>
        have hk' : k < (s.frame.flushed calls).length := by simpa using hk
        have hrest : ((s.frame.flushed calls).take (k + 1)).flatMap text ≠ [] := by
          refine flatMap_text_ne_nil fun hnil => ?_
          rw [List.take_eq_nil_iff] at hnil
          obtain hzero | hnil := hnil
          · cases hzero
          · simp [hnil] at hk'
        rw [List.getElem?_cons_succ, ih s.flush.2 hk']
        simp only [← s.wrote_flush.fits_iff_of_ne_nil hrest, s.wrote_flush.refusal]
        rfl

/-- **The text of a frame tells all of its pixels, and a stream of texts all of its frames.** The
text of a frame is 32 lines with 64 characters before their ends, a full square for a lit pixel and
an empty one for a dark one. It is read as the frame, and nothing else is, so that frames with the
same text are the same. Give a panel that writes any calls: it writes the texts of the frames that
it is to show, which cannot be the texts of any other frames, and from which these are read. Into a
sink with a capacity go that many bytes of it from the front, and the panel refuses a frame exactly
if the frames up to this one take more bytes than that. -/
theorem written_text_tells_frames (f : Frame) (calls : List ScreenCall) (refusal : IoError) :
    let frames := blank.flushed calls
    let stream := Utf8.encode (frames.flatMap text)
    let start (capacity : Option Nat) : Screen WriterPanel := { panel := ⟨{ capacity, refusal }⟩ }
    let taken (capacity : Option Nat) : List UInt8 :=
      (calls.foldl told (start capacity)).panel.sink.taken.toList
    ((Text.lines f.text).flatten = f.text ∧ (Text.lines f.text).length = 32 ∧
      ∀ y < 32, ∃ body, (Text.lines f.text)[y]? = some (body ++ ['\n']) ∧ body.length = 64 ∧
        ∀ x < 64, body[x]? = some (if f.pixel x y then '■' else '□')) ∧
    (∀ t, ofText? t = some f ↔ t = f.text) ∧
    (∀ g : Frame, g.text = f.text ↔ g = f) ∧
    (taken none = stream ∧ (start none).answers calls = List.replicate frames.length (.ok ())) ∧
    (listOfBytes? stream = some frames ∧
      ∀ frames', Utf8.encode (frames'.flatMap text) = stream ↔ frames' = frames) ∧
    ∀ c, taken (some c) = stream.take c ∧ ((start (some c)).answers calls).length = frames.length ∧
      ∀ k < frames.length, ((start (some c)).answers calls)[k]? =
        some (if (Utf8.encode ((frames.take (k + 1)).flatMap text)).length ≤ c then .ok ()
          else .error refusal) := by
  intro frames stream start taken
  have hwrote (capacity : Option Nat) := (start capacity).wrote_told calls
  have hroom (c : Nat) : (start (some c)).panel.sink.capacity = some (0 + c) :=
    congrArg some (Nat.zero_add c).symm
  have hread : listOfBytes? stream = some frames := listOfBytes?_eq_some_iff.2 rfl
  refine ⟨⟨?_, ?_, fun y hy => f.lines_text_pixel hy⟩, fun t => ofText?_eq_some_iff,
    fun g => text_injective.eq_iff, ⟨?_, ?_⟩, ⟨hread, fun frames' => ⟨fun hsame => ?_, ?_⟩⟩,
    fun c => ⟨?_, (start (some c)).length_answers calls, fun k hk => ?_⟩⟩
  · rw [lines_text, text, List.flatMap_def]
  · rw [lines_text, List.length_map, List.length_finRange]
  · exact (hwrote none).taken.trans (List.take_length ..)
  · refine List.ext_getElem? fun k => ?_
    by_cases hk : k < frames.length
    · rw [getElem?_answers _ _ hk, if_pos (Sink.fits_of_capacity_eq_none rfl _),
        List.getElem?_replicate, if_pos hk]
    · rw [List.getElem?_eq_none (by rw [length_answers]; exact Nat.not_lt.1 hk),
        List.getElem?_eq_none (by rw [List.length_replicate]; exact Nat.not_lt.1 hk)]
  · rw [← hsame, listOfBytes?_eq_some_iff.2 rfl, Option.some.injEq] at hread
    exact hread
  · rintro rfl
    rfl
  · exact Sink.Wrote.taken_of_capacity (hroom c) (hwrote (some c))
  · rw [getElem?_answers _ _ hk]
    simp only [Sink.fits_iff_le (hroom c)]
    rfl

/-- A frame with its first pixel lit, and a blank one after it, into a sink that can hold the first
one and two bytes of the three that the next pixel takes: the sink takes the two bytes, and the
second frame is refused. -/
theorem written_text_tells_frames_of_cut_pixel :
    let f := (blank.draw 0 0 0x80).2
    let calls : List ScreenCall := [.draw 0 0 0x80, .flush, .clear, .flush]
    let start : Screen WriterPanel :=
      { panel := ⟨{ capacity := some 6178, refusal := .shortWrite }⟩ }
    let stream := Utf8.encode (f.text ++ blank.text)
    (∃ body, (Text.lines f.text)[0]? = some (body ++ ['\n']) ∧
      body[0]? = some '■' ∧ body[1]? = some '□') ∧
    listOfBytes? stream = some [f, blank] ∧
    (calls.foldl told start).panel.sink.taken.toList = stream.take 6178 ∧
    (start.answers calls)[0]? = some (.ok ()) ∧
    (start.answers calls)[1]? = some (.error .shortWrite) := by
  intro f calls start stream
  obtain ⟨⟨-, -, hlines⟩, -, -, -, ⟨hread, -⟩, hcapacity⟩ :=
    written_text_tells_frames f calls .shortWrite
  obtain ⟨htaken, -, hanswers⟩ := hcapacity 6178
  have hstream : (blank.flushed calls).flatMap text = f.text ++ blank.text := by
    simp [calls, flushed, f]
  rw [hstream] at hread htaken
  refine ⟨?_, hread, htaken, ?_, ?_⟩
  · obtain ⟨body, hbody, -, hpixel⟩ := hlines 0 (by decide)
    have hlit : f.pixel 0 0 = true := by decide
    have hdark : f.pixel 1 0 = false := by decide
    refine ⟨body, hbody, ?_, ?_⟩
    · simpa [hlit] using hpixel 0 (by decide)
    · simpa [hdark] using hpixel 1 (by decide)
  · refine (hanswers 0 (by decide)).trans ?_
    simp [calls, flushed, length_encode_text]
  · refine (hanswers 1 (by decide)).trans ?_
    simp [calls, flushed, length_encode_text, Utf8.encode_append]

end Screen

end Chip8
