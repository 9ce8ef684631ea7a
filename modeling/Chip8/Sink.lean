import Chip8.Error
import Chip8.Text.Utf8

set_option relaxedAutoImplicit false
set_option autoImplicit false

/-!
# Sinks

Where texts are written: a trace, a dump, the frames of a display. A sink may have room for only
so many bytes. The write that does not fit is taken up to the last byte that fits, even inside a
character, and then fails. A buffer may stand in front of a sink: it keeps pieces back until the
next one does not fit.

## Main definitions

* `Chip8.Sink` — the bytes taken so far and the room there is.
* `Chip8.Sink.write` — write a text.
* `Chip8.Sink.writePieces` — write a text in pieces.
* `Chip8.Sink.text` — what the sink holds.
* `Chip8.Sink.passedOn`, `Chip8.Sink.keptBack` — what got past the buffer, and what did not.

## Main results

* `Chip8.Sink.taken_write` — the bytes taken by a write are a prefix of the text's bytes.
* `Chip8.Sink.passedOn_append_keptBack` — nothing is lost between the two.
-/

namespace Chip8

/-- A place to write texts to. -/
structure Sink where
  /-- The bytes taken so far. -/
  taken : Array UInt8 := #[]
  /-- How many bytes the sink can hold, if there is a limit. -/
  capacity : Option Nat := none
  /-- How a write that does not fit fails. -/
  refusal : IoError := .shortWrite
  /-- The size of the buffer in front of the sink; without a buffer it is zero. -/
  buffer : Nat := 0
  /-- How many of the bytes taken so far are still in the buffer. -/
  kept : Nat := 0
  deriving DecidableEq

namespace Sink

/-- How many of the next `len` bytes the sink can take. -/
def room (s : Sink) (len : Nat) : Nat :=
  match s.capacity with
  | none => len
  | some capacity => min len (capacity - s.taken.size)

/-- How many bytes are in a buffer after a piece of `len` bytes: a piece that does not fit empties
it first, and one as large as the buffer itself goes past it. -/
def keptAfter (buffer kept len : Nat) : Nat :=
  if buffer ≤ len then 0
  else if buffer - kept < len then len
  else kept + len

/-- Write a text, as far as there is room. The text is one piece. -/
def write (s : Sink) (text : List Char) : Except IoError Unit × Sink :=
  let bytes := Utf8.encode text
  let fits := s.room bytes.length
  (if fits < bytes.length then .error s.refusal else .ok (),
    { s with taken := s.taken ++ bytes.take fits, kept := keptAfter s.buffer s.kept bytes.length })

/-- Write a text in pieces. Only a buffer can tell it from the whole text. -/
def writePieces (s : Sink) (pieces : List (List Char)) : Except IoError Unit × Sink :=
  let (r, after) := s.write pieces.flatten
  (r, { after with
    kept := pieces.foldl (fun kept p => keptAfter s.buffer kept (Utf8.encode p).length) s.kept })

/-- What the sink holds. -/
def text (s : Sink) : String :=
  Utf8.decode s.taken.toList

/-- The bytes that got past the buffer. -/
def passedOn (s : Sink) : List UInt8 :=
  s.taken.toList.take (s.taken.size - s.kept)

/-- The bytes that are still in the buffer. -/
def keptBack (s : Sink) : List UInt8 :=
  s.taken.toList.drop (s.taken.size - s.kept)

/-- Nothing is lost between the two. -/
theorem passedOn_append_keptBack (s : Sink) : s.passedOn ++ s.keptBack = s.taken.toList :=
  List.take_append_drop ..

/-- The bytes taken by a write are a prefix of the text's bytes. -/
theorem taken_write (s : Sink) (text : List Char) :
    (s.write text).2.taken.toList =
      s.taken.toList ++ (Utf8.encode text).take (s.room (Utf8.encode text).length) := by
  simp [write]

end Sink

end Chip8
