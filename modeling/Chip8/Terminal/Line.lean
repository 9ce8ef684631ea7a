import Chip8.Terminal.Sequence

set_option relaxedAutoImplicit false
set_option autoImplicit false

/-!
# The line to a terminal

Bytes that were typed are handed over in pieces. A byte completes something, or is kept until
more bytes come, or makes what was kept meaningless, which is then dropped.

A reader looks for a piece only when new bytes were announced, and reads on at once as long as
the pieces complete nothing. The line holds only so many bytes; those typed beyond that are
announced when there is room for them. So what is left behind a piece that completed something
is not looked for while nothing else arrives.

## Main definitions

* `Chip8.TerminalLine.cut` — what a piece completes, and the bytes kept behind it.
* `Chip8.TerminalLine.signals` — what a reader comes upon when some bytes were typed beforehand.
-/

namespace Chip8.TerminalLine

/-- What the bytes of a piece complete, with some bytes kept from before, and the bytes kept
behind it. `more` tells whether others are waiting behind the piece. -/
def cut (more : Bool) (kept : List UInt8) : List UInt8 → List Signal × List UInt8
  | [] => ([], kept)
  | b :: bytes =>
    match Reading.ofBytes (more || !bytes.isEmpty) (kept ++ [b]) with
    | .signal s =>
      let (signals, kept) := cut more [] bytes
      (s :: signals, kept)
    | .invalid => cut more [] bytes
    | .incomplete => cut more (kept ++ [b]) bytes

/-- The greatest number of bytes in a piece. A piece of this size is taken to have others waiting
behind it. -/
def pieceSize : Nat := 1204

/-- How many bytes the line holds. -/
def lineSize : Nat := 4095

/-- What a reader comes upon in bytes that were not read yet, with some bytes kept from before. -/
def signalsFrom (kept : List UInt8) : List UInt8 → List Signal
  | [] => []
  | b :: bytes =>
    let unread := b :: bytes
    let piece := unread.take pieceSize
    let (signals, kept) := cut (piece.length == pieceSize) kept piece
    if signals.isEmpty || lineSize < unread.length then
      signals ++ signalsFrom kept (unread.drop pieceSize)
    else signals
termination_by unread => unread.length
decreasing_by
  simp only [List.length_drop, List.length_cons, pieceSize]
  omega

/-- What a reader comes upon when some bytes were typed beforehand. -/
def signals (typed : List UInt8) : List Signal :=
  signalsFrom [] typed

end Chip8.TerminalLine
