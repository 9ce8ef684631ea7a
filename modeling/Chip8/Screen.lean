import Chip8.Frame.Text
import Chip8.Sink

set_option relaxedAutoImplicit false
set_option autoImplicit false

/-!
# The screen

The machine draws on a frame of its own and shows it on a panel when a drawing is complete. What
a panel does with a frame, and whether it manages to, is its own affair: it never changes the
frame.

## Main definitions

* `Chip8.Panel` — where frames are shown.
* `Chip8.Screen` — a frame, its panel, and how often each operation was asked for.
* `Chip8.NoPanel`, `Chip8.WriterPanel`, `Chip8.TerminalPanel`, `Chip8.FaultyPanel` — panels.
-/

namespace Chip8

/-- A place where frames are shown. -/
class Panel (δ : Type) where
  /-- Show a frame. -/
  present : δ → Frame → Except IoError Unit × δ

/-! ## Panels -/

/-- Frames are shown nowhere. -/
structure NoPanel where
  deriving DecidableEq, Inhabited

instance : Panel NoPanel where
  present p _ := (.ok (), p)

/-- Frames are written one after another as text. -/
structure WriterPanel where
  /-- Where they are written. -/
  sink : Sink
  deriving DecidableEq

instance : Panel WriterPanel where
  present p f :=
    let (r, sink) := p.sink.write f.text
    (r, ⟨sink⟩)

/-- Frames are drawn on a terminal, each in place of the one before. -/
structure TerminalPanel where
  /-- The frame on the terminal, if there is one. -/
  shown : Option Frame := none
  deriving DecidableEq, Inhabited

instance : Panel TerminalPanel where
  present _ f := (.ok (), ⟨some f⟩)

/-- A panel that is there or not. -/
instance {δ : Type} [Panel δ] : Panel (Option δ) where
  present
    | none, _ => (.ok (), none)
    | some p, f =>
      let (r, p) := Panel.present p f
      (r, some p)

/-- A panel to which some frames never get: those whose number, counted from 1, is one of
`failures`. -/
structure FaultyPanel (δ : Type) where
  /-- The panel behind. -/
  inner : δ
  /-- The numbers of the frames that do not get there. -/
  failures : List Nat
  /-- How a frame fails to get there. -/
  error : IoError
  /-- How many frames there were. -/
  count : Nat := 0

instance {δ : Type} [Panel δ] : Panel (FaultyPanel δ) where
  present p f :=
    let p := { p with count := p.count + 1 }
    if p.count ∈ p.failures then (.error p.error, p)
    else
      let (r, inner) := Panel.present p.inner f
      (r, { p with inner })

/-! ## The screen -/

/-- A frame, the panel it is shown on, and how often each operation was asked for. -/
structure Screen (δ : Type) where
  /-- The picture. -/
  frame : Frame := Frame.blank
  /-- Where it is shown. -/
  panel : δ
  /-- How often it was cleared. -/
  clears : Nat := 0
  /-- How many sprite rows were drawn. -/
  draws : Nat := 0
  /-- How often it was to be shown. -/
  flushes : Nat := 0

namespace Screen

variable {δ : Type}

/-- Switch every pixel off. -/
def clear (s : Screen δ) : Screen δ :=
  { s with frame := Frame.blank, clears := s.clears + 1 }

/-- Draw a sprite row; tells whether it hit a lit pixel. -/
def draw (s : Screen δ) (x y sprite : UInt8) : Bool × Screen δ :=
  let (hit, frame) := s.frame.draw x y sprite
  (hit, { s with frame, draws := s.draws + 1 })

/-- Draw the rows of a sprite from `(x, y)` down; tells whether one of them hit a lit pixel. -/
def drawSprite (s : Screen δ) (x y : UInt8) : List UInt8 → Bool × Screen δ
  | [] => (false, s)
  | row :: rows =>
    let (hit, s) := s.draw x y row
    let (later, s) := s.drawSprite x (y + 1) rows
    (hit || later, s)

/-- Show the frame on the panel. -/
def flush [Panel δ] (s : Screen δ) : Except IoError Unit × Screen δ :=
  let (r, panel) := Panel.present s.panel s.frame
  (r, { s with panel, flushes := s.flushes + 1 })

end Screen

end Chip8
