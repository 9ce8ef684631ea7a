import Chip8.Error

set_option relaxedAutoImplicit false
set_option autoImplicit false

/-!
# Sources

Where a program comes from: a sequence of reads, each of which gives some bytes or fails. A read
that gives no bytes is the end.

## Main definitions

* `Chip8.Source` — the reads of a source.
* `Chip8.Source.readAll` — everything up to the end, or the first failure.
* `Chip8.Source.ofBytes`, `Chip8.Source.inPieces` — sources of known bytes.
-/

namespace Chip8

/-- What the reads of a source give, in order. -/
structure Source where
  /-- The reads, each with its bytes or its failure. -/
  reads : List (Except IoError (List UInt8))

namespace Source

/-- Everything that the reads give up to the end, or the first failure. -/
def gather : List (Except IoError (List UInt8)) → Except IoError (List UInt8)
  | [] => .ok []
  | .error e :: _ => .error e
  | .ok [] :: _ => .ok []
  | .ok (b :: piece) :: reads =>
    match gather reads with
    | .error e => .error e
    | .ok rest => .ok (b :: piece ++ rest)

/-- Everything up to the end, or the first failure. -/
def readAll (s : Source) : Except IoError (List UInt8) :=
  gather s.reads

/-- A source that gives all its bytes in one read. -/
def ofBytes (bytes : List UInt8) : Source := ⟨[.ok bytes]⟩

/-- A source whose first read fails. -/
def failing (e : IoError) : Source := ⟨[.error e]⟩

/-- Bytes in pieces of `size`, the last one possibly shorter. -/
def pieces (size : Nat) (bytes : List UInt8) : List (List UInt8) :=
  if _h : size = 0 ∨ bytes = [] then
    []
  else
    bytes.take size :: pieces size (bytes.drop size)
termination_by bytes.length
decreasing_by
  have : bytes.length ≠ 0 := by simp_all
  simp only [List.length_drop]
  omega

/-- The reads that give `pieces` in order, except that the reads with a number in `failures` fail;
the first one has number `k`. The read after the last piece is the end. -/
def interrupted (e : IoError) (failures : List Nat) (k : Nat) :
    List (List UInt8) → List (Except IoError (List UInt8))
  | [] => if k ∈ failures then [.error e] else []
  | piece :: rest =>
    if k ∈ failures then [.error e] else .ok piece :: interrupted e failures (k + 1) rest

/-- A source of known bytes that gives at most `limit` of them a read, and whose reads with a
number in `failures`, counted from 1, fail. -/
def inPieces (bytes : List UInt8) (limit : Option Nat) (e : IoError) (failures : List Nat) :
    Source :=
  ⟨interrupted e failures 1 (pieces (limit.getD bytes.length) bytes)⟩

end Source

end Chip8
