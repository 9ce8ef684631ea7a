set_option relaxedAutoImplicit false
set_option autoImplicit false

/-!
# UTF-8

The bytes of a text, and the text of bytes that may be cut inside a character. Each longest
piece that begins a character but cannot be completed reads as one replacement character.

## Main definitions

* `Chip8.Utf8.encode` — the bytes of a text.
* `Chip8.Utf8.text?` — the text of some bytes, if they are the bytes of one.
* `Chip8.Utf8.readChar` — what some bytes are as one character.
* `Chip8.Utf8.decode` — the text of any bytes.
-/

namespace Chip8.Utf8

/-- The bytes of a text. -/
def encode (text : List Char) : List UInt8 :=
  text.flatMap String.utf8EncodeChar

/-- The bytes of two texts, one after the other, are the bytes of the one and then of the other. -/
theorem encode_append (s t : List Char) : encode (s ++ t) = encode s ++ encode t := by
  simp [encode]

/-- The text of bytes that are the bytes of a text, and nothing for others. -/
def text? (bytes : List UInt8) : Option String :=
  String.fromUTF8? ⟨bytes.toArray⟩

/-- What stands for bytes that are no character. -/
def replacement : Char := '\uFFFD'

/-- A character that has begun: how many bytes are missing, the bounds of the next one, and the
value so far. -/
structure Pending where
  /-- How many bytes are missing. -/
  missing : Nat
  /-- The least next byte. -/
  least : UInt8
  /-- The greatest next byte. -/
  greatest : UInt8
  /-- The bits so far. -/
  value : Nat

/-- Read the first byte of a character: a character of one byte, the beginning of a longer one,
or no character. -/
def start (b : UInt8) : Option Char × Option Pending :=
  if b < 0x80 then (some (Char.ofNat b.toNat), none)
  else if b < 0xC2 then (some replacement, none)
  else if b < 0xE0 then (none, some ⟨1, 0x80, 0xBF, b.toNat - 0xC0⟩)
  else if b < 0xF0 then
    (none, some ⟨2, if b = 0xE0 then 0xA0 else 0x80, if b = 0xED then 0x9F else 0xBF,
      b.toNat - 0xE0⟩)
  else if b < 0xF5 then
    (none, some ⟨3, if b = 0xF0 then 0x90 else 0x80, if b = 0xF4 then 0x8F else 0xBF,
      b.toNat - 0xF0⟩)
  else (some replacement, none)

/-- The characters of the bytes, put in front of those read before, last first. -/
def decodeFrom (read : List Char) : Option Pending → List UInt8 → List Char
  | none, [] => read
  | some _, [] => replacement :: read
  | none, b :: bytes =>
    let (c?, next) := start b
    decodeFrom (c?.toList ++ read) next bytes
  | some p, b :: bytes =>
    if p.least ≤ b ∧ b ≤ p.greatest then
      let value := p.value * 64 + (b.toNat - 0x80)
      if p.missing ≤ 1 then decodeFrom (Char.ofNat value :: read) none bytes
      else decodeFrom read (some ⟨p.missing - 1, 0x80, 0xBF, value⟩) bytes
    else
      let (c?, next) := start b
      decodeFrom (c?.toList ++ replacement :: read) next bytes

/-! ## One character -/

/-- What some bytes are as one character. -/
inductive CharReading where
  /-- A character. -/
  | complete (c : Char)
  /-- The beginning of one. -/
  | incomplete
  /-- Neither. -/
  | invalid
  deriving DecidableEq, Repr

/-- How many bytes a character takes that begins with a byte, if any does. -/
def lengthOf (b : UInt8) : Option Nat :=
  if b < 0x80 then some 1
  else if b < 0xC0 then none
  else if b < 0xE0 then some 2
  else if b < 0xF0 then some 3
  else if b < 0xF8 then some 4
  else none

/-- What some bytes are as one character. -/
def readChar (bytes : List UInt8) : CharReading :=
  match (text? bytes).bind fun s => s.toList.head? with
  | some c => .complete c
  | none =>
    match bytes with
    | [] => .incomplete
    | b :: rest =>
      match lengthOf b with
      | none => .invalid
      | some len =>
        if rest.all (fun c => 0x80 ≤ c && c < 0xC0) && bytes.length < len then .incomplete
        else .invalid

/-! ## All characters -/

/-- The text of any bytes. -/
def decode (bytes : List UInt8) : String :=
  String.ofList (decodeFrom [] none bytes).reverse

end Chip8.Utf8
