import Chip8.Memory.Basic

set_option relaxedAutoImplicit false
set_option autoImplicit false

/-!
# Accesses

The ways to get at memory. Besides being read and written at once, a range can be read into a buffer
of the caller, and it can be handed out to somebody who puts other bytes in their place. Whatever
the way, a range that leaves memory is refused, and then neither memory nor the buffer is touched.

## Main definitions

* `Chip8.Memory.fill` — read into a buffer.
* `Chip8.Memory.exchange` — hand out a range.
* `Chip8.Memory.Access`, `Chip8.Memory.perform` — the ways, and what each of them comes to.
-/

namespace Chip8.Memory

/-- Fill a buffer with the bytes at `addr`. -/
def fill (m : Memory) (addr : UInt16) (buffer : List UInt8) : Except Error Unit × List UInt8 :=
  match m.read addr buffer.length with
  | .error e => (.error e, buffer)
  | .ok data => (.ok (), data)

/-- Hand out the `len` bytes at `addr` to somebody who puts others in their place. -/
def exchange (m : Memory) (addr : UInt16) (len : Nat) (put : Nat → UInt8) :
    Except Error (List UInt8) × Memory :=
  match m.read addr len with
  | .error e => (.error e, m)
  | .ok old =>
    (.ok old, { m with bytes := Bytes.overwrite m.bytes addr.toNat ((List.range len).map put) })

/-- The ways to get at memory. -/
inductive Access where
  /-- Bytes are put at an address. -/
  | write (addr : UInt16) (data : List UInt8)
  /-- A buffer is filled. -/
  | read (addr : UInt16) (buffer : List UInt8)
  /-- A range is looked at. -/
  | look (addr : UInt16) (len : Nat)
  /-- A range is handed out, and other bytes are put in its place. -/
  | exchange (addr : UInt16) (len : Nat) (put : Nat → UInt8)
  /-- Registers are stored. -/
  | save (addr : UInt16) (registers : List UInt8)
  /-- Registers are filled. -/
  | load (addr : UInt16) (registers : List UInt8)
  /-- The hundreds, tens and ones of a byte are stored. -/
  | saveDecimal (addr : UInt16) (value : UInt8)
  /-- An instruction is fetched. -/
  | fetch (addr : UInt16)

/-- What an access comes to. -/
structure Outcome where
  /-- Whether it was refused. -/
  answer : Except Error Unit
  /-- The memory after it. -/
  memory : Memory
  /-- The bytes that the caller has in hand after it. -/
  inHand : List UInt8

/-- What an access comes to. Registers are stored and filled like any other bytes. -/
def perform (m : Memory) : Access → Outcome
  | .write addr data | .save addr data =>
    match m.write addr data with
    | .error e => ⟨.error e, m, data⟩
    | .ok m => ⟨.ok (), m, data⟩
  | .read addr buffer | .load addr buffer =>
    let (answer, buffer) := m.fill addr buffer
    ⟨answer, m, buffer⟩
  | .look addr len =>
    match m.read addr len with
    | .error e => ⟨.error e, m, []⟩
    | .ok data => ⟨.ok (), m, data⟩
  | .exchange addr len put =>
    match m.exchange addr len put with
    | (.error e, m) => ⟨.error e, m, []⟩
    | (.ok old, m) => ⟨.ok (), m, old⟩
  | .saveDecimal addr value =>
    match m.saveDecimal addr value with
    | .error e => ⟨.error e, m, []⟩
    | .ok m => ⟨.ok (), m, []⟩
  | .fetch addr =>
    match m.fetch addr with
    | .error e => ⟨.error e, m, []⟩
    | .ok ins => ⟨.ok (), m, [ins.hi, ins.lo]⟩

/-- The memory after some accesses, whether they were refused or not. -/
def replay (m : Memory) (accesses : List Access) : Memory :=
  accesses.foldl (fun m a => (m.perform a).memory) m

end Chip8.Memory
