import Chip8.Text.Hex

set_option relaxedAutoImplicit false
set_option autoImplicit false

/-!
# Causes of failure

Everything that can stop an instruction, a load or a run, as data. The wording lives in the
`message` functions alone.

## Main definitions

* `Chip8.OsError` — a failure reported by the operating system.
* `Chip8.IoError` — a failure of a device or a file.
* `Chip8.Error` — a failure of the machine, with `Chip8.Error.message` and
  `Chip8.Error.isFatal`.
-/

namespace Chip8

/-- A failure reported by the operating system: its number, its class and its text. -/
structure OsError where
  /-- The number of the failure. -/
  code : Nat
  /-- The class the failure belongs to. -/
  kind : String
  /-- What the system says about it. -/
  text : String
  deriving DecidableEq, Repr

namespace OsError

/-- No file has the name. -/
def notFound : OsError := ⟨2, "NotFound", "No such file or directory"⟩

/-- The file may not be opened this way. -/
def permissionDenied : OsError := ⟨13, "PermissionDenied", "Permission denied"⟩

/-- A part of the path that should be a directory is not one. -/
def notADirectory : OsError := ⟨20, "NotADirectory", "Not a directory"⟩

/-- The name belongs to a directory. -/
def isADirectory : OsError := ⟨21, "IsADirectory", "Is a directory"⟩

/-- A name, or a part of one, is too long. -/
def nameTooLong : OsError := ⟨36, "InvalidFilename", "File name too long"⟩

/-- The device has no room left. -/
def storageFull : OsError := ⟨28, "StorageFull", "No space left on device"⟩

/-- The text of the failure with its number. -/
def message (e : OsError) : String :=
  s!"{e.text} (os error {e.code})"

/-- The failure with its fields spelled out. -/
def details (e : OsError) : String :=
  "Os \x7b code: " ++ toString e.code ++ ", kind: " ++ e.kind ++ ", message: \"" ++ e.text ++
    "\" \x7d"

end OsError

/-- A failure of a device or a file. -/
inductive IoError where
  /-- The operating system refused. -/
  | os (error : OsError)
  /-- A sink took only a part of what was written. -/
  | shortWrite
  /-- A device reported a failure of its own. -/
  | device (text : String)
  deriving DecidableEq, Repr

/-- The text of an input or output failure. -/
def IoError.message : IoError → String
  | .os error => error.message
  | .shortWrite => "failed to write whole buffer"
  | .device text => text

/-- Everything that can keep the machine from completing what it was asked to do. -/
inductive Error where
  /-- An instruction was made from a number of bytes other than two. -/
  | malformedInstruction (len : Nat)
  /-- The word means nothing. -/
  | unknownOpcode (word : UInt16)
  /-- An access of `len` bytes at `addr` leaves memory. -/
  | outOfRange (addr : UInt16) (len : Nat)
  /-- A call was made with every return address in use. -/
  | stackOverflow (pc : UInt16)
  /-- A return was made with no return address in use. -/
  | stackUnderflow (pc : UInt16)
  /-- A program of `size` bytes does not fit in the `max` bytes there are. -/
  | programTooLarge (size max : Nat)
  /-- A device or a file failed. -/
  | io (error : IoError)
  /-- The speaker failed. -/
  | sound (text : String)
  deriving DecidableEq, Repr

namespace Error

/-- The text of an error. -/
def message : Error → String
  | malformedInstruction len => s!"malformed instruction: expected 2 bytes, got {len}"
  | unknownOpcode word => "unknown opcode " ++ Hex.address word
  | outOfRange addr len => "address out of range: " ++ Hex.address addr ++ s!" (+{len} bytes)"
  | stackOverflow pc => "stack overflow calling from " ++ Hex.address pc
  | stackUnderflow pc => "stack underflow returning from " ++ Hex.address pc
  | programTooLarge size max => s!"program is too large ({size} bytes), max size is {max} bytes"
  | io error => "io error: " ++ error.message
  | sound text => "sound error: " ++ text

/-- A fatal error ends the run, since the machine's state means nothing past it. -/
def isFatal : Error → Bool
  | malformedInstruction _ | unknownOpcode _ | stackOverflow _ | stackUnderflow _ => true
  | outOfRange .. | programTooLarge .. | io _ | sound _ => false

end Error

end Chip8
