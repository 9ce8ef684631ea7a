import Chip8.Config
import Chip8.Text.Decimal

set_option relaxedAutoImplicit false
set_option autoImplicit false

/-!
# Arguments

What the command line asks for. Words that begin with two hyphens name an option, with its value
behind an equals sign or in the next word; words that begin with one hyphen are letters that
each name a flag; after a word of two hyphens every word is a plain one. The one plain word names
the program.

A value is looked at when the next option or plain word has been recognised, or at the end. So
an unknown option is what is complained about even if a value before it is wrong.

## Main definitions

* `Chip8.Arguments` — what the command line asks for.
* `Chip8.UsageError` — why it cannot be understood.
* `Chip8.Arguments.parse` — from words to arguments.
-/

namespace Chip8

/-- What the command line asks for. -/
structure Arguments where
  /-- The file that holds the program. -/
  program : String
  /-- The settings of the machine. -/
  config : Config
  /-- Whether there is no sound. -/
  mute : Bool
  /-- The file that executed instructions are written to. -/
  trace : Option String
  /-- The file that the state is written to at the end. -/
  dump : Option String
  deriving DecidableEq, Repr

/-- Why a command line ends in something other than a run. -/
inductive UsageError where
  /-- Help was asked for. -/
  | helpRequested
  /-- The version was asked for. -/
  | versionRequested
  /-- An option has no value, or a file has no name. -/
  | missingValue
  /-- A value is not a number, or not in its bounds. -/
  | badValue
  /-- A value was given to a flag. -/
  | surplusValue
  /-- An option was given twice. -/
  | repeatedOption
  /-- A word is no option, or a plain word too many. -/
  | unknownArgument
  /-- No program was named. -/
  | missingProgram
  deriving DecidableEq, Repr

namespace CommandLine

/-- The flags. -/
inductive Flag where
  | mute
  | help
  | version
  deriving DecidableEq, Repr

/-- What takes a value: the options, and the plain word. -/
inductive Slot where
  | clockHz
  | timerHz
  | pitch
  | keyHold
  | maxCycles
  | trace
  | dump
  | program
  deriving DecidableEq, Repr

/-- What a long name means. -/
def longName (name : List Char) : Option (Flag ⊕ Slot) :=
  match String.ofList name with
  | "clock-hz" => some (.inr .clockHz)
  | "timer-hz" => some (.inr .timerHz)
  | "pitch" => some (.inr .pitch)
  | "key-hold-ms" => some (.inr .keyHold)
  | "max-cycles" => some (.inr .maxCycles)
  | "trace" => some (.inr .trace)
  | "dump" => some (.inr .dump)
  | "mute" => some (.inl .mute)
  | "help" => some (.inl .help)
  | "version" => some (.inl .version)
  | _ => none

/-- What a letter means. -/
def shortName : Char → Option Flag
  | 'm' => some .mute
  | 'h' => some .help
  | 'V' => some .version
  | _ => none

/-! ## Values -/

/-- The values looked at so far. -/
structure Draft where
  clockHz : Option Nat := none
  timerHz : Option Nat := none
  pitch : Option Nat := none
  keyHold : Option Nat := none
  maxCycles : Option Nat := none
  trace : Option String := none
  dump : Option String := none
  program : Option String := none
  mute : Bool := false

namespace Draft

/-- Whether a slot was given a value. -/
def has (d : Draft) : Slot → Bool
  | .clockHz => d.clockHz.isSome
  | .timerHz => d.timerHz.isSome
  | .pitch => d.pitch.isSome
  | .keyHold => d.keyHold.isSome
  | .maxCycles => d.maxCycles.isSome
  | .trace => d.trace.isSome
  | .dump => d.dump.isSome
  | .program => d.program.isSome

/-- A value that must be a number. -/
def numeric (value : Option Nat) : Except UsageError (Option Nat) :=
  match value with
  | none => .error .badValue
  | some n => .ok (some n)

/-- A value that must be the name of a file. -/
def path (value : String) : Except UsageError (Option String) :=
  if value.isEmpty then .error .missingValue else .ok (some value)

/-- Look at a value and put it into its slot. -/
def fill (d : Draft) (slot : Slot) (value : String) : Except UsageError Draft :=
  if d.has slot then .error .repeatedOption
  else
    match slot with
    | .clockHz => (numeric (Decimal.integer? 0xFFFFFFFF value)).map fun v => { d with clockHz := v }
    | .timerHz => (numeric (Decimal.integer? 0xFFFFFFFF value)).map fun v => { d with timerHz := v }
    | .pitch => (numeric (Decimal.integer? 0xFFFF value)).map fun v => { d with pitch := v }
    | .keyHold => (numeric (Decimal.natural? 0xFFFFFFFFFFFFFFFF value)).map fun v =>
        { d with keyHold := v }
    | .maxCycles => (numeric (Decimal.natural? 0xFFFFFFFFFFFFFFFF value)).map fun v =>
        { d with maxCycles := v }
    | .trace => (path value).map fun v => { d with trace := v }
    | .dump => (path value).map fun v => { d with dump := v }
    | .program => (path value).map fun v => { d with program := v }

/-- The settings of the machine. -/
def config (d : Draft) : Config :=
  let usual : Config := {}
  { clockHz := (d.clockHz.map UInt32.ofNat).getD usual.clockHz
    timerHz := (d.timerHz.map UInt32.ofNat).getD usual.timerHz
    beepPitch := (d.pitch.map UInt16.ofNat).getD usual.beepPitch
    keyHold := d.keyHold.getD usual.keyHold
    maxCycles := d.maxCycles }

end Draft

/-! ## Words -/

/-- How far the command line was read. -/
structure Progress where
  /-- The values looked at so far. -/
  draft : Draft := {}
  /-- The slot whose value was not looked at yet, and the value if it was read. -/
  pending : Option (Slot × Option String) := none
  /-- Whether the plain word was read. -/
  named : Bool := false
  /-- Whether every word to come is a plain one. -/
  plain : Bool := false

namespace Progress

/-- Look at the value that was not looked at yet. -/
def settle (p : Progress) : Except UsageError Progress :=
  match p.pending with
  | none => .ok p
  | some (_, none) => .error .missingValue
  | some (slot, some value) => (p.draft.fill slot value).map fun draft =>
      { p with draft, pending := none }

/-- A flag. -/
def flag (p : Progress) (f : Flag) : Except UsageError Progress := do
  let p ← p.settle
  match f with
  | .help => .error .helpRequested
  | .version => .error .versionRequested
  | .mute =>
    if p.draft.mute then .error .repeatedOption
    else .ok { p with draft := { p.draft with mute := true } }

/-- A long name, perhaps with a value. -/
def long (p : Progress) (name : List Char) (value : Option String) : Except UsageError Progress :=
  match longName name, value with
  | none, _ => .error .unknownArgument
  | some (.inl f), none => p.flag f
  | some (.inl _), some _ => .error .surplusValue
  | some (.inr slot), none => p.settle.map fun p => { p with pending := some (slot, none) }
  | some (.inr slot), some v => p.settle.bind fun p =>
      (p.draft.fill slot v).map fun draft => { p with draft }

/-- Letters that name flags. -/
def letters (p : Progress) : List Char → Except UsageError Progress
  | [] => .ok p
  | c :: cs =>
    match shortName c with
    | none => .error .unknownArgument
    | some f => (p.flag f).bind fun p => p.letters cs

/-- A word that is neither an option nor the value of one. -/
def word (p : Progress) (w : String) : Except UsageError Progress :=
  if p.named then .error .unknownArgument
  else p.settle.map fun p => { p with pending := some (.program, some w), named := true }

/-- The next word. -/
def next (p : Progress) (w : String) : Except UsageError Progress :=
  if p.plain then p.word w
  else
    match w.toList with
    | ['-', '-'] => .ok { p with plain := true }
    | '-' :: '-' :: cs =>
      let name := cs.takeWhile (· != '=')
      match cs.drop name.length with
      | [] => p.long name none
      | _ :: value => p.long name (some (String.ofList value))
    | '-' :: c :: cs => p.letters (c :: cs)
    | _ =>
      match p.pending with
      | some (slot, none) => .ok { p with pending := some (slot, some w) }
      | _ => p.word w

/-- All words, one after another. -/
def all (p : Progress) : List String → Except UsageError Progress
  | [] => .ok p
  | w :: ws => (p.next w).bind fun p => p.all ws

/-- The end of the command line. -/
def finish (p : Progress) : Except UsageError Arguments := do
  let p ← p.settle
  match p.draft.program with
  | none => .error .missingProgram
  | some program =>
    .ok { program, config := p.draft.config, mute := p.draft.mute, trace := p.draft.trace,
          dump := p.draft.dump }

end Progress

end CommandLine

/-- The arguments of the words behind the name of the program that reads them. -/
def Arguments.parse (words : List String) : Except UsageError Arguments :=
  ({} : CommandLine.Progress).all words |>.bind CommandLine.Progress.finish

end Chip8
