import Chip8.Terminal.Event
import Chip8.Text.Decimal
import Chip8.Text.Utf8

set_option relaxedAutoImplicit false
set_option autoImplicit false

/-!
# Terminal sequences

A terminal in raw mode sends bytes: characters in UTF-8, control characters, and escape
sequences for other keys and for things that are no keys. This module says what a run of bytes
means. An escape character with nothing behind it is the escape key; before another character it
is ignored, and before a second one it is the escape key as well.

A sequence that begins with an escape character and an opening bracket mostly has parameters,
which are numbers with semicolons between them, and a final byte that says what they are about.
What is wrong with a sequence shows at its last byte, so that it is dropped as a whole, with two
exceptions: the third byte must be one that begins a sequence at all, and the fourth must name a
key if the third is another bracket.

## Main definitions

* `Chip8.Reading` — what a run of bytes means so far.
* `Chip8.Reading.ofSequence` — a sequence behind an escape character and a bracket.
* `Chip8.Reading.ofBytes` — any run of bytes.
-/

namespace Chip8

/-- What a run of bytes means so far. -/
inductive Reading where
  /-- Something a reader comes upon. -/
  | signal (s : Signal)
  /-- The beginning of something. -/
  | incomplete
  /-- Nothing. -/
  | invalid
  deriving DecidableEq, Repr

namespace Reading

/-- An event, with nothing missing. -/
def event (e : TerminalEvent) : Reading := .signal (.event e)

/-- A reading that makes sense only under a condition. -/
def onlyIf (condition : Bool) (r : Reading) : Reading :=
  if condition then r else .invalid

/-- The byte of an ASCII character. -/
def ascii (c : Char) : UInt8 := c.toUInt8

/-- Whether a byte is one of some ASCII characters. -/
def isOneOf (b : UInt8) (cs : String) : Bool :=
  cs.toList.any fun c => ascii c == b

/-- The character that begins every escape sequence. -/
def escapeByte : UInt8 := 0x1B

/-! ## Keys with a number -/

/-- Whether a number names a key in a sequence that ends with a tilde. -/
def isKeyNumber (n : Nat) : Bool :=
  n != 0 && n != 9 && n != 10 && n != 16 && n != 22 && n != 27 && n != 30 && n ≤ 34

/-- The keys of a keypad that type a character, in the order of their numbers. The key between
the plus sign and the equals sign ends a line. -/
def keypadKeys : List TerminalEvent :=
  "0123456789./*-+".toList.map .character ++ [.otherKey] ++ "=,".toList.map .character

/-- The first number of a key of a keypad. -/
def firstKeypadNumber : Nat := 57399

/-- The ranges of the numbers of keys that type nothing: locks and the like, the function keys
above the twelfth, and what moves about, plays music, or changes the meaning of other keys. -/
def silentKeyNumbers : List (Nat × Nat) := [(57358, 57363), (57376, 57398), (57417, 57454)]

/-- The key that has a number of its own in a sequence that ends with the letter u. -/
def numberedKey? (n : Nat) : Option TerminalEvent :=
  if silentKeyNumbers.any fun (first, last) => first ≤ n && n ≤ last then some .otherKey
  else if firstKeypadNumber ≤ n then keypadKeys[n - firstKeypadNumber]?
  else none

/-- The key that types a character, except that some characters are not typed but ask for
something. -/
def characterKey (c : Char) : TerminalEvent :=
  if c = '\x1b' then .escape
  else if c = '\r' ∨ c = '\t' ∨ c = '\x7f' then .otherKey
  else .character c

/-- The key of a number in a sequence that ends with the letter u: one that has a number of its
own, or the one that types the character with this code point. -/
def ofKeyCode (n : Nat) : Reading :=
  match numberedKey? n with
  | some key => event key
  | none => onlyIf n.isValidChar (event (characterKey (Char.ofNat n)))

/-! ## Parameters -/

/-- Whether the second parameter tells which modifiers are held: a byte, perhaps with more
behind a colon. -/
def hasModifiers : List String → Bool
  | _ :: modifiers :: _ =>
    (Decimal.natural? 0xFF ((modifiers.splitOn ":").headD "")).isSome
  | _ => false

/-- Whether a number encodes a button of a mouse and what is done with it. -/
def isButton (n : Nat) : Bool :=
  (n &&& 3) + (n &&& 0xC0) / 16 ≤ 5

/-- Whether the parameters are a position: two 16-bit numbers, whatever is behind them. -/
def isPosition : List String → Bool
  | x :: y :: _ => (Decimal.natural? 0xFFFF x).isSome && (Decimal.natural? 0xFFFF y).isSome
  | _ => false

/-- Whether the parameters are a button, encoded with `base` added, and a position. -/
def isMouse (base : Nat) : List String → Bool
  | button :: position =>
    match Decimal.natural? 0xFF button with
    | some n => base ≤ n && isButton (n - base) && isPosition position
    | none => false
  | [] => false

/-- What encoded buttons begin at where they are sent as characters. -/
def buttonBase : Nat := 32

/-- A sequence with a text of parameters and a final byte. -/
def ofText (text : String) (final : UInt8) : Reading :=
  let parameters := text.splitOn ";"
  let first (bound : Nat) := Decimal.natural? bound (parameters.headD "")
  if isOneOf final "M" then onlyIf (isMouse buttonBase parameters) (event .other)
  else if isOneOf final "~" then onlyIf ((first 0xFF).any isKeyNumber) (event .otherKey)
  else if isOneOf final "u" then
    match first 0xFFFFFFFF with
    | some n => ofKeyCode n
    | none => .invalid
  else if isOneOf final "R" then onlyIf (isPosition parameters) (.signal .pause)
  else
    onlyIf (isOneOf final "ABCDFHPQS" &&
      (hasModifiers parameters || text.toList.getLast?.any Char.isDigit)) (event .otherKey)

/-- A sequence with the bytes of its parameters and a final byte. -/
def ofParameters (body : List UInt8) (final : UInt8) : Reading :=
  match Utf8.text? body with
  | some text => ofText text final
  | none => .invalid

/-! ## Sequences -/

/-- Whether a byte can be the final one of a sequence. -/
def isFinal (b : UInt8) : Bool := 64 ≤ b && b ≤ 126

/-- What stands in front of a pasted text, behind the bracket. -/
def pasteStart : List UInt8 := "200~".toList.map ascii

/-- What stands behind a pasted text. -/
def pasteEnd : List UInt8 := escapeByte :: "[201~".toList.map ascii

/-- A sequence whose first parameter begins with a digit. A final byte inside a pasted text ends
nothing. -/
def ofNumbers (bytes : List UInt8) : Reading :=
  match bytes.tail.getLast? with
  | none => .incomplete
  | some final =>
    if !isFinal final then .incomplete
    else if pasteStart.isPrefixOf bytes then
      if pasteEnd.isSuffixOf bytes then event .other else .incomplete
    else ofParameters bytes.dropLast final

/-- What a mouse does, in three bytes. -/
def ofMouseBytes : List UInt8 → Reading
  | button :: _ :: _ :: _ =>
    onlyIf (buttonBase ≤ button.toNat && isButton (button.toNat - buttonBase)) (event .other)
  | _ => .incomplete

/-- What a mouse does, in numbers with the letter m in either case behind them. -/
def ofMouseNumbers (bytes : List UInt8) : Reading :=
  match bytes.getLast? with
  | none => .incomplete
  | some final =>
    if isOneOf final "mM" then
      match Utf8.text? bytes.dropLast with
      | some text => onlyIf (isMouse 0 (text.splitOn ";")) (event .other)
      | none => .invalid
    else .incomplete

/-- A function key in an old encoding. -/
def ofOldFunctionKey : List UInt8 → Reading
  | [] => .incomplete
  | b :: _ => onlyIf (isOneOf b "ABCDE") (event .otherKey)

/-- A sequence behind an escape character and an opening bracket. -/
def ofSequence : List UInt8 → Reading
  | [] => .incomplete
  | b :: rest =>
    if isOneOf b "[" then ofOldFunctionKey rest
    else if isOneOf b "ABCDFHZ" then event .otherKey
    else if isOneOf b "IO" then event .other
    else if isOneOf b "M" then ofMouseBytes rest
    else if isOneOf b "<" then ofMouseNumbers rest
    else if isOneOf b "0123456789" then ofNumbers (b :: rest)
    else .invalid

/-- A key behind an escape character and the letter O. -/
def ofLetterO : List UInt8 → Reading
  | [] => .incomplete
  | b :: _ => onlyIf (isOneOf b "ABCDFHPQRS") (event .otherKey)

/-! ## All bytes -/

/-- Bytes that begin with one that is no control character. -/
def ofUtf8 (bytes : List UInt8) : Reading :=
  match Utf8.readChar bytes with
  | .complete c => event (.character c)
  | .incomplete => .incomplete
  | .invalid => .invalid

/-- A control character: those that are typed together with the control key are the character
that is typed with it. -/
def ofControl (b : UInt8) : TerminalEvent :=
  if b = 0x0D ∨ b = 0x09 ∨ b = 0x7F then .otherKey
  else if b = 0 then .character ' '
  else if b < escapeByte then .character (Char.ofNat (b.toNat + 96))
  else .character (Char.ofNat (b.toNat - 0x1C + 52))

/-- What a run of bytes means so far. `more` tells whether others are waiting behind it. -/
def ofBytes (more : Bool) : List UInt8 → Reading
  | [] => .incomplete
  | b :: rest =>
    if b = escapeByte then
      match rest with
      | [] => if more then .incomplete else event .escape
      | c :: rest' =>
        if isOneOf c "O" then ofLetterO rest'
        else if isOneOf c "[" then ofSequence rest'
        else if c = escapeByte then event .escape
        else ofBytes more (c :: rest')
    else if b < 0x20 ∨ b = 0x7F then event (ofControl b)
    else ofUtf8 (b :: rest)

end Reading

end Chip8
