import Chip8.Sink
import Chip8.Source

set_option relaxedAutoImplicit false
set_option autoImplicit false

/-!
# Storage

A working directory and the little that is known of the directories around it: which names can
be opened for reading, which can be made, and what is in them afterwards.

A name is a path of parts with slashes between them. It is walked from the root if it begins with
a slash and from the working directory otherwise, and every part but the last must lead to a
directory. A name that ends with a slash, or with a part of dots, can only be that of a directory.

## Main definitions

* `Chip8.Storage` — what the places stand for.
* `Chip8.Storage.walk` — where a path leads.
* `Chip8.Storage.openFile`, `Chip8.Storage.createFile` — open for reading, make or empty.
* `Chip8.Storage.source`, `Chip8.Storage.sink` — what is read and written.
* `Chip8.Storage.put` — bytes are written into a file.
-/

namespace Chip8

/-- What is at a place. -/
inductive Node where
  /-- A file with its bytes. -/
  | file (bytes : List UInt8)
  /-- A directory, and why no file can be made in it, if that is so. -/
  | directory (refusal : Option OsError := none)
  /-- A device that gives nothing and takes everything. -/
  | nullDevice
  /-- A device that takes nothing. -/
  | fullDevice
  /-- The error output. -/
  | errorOutput
  deriving DecidableEq, Repr

/-- The way to a place from the root, part by part. -/
abbrev Place := List String

/-- What is at the places where there is something. -/
structure Storage where
  /-- The places with what is there. -/
  nodes : List (Place × Node)
  deriving DecidableEq, Repr

namespace Storage

/-! ## Places -/

/-- The working directory. -/
def home : Place := ["tmp", "work"]

/-- The directories that are everywhere. -/
def usualDirectories : List Place :=
  [[], ["tmp"], home, ["dev", "fd"], ["dev", "pts"], ["dev", "shm"], ["etc"], ["bin"], ["boot"],
    ["dev"], ["home"], ["lib"], ["lib64"], ["media"], ["mnt"], ["opt"], ["root"], ["run"],
    ["sbin"], ["srv"], ["usr"], ["usr", "bin"], ["usr", "lib"], ["usr", "local"],
    ["usr", "sbin"], ["usr", "share"], ["var"], ["var", "lib"], ["var", "log"], ["var", "tmp"]]

/-- The devices that are everywhere, and the directories in which nothing can be made. -/
def usualDevices : List (Place × Node) :=
  [(["proc"], .directory (some .notFound)),
    (["sys"], .directory (some .permissionDenied)),
    (["dev", "null"], .nullDevice),
    (["dev", "full"], .fullDevice),
    (["dev", "stderr"], .errorOutput),
    (["dev", "fd", "2"], .errorOutput)]

/-- A working directory that holds some files, and what is everywhere. -/
def ofFiles (files : List (String × List UInt8)) : Storage where
  nodes := files.map (fun (name, bytes) => (home ++ [name], .file bytes)) ++
    usualDirectories.map (fun place => (place, .directory)) ++ usualDevices

/-- What is at a place. -/
def find? (s : Storage) (place : Place) : Option Node :=
  s.nodes.lookup place

/-- The storage with something else at a place. -/
def replace (s : Storage) (place : Place) (node : Node) : Storage :=
  ⟨(place, node) :: s.nodes.filter fun entry => entry.1 != place⟩

/-! ## Names -/

/-- The greatest number of bytes in a part of a name. -/
def longestPart : Nat := 255

/-- The greatest number of bytes in a name. -/
def longestName : Nat := 4095

/-- Whether a part names no place of its own in a directory. -/
def isDots (part : String) : Bool :=
  part == "." || part == ".."

/-- Where a part leads from a place, which must be a directory. Nothing need be there. -/
def enter (s : Storage) (place : Place) (part : String) : Except OsError Place :=
  match s.find? place with
  | some (.directory _) =>
    if part = "" ∨ part = "." then .ok place
    else if part = ".." then .ok place.dropLast
    else if longestPart < part.utf8ByteSize then .error .nameTooLong
    else .ok (place ++ [part])
  | some _ => .error .notADirectory
  | none => .error .notFound

/-- Where a path leads from a place. -/
def walk (s : Storage) (place : Place) : List String → Except OsError Place
  | [] => .ok place
  | part :: path => (s.enter place part).bind fun place => s.walk place path

/-- Where the walk along a name begins. -/
def origin (name : String) : Place :=
  if name.startsWith "/" then [] else home

/-- The parts of a name. -/
def parts (name : String) : Except OsError (List String) :=
  if longestName < name.utf8ByteSize then .error .nameTooLong else .ok (name.splitOn "/")

/-! ## Opening and making -/

/-- Open a name for reading. -/
def openFile (s : Storage) (name : String) : Except OsError Place := do
  let place ← s.walk (origin name) (← parts name)
  match s.find? place with
  | some _ => .ok place
  | none => .error .notFound

/-- Make a file in a directory, or empty the one there is. -/
def createAt (s : Storage) (directory place : Place) : Except OsError (Place × Storage) :=
  match s.find? place with
  | some (.directory _) => .error .isADirectory
  | some (.file _) => .ok (place, s.replace place (.file []))
  | some _ => .ok (place, s)
  | none =>
    match s.find? directory with
    | some (.directory (some refusal)) => .error refusal
    | _ => .ok (place, s.replace place (.file []))

/-- Make a file, or empty the one there is. The last part of its name must name a place of its
own, with no slash behind it. -/
def createFile (s : Storage) (name : String) : Except OsError (Place × Storage) := do
  let reversed := (← parts name).reverse
  match reversed.dropWhile (· == "") with
  | [] => .error .isADirectory
  | last :: before =>
    let directory ← s.walk (origin name) (before.reverse ++ ["."])
    if isDots last || reversed.head? == some "" then .error .isADirectory
    else s.createAt directory (← s.enter directory last)

/-! ## Reading and writing -/

/-- What can be read at a place that was opened. -/
def source (s : Storage) (place : Place) : Source :=
  match s.find? place with
  | some (.file bytes) => .ofBytes bytes
  | some (.directory _) => .failing (.os .isADirectory)
  | _ => .ofBytes []

/-- The size of the buffer in front of a file. -/
def bufferSize : Nat := 8192

/-- What can be written at a place that was made: to a full device, only what stays in the
buffer. -/
def sink (s : Storage) (place : Place) : Sink :=
  match s.find? place with
  | some .fullDevice =>
    { capacity := some bufferSize, refusal := .os .storageFull, buffer := bufferSize }
  | _ => { buffer := bufferSize }

/-- The storage after bytes were written into the file at a place, over what was there from
`start` on. -/
def put (s : Storage) (place : Place) (start : Nat) (bytes : List UInt8) : Storage :=
  match s.find? place with
  | some (.file old) =>
    s.replace place (.file (old.take start ++ bytes ++ old.drop (start + bytes.length)))
  | _ => s

/-- The part of some bytes that comes out on the error output when they are written to a place. -/
def spilled (s : Storage) (place : Place) (bytes : List UInt8) : List UInt8 :=
  if s.find? place = some .errorOutput then bytes else []

/-- The bytes of a file in the working directory, if the name stands for one. -/
def contents? (s : Storage) (name : String) : Option (List UInt8) :=
  match s.find? (home ++ [name]) with
  | some (.file bytes) => some bytes
  | _ => none

end Storage

end Chip8
