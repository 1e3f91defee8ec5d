import Depot.Assoc
import Depot.Files.Store
import Depot.Number.Decimal

/-!
# Files on a disk

A store in the manner of a disk with a working directory. A path is walked part by part: a single
dot stays where it is, a double dot goes up, every part but the last one must be a directory, and a
slash after the last name asks for a directory. A file needs a directory to stand in.

## Main definitions

* `Disk` : the files and directories by their place, and the working directory.
* `Disk.route`, `Disk.locate` : the place that a path leads to.
* `Disk.createDirs` : a directory with those above it.
-/

namespace Depot

/-- A place on a disk: the names from the root down to it. -/
abbrev Place := List String

/-- The files and directories of a disk, and the directory where relative paths start. -/
structure Disk where
  files : Assoc Place Bytes
  dirs : List Place
  working : Place
  deriving DecidableEq, Repr

/-- Where a path leads to. -/
structure Spot where
  place : Place
  /-- The path ends in a name, not in a dot, a double dot or the root. -/
  named : Bool
  /-- A slash follows the last name. -/
  slashed : Bool
  deriving DecidableEq, Repr

/-- What is at a place. -/
inductive Entry
  | file (bytes : Bytes)
  | directory
  | nothing
  deriving DecidableEq, Repr

namespace Disk

/-- A fault with the number that the system gives it. -/
def systemFault (kind : IoFaultKind) (text : String) (number : Nat) : IoFault :=
  ⟨kind, text ++ " (os error " ++ Number.text number ++ ")"⟩

/-- The fault of naming nothing. -/
def notFound : IoFault := systemFault .notFound "No such file or directory" 2

/-- The fault of a name that is taken. -/
def alreadyExists : IoFault := systemFault .alreadyExists "File exists" 17

/-- The fault of naming a file where a directory is needed. -/
def notADirectory : IoFault := systemFault .notADirectory "Not a directory" 20

/-- The fault of naming a directory where a file is needed. -/
def isADirectory : IoFault := systemFault .isADirectory "Is a directory" 21

/-- The greatest number of bytes of a name. -/
abbrev longestName : Nat := 255

/-- The fault of a name that is too long. -/
def nameTooLong : IoFault := systemFault .invalidFilename "File name too long" 36

/-- The fault of a path with a zero byte. -/
def zeroByte : IoFault := ⟨.invalidInput, "file name contained an unexpected NUL byte"⟩

/-- The fault of reading bytes that are no text. -/
def invalidText : IoFault := ⟨.invalidData, "stream did not contain valid UTF-8"⟩

/-- A disk with an empty working directory. -/
def withWorking (working : Place) : Disk :=
  ⟨[], (List.range (working.length + 1)).map working.take, working⟩

/-- Whether a place is a directory. -/
def hasDir (d : Disk) (place : Place) : Bool :=
  place ∈ d.dirs

/-- What is at a place. -/
def entry (d : Disk) (place : Place) : Entry :=
  if d.hasDir place then .directory
  else
    match d.files.get? place with
    | some bytes => .file bytes
    | none => .nothing

/-- The place above a place; the root is above itself. -/
def above (place : Place) : Place :=
  place.dropLast

/-- Follows the parts of a path from a directory. -/
def walk (d : Disk) (place : Place) : List (List Char) → Except IoFault Spot
  | [] => .ok ⟨place, false, false⟩
  | part :: rest =>
    if part = [] ∨ part = ['.'] then d.walk place rest
    else if part = ['.', '.'] then d.walk (above place) rest
    else
      let name := String.ofList part
      let next := place ++ [name]
      if rest.all (· == []) then .ok ⟨next, true, !rest.isEmpty⟩
      else if longestName < name.utf8ByteSize then .error nameTooLong
      else
        match d.entry next with
        | .directory => d.walk next rest
        | .file _ => .error notADirectory
        | .nothing => .error notFound

/-- The place that a path leads to, whose last name may be too long. -/
def route (d : Disk) (p : Path) : Except IoFault Spot :=
  if '\x00' ∈ p.text.toList then .error zeroByte
  else if p.text.isEmpty then .error notFound
  else if 4096 ≤ p.text.utf8ByteSize then .error nameTooLong
  else d.walk (if p.isAbsolute then [] else d.working) p.parts

/-- A spot, unless its name is too long. -/
def withinLength (spot : Spot) : Except IoFault Spot :=
  if longestName < (spot.place.getLast?.getD "").utf8ByteSize then .error nameTooLong else .ok spot

/-- The place that a path leads to. -/
def locate (d : Disk) (p : Path) : Except IoFault Spot :=
  (d.route p).bind withinLength

/-- What a path names. -/
def look (d : Disk) (p : Path) : Except IoFault Entry := do
  let spot ← d.locate p
  match d.entry spot.place, spot.slashed with
  | .file _, true => .error notADirectory
  | .nothing, _ => .error notFound
  | e, _ => .ok e

/-- Whether a path names a directory. -/
def isDir (d : Disk) (p : Path) : Bool :=
  match d.look p with
  | .ok .directory => true
  | _ => false

/-- The bytes of a file. -/
def bytesOf (d : Disk) (p : Path) : Except IoFault Bytes := do
  match ← d.look p with
  | .file bytes => .ok bytes
  | .directory => .error isADirectory
  | .nothing => .error notFound

/-- The text of a file. -/
def textOf (d : Disk) (p : Path) : Except IoFault String := do
  match Bytes.toText? (← d.bytesOf p) with
  | some text => .ok text
  | none => .error invalidText

/-- The disk with new bytes for a file. A path that asks for a directory is refused before the
length of its last name is looked at. -/
def write (d : Disk) (p : Path) (bytes : Bytes) : Except IoFault Disk := do
  let spot ← d.route p
  if !spot.named || spot.slashed || d.hasDir spot.place then .error isADirectory
  else
    let spot ← withinLength spot
    .ok { d with files := d.files.insert spot.place bytes }

/-- The disk without a file. -/
def remove (d : Disk) (p : Path) : Except IoFault Disk := do
  let spot ← d.locate p
  match spot.named, d.entry spot.place, spot.slashed with
  | false, _, _ | _, .directory, _ => .error isADirectory
  | _, .nothing, _ => .error notFound
  | _, .file _, true => .error notADirectory
  | _, .file _, false => .ok { d with files := d.files.erase spot.place }

/-- The disk with one more directory. -/
def createDir (d : Disk) (p : Path) : Except IoFault Disk := do
  let spot ← d.locate p
  match spot.named, d.entry spot.place with
  | true, .nothing => .ok { d with dirs := d.dirs ++ [spot.place] }
  | _, _ => .error alreadyExists

/-- The disk with a directory, which may be there already. -/
def ensureDir (d : Disk) (p : Path) : Except IoFault Disk :=
  match d.createDir p with
  | .ok d => .ok d
  | .error fault => if d.isDir p then .ok d else .error fault

/-- A step that changes the disk where it succeeds. -/
def changing (step : Disk → Except IoFault Disk) : StateM Disk (Except IoFault Unit) := fun d =>
  match step d with
  | .ok d => (.ok (), d)
  | .error fault => (.error fault, d)

/-- Creates a directory and the missing ones above it. -/
def createDirs (p : Path) : StateM Disk (Except IoFault Unit) :=
  createWithAbove (fun p => changing fun d => d.ensureDir p) p (p.text.length + 1)

/-- The names of the directories directly below a directory. -/
def listDirs (d : Disk) (p : Path) : Except IoFault (List String) := do
  let spot ← d.locate p
  match ← d.look p with
  | .directory =>
    .ok (d.dirs.filterMap fun dir =>
      if dir ≠ [] ∧ dir.dropLast = spot.place then dir.getLast? else none).mergeSort
  | _ => .error notADirectory

instance : FileStore (StateM Disk) where
  has p := fun d => ((d.look p).isOk, d)
  isFile p := fun d => ((d.bytesOf p).isOk, d)
  createDirs := createDirs
  readText p := fun d => (d.textOf p, d)
  write p bytes := changing fun d => d.write p bytes
  remove p := changing fun d => d.remove p
  readBytes p := fun d => (d.bytesOf p, d)
  create p := changing fun d => d.write p []
  append p bytes := changing fun d => do d.write p ((← d.bytesOf p) ++ bytes)
  listDirs p := fun d => (d.listDirs p, d)

end Disk

end Depot
