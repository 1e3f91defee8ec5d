import Depot.Assoc
import Depot.Files.Store

/-!
# Files in memory

A store that keeps its files and directories in lists under the keys of their paths, so that all
spellings of a path name the same file. A file needs no directory to stand in. Rules can make an
operation fail on purpose: on every path or on one, always or for its next calls only.

## Main definitions

* `MemoryFiles` : the files, the directories and the rules.
* `MemoryFiles.put`, `MemoryFiles.putDir` : a file or a directory with all directories above it.
* `FaultRule` : the operations that fail on purpose.
-/

namespace Depot

/-- The operations that a rule can make fail. -/
inductive FileOp
  | createDirs
  | readText
  | write
  | remove
  | openFile
  | create
  | listDirs
  /-- Appending to a created file. -/
  | writeStream
  /-- Reading from an opened file. -/
  | readStream
  deriving DecidableEq, Repr

/-- A rule that makes an operation fail: on one path if there is a key, and for its next `times`
calls if there is a number. -/
structure FaultRule where
  op : FileOp
  key : Option PathKey
  times : Option Nat
  deriving DecidableEq, Repr

/-- Whether a rule makes an operation on a key fail. -/
def FaultRule.applies (rule : FaultRule) (op : FileOp) (key : PathKey) : Bool :=
  rule.op = op && (rule.key.isNone || rule.key = some key) && rule.times != some 0

/-- Whether the first applicable rule makes an operation fail, and the rules after its use. -/
def FaultRule.useFirst (op : FileOp) (key : PathKey) : List FaultRule → Bool × List FaultRule
  | [] => (false, [])
  | rule :: rules =>
    if rule.applies op key then (true, { rule with times := rule.times.map (· - 1) } :: rules)
    else
      let (fails, rest) := useFirst op key rules
      (fails, rule :: rest)

/-- Files and directories in memory, and the rules for operations that fail on purpose. -/
structure MemoryFiles where
  files : Assoc PathKey Bytes
  dirs : List PathKey
  rules : List FaultRule
  deriving DecidableEq, Repr

namespace MemoryFiles

/-- The fault of an operation that fails on purpose. -/
def injected : IoFault := ⟨.other, "injected failure"⟩

/-- The fault of naming nothing. -/
def notFound : IoFault := ⟨.notFound, "not found"⟩

/-- The fault of naming a file where a directory is needed. -/
def notADirectory : IoFault := ⟨.notADirectory, "not a directory"⟩

/-- The fault of naming a directory where a file is needed. -/
def isADirectory : IoFault := ⟨.isADirectory, "is a directory"⟩

/-- The fault of reading bytes that are no text. -/
def invalidText : IoFault := ⟨.invalidData, "invalid utf-8"⟩

/-- The store without files. -/
def empty : MemoryFiles := ⟨[], [], []⟩

instance : Inhabited MemoryFiles := ⟨empty⟩

/-- The store with more directories. -/
def addDirs (s : MemoryFiles) (keys : List PathKey) : MemoryFiles :=
  { s with dirs := keys.foldl (fun dirs key => if dirs.contains key then dirs else dirs ++ [key]) s.dirs }

/-- The store with a directory and all directories above it. A path without components names none. -/
def putDir (s : MemoryFiles) (p : Path) : MemoryFiles :=
  if p.key = [] then s else s.addDirs (PathKey.ancestors p.key ++ [p.key])

/-- The store with new bytes for a file. -/
def setFile (s : MemoryFiles) (key : PathKey) (bytes : Bytes) : MemoryFiles :=
  { s with files := s.files.insert key bytes }

/-- The store with a file and all directories above it. -/
def put (s : MemoryFiles) (p : Path) (bytes : Bytes) : MemoryFiles :=
  (s.setFile p.key bytes).addDirs (PathKey.ancestors p.key)

/-- The store without a file. -/
def eraseFile (s : MemoryFiles) (key : PathKey) : MemoryFiles :=
  { s with files := s.files.erase key }

/-- Whether a key names a file. -/
def hasFile (s : MemoryFiles) (key : PathKey) : Bool :=
  s.files.contains key

/-- Whether a key names a directory. -/
def hasDir (s : MemoryFiles) (key : PathKey) : Bool :=
  s.dirs.contains key

/-- A computation that fails when a rule says so. -/
def guarded {α : Type} (op : FileOp) (p : Path) (run : StateM MemoryFiles (Except IoFault α)) :
    StateM MemoryFiles (Except IoFault α) := fun s =>
  let (fails, rules) := FaultRule.useFirst op p.key s.rules
  let s := { s with rules }
  if fails then (.error injected, s) else run s

/-- The bytes of a file. -/
def bytesOf (s : MemoryFiles) (key : PathKey) : Except IoFault Bytes :=
  if s.hasDir key then .error isADirectory
  else
    match s.files.get? key with
    | some bytes => .ok bytes
    | none => .error notFound

/-- The text of a file. -/
def textOf (s : MemoryFiles) (key : PathKey) : Except IoFault String :=
  (s.bytesOf key).bind fun bytes =>
    match Bytes.toText? bytes with
    | some text => .ok text
    | none => .error invalidText

/-- Creates a directory and those above it, unless one of them is a file. -/
def createDirs (p : Path) : StateM MemoryFiles (Except IoFault Unit) :=
  guarded .createDirs p fun s =>
    let keys := PathKey.ancestors p.key ++ [p.key]
    if p.key = [] then (.ok (), s)
    else if keys.any s.hasFile then (.error notADirectory, s)
    else (.ok (), s.addDirs keys)

/-- Sets the bytes of a file, unless the path names a directory. -/
def setUnlessDir (p : Path) (bytes : Bytes) : StateM MemoryFiles (Except IoFault Unit) := fun s =>
  if s.hasDir p.key then (.error isADirectory, s) else (.ok (), s.setFile p.key bytes)

/-- Removes a file. -/
def remove (p : Path) : StateM MemoryFiles (Except IoFault Unit) :=
  guarded .remove p fun s =>
    if s.hasDir p.key then (.error isADirectory, s)
    else if s.hasFile p.key then (.ok (), s.eraseFile p.key)
    else (.error notFound, s)

/-- Opens a file and reads it; the rule on reading counts only where the file could be opened. -/
def readBytes (p : Path) : StateM MemoryFiles (Except IoFault Bytes) :=
  guarded .openFile p fun s =>
    match s.bytesOf p.key with
    | .ok bytes => guarded .readStream p (fun s => (.ok bytes, s)) s
    | .error fault => (.error fault, s)

/-- Appends bytes to a file. -/
def append (p : Path) (bytes : Bytes) : StateM MemoryFiles (Except IoFault Unit) :=
  guarded .writeStream p fun s =>
    (.ok (), s.setFile p.key ((s.files.get? p.key).getD [] ++ bytes))

/-- The names of the directories directly below a key, in order. -/
def dirNames (s : MemoryFiles) (key : PathKey) : List String :=
  (s.dirs.filterMap fun dir =>
    if dir.length = key.length + 1 ∧ dir.take key.length = key then dir.getLast? else none).mergeSort

/-- The names of the directories directly below a directory. -/
def listDirs (p : Path) : StateM MemoryFiles (Except IoFault (List String)) :=
  guarded .listDirs p fun s =>
    if s.hasFile p.key then (.error notADirectory, s)
    else if s.hasDir p.key then
      (.ok ((s.dirNames p.key).filter fun name => name != PathKey.root), s)
    else (.error notFound, s)

instance : FileStore (StateM MemoryFiles) where
  has p := fun s => (s.hasFile p.key || s.hasDir p.key, s)
  isFile p := fun s => (s.hasFile p.key, s)
  createDirs := createDirs
  readText p := guarded .readText p fun s => (s.textOf p.key, s)
  write p bytes := guarded .write p (setUnlessDir p bytes)
  remove := remove
  readBytes := readBytes
  create p := guarded .create p (setUnlessDir p [])
  append := append
  listDirs := listDirs

end MemoryFiles

end Depot
