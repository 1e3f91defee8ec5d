import Depot.Digest.Bytes
import Depot.Path

/-!
# File stores

A file store is a place with files and directories. Its operations either do their work or fail
with a fault that has a kind and a text. Everything above this module reaches files through these
operations alone, in whatever context provides them.

## Main definitions

* `IoFault` : why an operation failed.
* `FileStore` : the operations of a store.
* `createWithAbove` : creating a directory with those above it.
* `FileStore.within` : a store as a part of a larger state.
-/

namespace Depot

/-- The kinds of fault of a file operation. -/
inductive IoFaultKind
  | notFound
  | notADirectory
  | isADirectory
  | alreadyExists
  | invalidData
  | invalidFilename
  | invalidInput
  | other
  deriving DecidableEq, Repr, Inhabited

/-- A fault of a file operation: its kind, and the text in which the store reports it. -/
structure IoFault where
  kind : IoFaultKind
  text : String
  deriving DecidableEq, Repr, Inhabited

/-- The operations of a file store. -/
class FileStore (m : Type → Type) where
  /-- Whether a path names a file or a directory. -/
  has : Path → m Bool
  /-- Whether a path names a file. -/
  isFile : Path → m Bool
  /-- Creates a directory and the missing ones above it. -/
  createDirs : Path → m (Except IoFault Unit)
  /-- The text of a file. -/
  readText : Path → m (Except IoFault String)
  /-- Creates or replaces a file with the given bytes. -/
  write : Path → Bytes → m (Except IoFault Unit)
  /-- Removes a file. -/
  remove : Path → m (Except IoFault Unit)
  /-- Opens a file and reads it to its end. -/
  readBytes : Path → m (Except IoFault Bytes)
  /-- Creates a file, or empties it, so that bytes can be appended. -/
  create : Path → m (Except IoFault Unit)
  /-- Appends bytes to a file that was created before. -/
  append : Path → Bytes → m (Except IoFault Unit)
  /-- The names of the directories directly below a directory, in order. -/
  listDirs : Path → m (Except IoFault (List String))

/-- Creates a directory with the missing ones above it, by a step that creates a single one. Every
step up takes a part off the path. -/
def createWithAbove {m : Type → Type} [Monad m] (create : Path → m (Except IoFault Unit))
    (p : Path) : Nat → m (Except IoFault Unit)
  | 0 => return .ok ()
  | fuel + 1 => do
    if p.text.isEmpty then return .ok ()
    else
      match ← create p with
      | .ok () => return .ok ()
      | .error fault =>
        if fault.kind ≠ .notFound then return .error fault
        else
          match p.parent? with
          | none => return .error ⟨.other, "failed to create whole tree"⟩
          | some dir =>
            match ← createWithAbove create dir fuel with
            | .error fault => return .error fault
            | .ok () => create p

/-- A computation on a part of a state, as one on the whole. -/
def onPart {σ φ α : Type} (part : σ → φ) (replace : φ → σ → σ) (run : StateM φ α) : StateM σ α :=
  fun s =>
    let (a, p) := run.run (part s)
    (a, replace p s)

/-- A store that is a part of a larger state. -/
@[reducible] def FileStore.within {σ φ : Type} [FileStore (StateM φ)] (part : σ → φ)
    (replace : φ → σ → σ) : FileStore (StateM σ) where
  has p := onPart part replace (has p)
  isFile p := onPart part replace (isFile p)
  createDirs p := onPart part replace (createDirs p)
  readText p := onPart part replace (readText p)
  write p bytes := onPart part replace (write p bytes)
  remove p := onPart part replace (remove p)
  readBytes p := onPart part replace (readBytes p)
  create p := onPart part replace (create p)
  append p bytes := onPart part replace (append p bytes)
  listDirs p := onPart part replace (listDirs p)

end Depot
