import Depot.Digest.Sha1
import Depot.Fetch.Checksum
import Depot.Fetch.EntityTag
import Depot.Fetch.Retry
import Depot.Fetch.Transport
import Depot.Package.Manifest

/-!
# Downloads

A download brings a source to a file on this machine and verifies it. A source that is a file
already stays where it is. Any other one is kept in the destination directory under a name that is
computed from its URL alone. A URL that names an object is asked for in the object store first, and
over HTTP when that fails; each transport has a retry session of its own.

One attempt sends the tag of the file that is there. The answer that the tag is current leaves the
file alone. Any other answer first replaces the tag and then the file; when the attempt fails, both
are removed, so that no tag ever stands beside a file that it does not name.

## Main definitions

* `FetchSettings` : the settings of downloads.
* `conditionalFetch` : one attempt.
* `fetchRemote` : the retry sessions of a source that is not on this machine.
* `download` : a download.
-/

namespace Depot

/-- The settings of downloads. Times are in nanoseconds. -/
structure FetchSettings where
  downloadRoot : Path
  initialInterval : Nat
  maxRetries : Nat
  connectTimeout : Nat
  readTimeout : Nat
  deriving DecidableEq, Repr

/-- A downloaded file. -/
structure FetchResult where
  path : Path
  /-- The file was written by this download. -/
  updated : Bool
  verification : Verification
  deriving DecidableEq, Repr

/-- The name under which a source is kept. -/
def contentAddress (source : String) : String :=
  Digest.hexText (Digest.Sha1.digest (Bytes.ofText source))

variable {m : Type → Type} [Monad m] [FileStore m]

/-! ### Writing a body -/

/-- How many bytes are collected before they are handed on. -/
abbrev writeBuffer : Nat := 8192

/-- Hands bytes on to a file, if there are any. -/
def handOn (destination : Path) (bytes : Bytes) : m (Except FetchFault Unit) := do
  if bytes.isEmpty then return .ok ()
  else
    match ← FileStore.append destination bytes with
    | .ok () => return .ok ()
    | .error fault => return .error (.io destination fault)

/-- Takes a chunk after the bytes that are pending, and hands on what the buffer does not hold. -/
def takeChunk (destination : Path) (pending chunk : Bytes) : m (Except FetchFault Bytes) := do
  let full := writeBuffer < pending.length + chunk.length
  match ← (if full then handOn destination pending else pure (.ok ())) with
  | .error fault => return .error fault
  | .ok () =>
    let pending := if full then [] else pending
    if chunk.length < writeBuffer then return .ok (pending ++ chunk)
    else
      match ← handOn destination chunk with
      | .error fault => return .error fault
      | .ok () => return .ok pending

/-- Writes the chunks of a body. What is pending when the body breaks off is lost. -/
def writeChunks (destination : Path) (broken : Option FetchFault) (pending : Bytes) :
    List Bytes → m (Except FetchFault Unit)
  | [] =>
    match broken with
    | some fault => return .error fault
    | none => handOn destination pending
  | chunk :: rest => do
    match ← takeChunk destination pending chunk with
    | .error fault => return .error fault
    | .ok pending => writeChunks destination broken pending rest

/-- Replaces the tag of a file: without a new tag there is none. -/
def replaceTag (destination : Path) : Option String → m (Except FetchFault Unit)
  | some tag => EntityTag.store destination tag
  | none => do
    EntityTag.forget destination
    return .ok ()

/-- Replaces the tag of a file, and then the file. -/
def writeBody (destination : Path) (tag : Option String) (body : Body) :
    m (Except FetchFault Unit) := do
  match ← replaceTag destination tag with
  | .error fault => return .error fault
  | .ok () =>
    match ← FileStore.create destination with
    | .error fault => return .error (.io destination fault)
    | .ok () => writeChunks destination body.fault [] body.chunks

/-! ### Attempts and sessions -/

/-- One attempt with a request that is handed the tag of the file. The result says whether the file
was written. -/
def conditionalFetch (destination : Path)
    (request : Option String → m (Except FetchFault Reply)) : m (Except FetchFault Bool) := do
  let tag ← EntityTag.load destination
  match ← request tag with
  | .ok .notModified => return .ok false
  | .ok (.modified tag body) =>
    match ← writeBody destination tag body with
    | .ok () => return .ok true
    | .error fault =>
      EntityTag.discard destination
      return .error fault
  | .error fault =>
    EntityTag.discard destination
    return .error fault

variable [Clock m] [Transports m]

/-- The object that a URL names, if the object store can be asked for it. -/
def storedObject? (url : String) : Option ObjectLocation :=
  (ObjectLocation.ofUrl? url).filter ObjectLocation.isComplete

/-- The session over HTTP. -/
def fetchUrl (s : Schedule) (url : String) (destination : Path) : m (Except FetchFault Bool) :=
  retrying s (conditionalFetch destination (Transports.getUrl url))

/-- The session of the object store. -/
def fetchObject (s : Schedule) (location : ObjectLocation) (destination : Path) :
    m (Except FetchFault Bool) :=
  retrying s (conditionalFetch destination (Transports.getObject location))

/-- Brings a source that is not on this machine to its file. -/
def fetchRemote (settings : FetchSettings) (url : String) (destination : Path) :
    m (Except FetchFault Bool) := do
  match Schedule.make? settings.initialInterval settings.maxRetries with
  | .error fault => return .error (.schedule fault)
  | .ok s =>
    match storedObject? url with
    | none => fetchUrl s url destination
    | some location =>
      match ← fetchObject s location destination with
      | .ok updated => return .ok updated
      | .error _ => fetchUrl s url destination

/-! ### Downloads -/

/-- The file that a source names by a URL of the scheme `file`. -/
def fileOfUrl? (source : String) : Option Path :=
  ((Url.parse? source).filter fun u => u.scheme = "file").bind fun u =>
    u.filePath?.map Path.mk

omit [Clock m] [Transports m] in
/-- The file on this machine that a source names by its path or its URL. -/
def localSource? (source : String) : m (Option Path) := do
  if ← FileStore.isFile ⟨source⟩ then return some ⟨source⟩
  else
    match fileOfUrl? source with
    | none => return none
    | some path => if ← FileStore.isFile path then return some path else return none

omit [Clock m] [Transports m] in
/-- Verifies a file that a download has brought or found. -/
def verified (checksums : Dict String) (path : Path) (updated : Bool) :
    m (Except FetchFault FetchResult) := do
  match ← verifyChecksums checksums path with
  | .ok verification => return .ok ⟨path, updated, verification⟩
  | .error fault => return .error (.verification path fault)

/-- The directory of a download. -/
def destinationDir (settings : FetchSettings) (request : FetchRequest) : Path :=
  request.destination.getD settings.downloadRoot

/-- The file of a download from another machine. -/
def destinationFile (settings : FetchSettings) (request : FetchRequest) : Path :=
  (destinationDir settings request).join (contentAddress request.source)

/-- Brings a source to a file and verifies it. -/
def download (settings : FetchSettings) (request : FetchRequest) :
    m (Except FetchFault FetchResult) := do
  let dir := destinationDir settings request
  match ← FileStore.createDirs dir with
  | .error fault => return .error (.io dir fault)
  | .ok () =>
    match ← localSource? request.source with
    | some path => verified request.checksums path false
    | none =>
      let destination := destinationFile settings request
      match ← fetchRemote settings request.source destination with
      | .error fault => return .error fault
      | .ok updated => verified request.checksums destination updated

end Depot
