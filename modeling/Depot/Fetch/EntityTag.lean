import Depot.Fetch.Fault

/-!
# Entity tags beside files

A server names the version of what it serves by a tag. The tag of a downloaded file is kept in a
second file beside it, its *sidecar*, and is only of use while both are there.

## Main definitions

* `sidecar` : the path of the sidecar of a file.
* `EntityTag.load`, `EntityTag.store` : reading and writing the tag of a file.
* `EntityTag.forget`, `EntityTag.discard` : removing the sidecar, and the file with it.
-/

namespace Depot

/-- The sidecar of a file. -/
def sidecar (destination : Path) : Path :=
  destination.withFileName (destination.fileName?.getD "" ++ ".etag")

namespace EntityTag

variable {m : Type → Type} [Monad m] [FileStore m]

/-- The tag of a file, if both the file and its sidecar are there and the tag is not blank. -/
def load (destination : Path) : m (Option String) := do
  if !(← FileStore.has destination) then return none
  else if !(← FileStore.has (sidecar destination)) then return none
  else
    match ← FileStore.readText (sidecar destination) with
    | .ok text => return some (Text.trim text) |>.filter (· ≠ "")
    | .error _ => return none

/-- Keeps the tag of a file. -/
def store (destination : Path) (tag : String) : m (Except FetchFault Unit) := do
  match ← FileStore.write (sidecar destination) (Bytes.ofText tag) with
  | .ok () => return .ok ()
  | .error fault => return .error (.io (sidecar destination) fault)

/-- Removes a file if it is there, as far as possible. -/
def removeIfThere (path : Path) : m Unit := do
  if ← FileStore.has path then
    let _ ← FileStore.remove path

/-- Removes the sidecar of a file, as far as possible. -/
def forget (destination : Path) : m Unit :=
  removeIfThere (sidecar destination)

/-- Removes a file and its sidecar, as far as possible. -/
def discard (destination : Path) : m Unit := do
  removeIfThere destination
  forget destination

end EntityTag

end Depot
