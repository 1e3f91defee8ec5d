import Depot.Lock
import Depot.Package.Fault
import Depot.Settings.Load

/-!
# Faults of a run

A run of the program fails while one of its tasks is under way. Its messages name the task first and
then go down to the cause.

## Main definitions

* `RunFault`, `RunFault.messages` : the faults and their messages.
* `RunFault.report` : what the program tells about a fault.
-/

namespace Depot

/-- Why a run of the program fails. -/
inductive RunFault
  | settings (fault : LoadFault)
  | manifest (path : Path) (fault : ManifestFault)
  | locked (fault : LockFault)
  | host (fault : ManifestFault)
  | variant (package : String) (fault : ManifestFault)
  | request (fault : ManifestFault)
  | download (source : String) (fault : FetchFault)
  | versions (component : String) (fault : ManifestFault)
  deriving DecidableEq, Repr

/-- The messages of a fault, the outermost first. -/
def RunFault.messages : RunFault → List String
  | settings fault => fault.messages
  | manifest path fault => ("Failed to load manifest '" ++ path.text ++ "'") :: fault.messages
  | locked fault => [fault.message]
  | host fault =>
    "Host detection failed; pass --platform, --os-version and --arch" :: fault.messages
  | variant package fault => ("No variant of '" ++ package ++ "' for this host") :: fault.messages
  | request fault => "Failed to build download request" :: fault.messages
  | download source fault => ("Failed to download '" ++ source ++ "'") :: fault.messages
  | versions component fault =>
    ("Failed to list versions of '" ++ component ++ "'") :: fault.messages

/-- Causes on lines of their own. Several causes are counted from zero. -/
def causeLines : List String → List String
  | [] => []
  | [cause] => ["", "Caused by:", "    " ++ cause]
  | causes =>
    "" :: "Caused by:" :: causes.mapIdx fun i cause =>
      let number := Number.text i
      String.ofList (List.replicate (5 - number.length) ' ') ++ number ++ ": " ++ cause

/-- What the program tells about a fault. -/
def RunFault.report (fault : RunFault) : String :=
  match fault.messages with
  | [] => "Error:"
  | message :: causes => "\n".intercalate (("Error: " ++ message) :: causeLines causes)

end Depot
