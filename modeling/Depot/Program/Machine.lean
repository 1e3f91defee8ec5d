import Depot.Files.Disk
import Depot.Http.Scripted
import Depot.Program.Command

/-!
# Machines

A machine to run the program on: a disk and a scripted network. Nobody waits on it, and every draw
is zero.

## Main definitions

* `Machine` : the machines.
* `Machine.filesBelow` : the files below a place.
-/

namespace Depot

/-- A machine. -/
structure Machine where
  disk : Disk
  network : ScriptedNetwork
  deriving DecidableEq, Repr

namespace Machine

instance : FileStore (StateM Machine) :=
  FileStore.within Machine.disk fun disk machine => { machine with disk }

instance : Network (StateM Machine) where
  send r := onPart Machine.network (fun network machine => { machine with network })
    (Network.send r)

instance : Clock (StateM Machine) where
  draw := pure 0
  wait _ := pure ()

instance : Transports (StateM Machine) :=
  HttpClient.transports none

/-- The files below a place, by the names that lead down to them from there. -/
def filesBelow (machine : Machine) (place : Place) : List (Place × Bytes) :=
  machine.disk.files.filterMap fun (p, bytes) =>
    if place.isPrefixOf p then some (p.drop place.length, bytes) else none

end Machine

end Depot
