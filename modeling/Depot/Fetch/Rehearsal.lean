import Depot.Fetch.Download
import Depot.Files.Memory

/-!
# Rehearsed downloads

A download can be rehearsed without a disk, a network or a clock: the files are in memory, each
transport answers from a script, the draws of the retry sessions are given, and nobody waits. What
the transports were asked and how long the sessions would have waited is written down.

## Main definitions

* `Rehearsal` : the state of a rehearsal.
* `Rehearsal.Event` : what is written down.
-/

namespace Depot

/-- What happens during a rehearsal besides changes of files. -/
inductive Rehearsal.Event
  | askedUrl (url : String) (tag : Option String)
  | askedObject (location : ObjectLocation) (tag : Option String)
  | waited (ns : Nat)
  deriving DecidableEq, Repr

/-- The answer of a script to one request. -/
abbrev Rehearsal.Answer := Except FetchFault Reply

/-- The state of a rehearsal: the files, the answers that are left of each script, the draws that
are left, and what has happened so far. -/
structure Rehearsal where
  files : MemoryFiles
  urlAnswers : List Rehearsal.Answer
  objectAnswers : List Rehearsal.Answer
  draws : List Rat
  events : List Rehearsal.Event

namespace Rehearsal

/-- The status of an answer when the script is at its end. -/
abbrev unscripted : Nat := 599

/-- The next answer of a script, and the rest of it. -/
def nextAnswer (url : String) : List Answer → Answer × List Answer
  | [] => (.error (.httpStatus url unscripted), [])
  | answer :: rest => (answer, rest)

/-- The rehearsal with one more event. -/
def record (r : Rehearsal) (event : Event) : Rehearsal :=
  { r with events := r.events ++ [event] }

instance : FileStore (StateM Rehearsal) :=
  FileStore.within Rehearsal.files fun files r => { r with files }

instance : Clock (StateM Rehearsal) where
  draw := fun r => (r.draws.headD 0, { r with draws := r.draws.tail })
  wait ns := fun r => ((), r.record (.waited ns))

instance : Transports (StateM Rehearsal) where
  getUrl url tag := fun r =>
    let (answer, urlAnswers) := nextAnswer url r.urlAnswers
    (answer, { r with urlAnswers }.record (.askedUrl url tag))
  getObject location tag := fun r =>
    let (answer, objectAnswers) := nextAnswer location.text r.objectAnswers
    (answer, { r with objectAnswers }.record (.askedObject location tag))

end Rehearsal

end Depot
