import Depot.Fetch.Fault
import Depot.ObjectStore.Location

/-!
# Transports

A transport makes one request for a resource. With a tag the request is conditional: the server may
answer that the tag still names its current version. Otherwise the answer has a body, which comes in
chunks and may break off.

## Main definitions

* `Reply` : the answers.
* `Transports` : the two transports of a download.
-/

namespace Depot

/-- The body of an answer: its chunks, and the fault in which it breaks off, if it does. -/
structure Body where
  chunks : List Bytes
  fault : Option FetchFault
  deriving DecidableEq, Repr

/-- All bytes of a body that arrive. -/
def Body.bytes (b : Body) : Bytes :=
  b.chunks.flatten

/-- The answer to a request. -/
inductive Reply
  | notModified
  | modified (tag : Option String) (body : Body)
  deriving DecidableEq, Repr

/-- The transports of a download. The tag of a conditional request comes last. -/
class Transports (m : Type → Type) where
  /-- Asks for a URL. -/
  getUrl : String → Option String → m (Except FetchFault Reply)
  /-- Asks for an object. -/
  getObject : ObjectLocation → Option String → m (Except FetchFault Reply)

end Depot
