import Depot.Text.Blank

/-!
# Hosts of the object store

The hosts of the object store have one of two shapes. A *service host* ends in a service name, some
optional words, an optional region and the domain; an *endpoint host* ends in the name of a private
endpoint, a region and its own domain. In front of either a bucket may stand.

A bucket of a service host is as long as possible, one of an endpoint host is as short as possible.
An optional word is taken where the rest of the host allows it.

## Main definitions

* `HostParts` : the bucket and the region of a host, each perhaps empty.
* `HostParts.ofHost?` : the parts of a host of either shape.
-/

namespace Depot.ObjectStore

/-- The bucket and the region that a host names. An empty one is not named. -/
structure HostParts where
  bucket : List Char
  region : List Char
  deriving DecidableEq, Repr

/-- Whether a character may stand in a region or in the name of an endpoint. -/
def isRegionChar (c : Char) : Bool :=
  ('a' ≤ c && c ≤ 'z') || ('0' ≤ c && c ≤ '9') || c == '-'

/-- Reads on after the first of the words that the text begins with, or without a word if that
fails. -/
def optionally {α : Type} (words : List String) (read : List Char → Option α) (cs : List Char) :
    Option α :=
  (words.findSome? fun word => (Text.afterBeginning word.toList cs).bind read).or (read cs)

/-- The run of region characters at the front of a text, if it is not empty, and what follows a dot
after it. -/
def regionAndRest? (cs : List Char) : Option (List Char × List Char) :=
  match cs.takeWhile isRegionChar, cs.dropWhile isRegionChar with
  | c :: run, '.' :: rest => some (c :: run, rest)
  | _, _ => none

/-- Whether a text is the domain of a service host. -/
def isDomain (cs : List Char) : Bool :=
  cs = "amazonaws.com".toList || cs = "amazonaws.com.cn".toList

/-- The region before the domain, or no region where the domain comes at once. -/
def regionAtEnd? (cs : List Char) : Option (List Char) :=
  let withRegion := (regionAndRest? cs).bind fun (region, rest) =>
    if isDomain rest then some region else none
  withRegion.or (if isDomain cs then some [] else none)

/-- The region of a service host without a bucket. -/
def serviceRegion? (cs : List Char) : Option (List Char) :=
  let words :=
    optionally ["website-", "website."] <|
      optionally ["accelerate."] <|
        optionally ["dualstack-", "dualstack."] regionAtEnd?
  match cs with
  | 's' :: '3' :: c :: rest => if c = '.' ∨ c = '-' then words rest else none
  | _ => none

/-- The region of an endpoint host without a bucket; the word `bucket` in front of the name of the
endpoint is no bucket. -/
def endpointRegion? (cs : List Char) : Option (List Char) :=
  optionally ["bucket."] named cs
where
  /-- The region of a host that begins with the name of the endpoint. -/
  named (cs : List Char) : Option (List Char) := do
    let (_, rest) ← regionAndRest? (← Text.afterBeginning "vpce-".toList cs)
    let (region, rest) ← regionAndRest? (← Text.afterBeginning "s3.".toList rest)
    if rest = "vpce.amazonaws.com".toList then some region else none

/-- All ways to cut a text at a dot with something before it, the shortest front first. -/
def dotSplits : List Char → List (List Char × List Char)
  | [] => []
  | c :: rest =>
    let later := (dotSplits rest).map fun (front, back) => (c :: front, back)
    match rest with
    | '.' :: back => ([c], back) :: later
    | _ => later

/-- The parts of a host whose back is of a given shape, taking the first cut that works. -/
def firstCut? (region? : List Char → Option (List Char)) (cuts : List (List Char × List Char)) :
    Option HostParts :=
  cuts.findSome? fun (front, back) => (region? back).map fun region => ⟨front, region⟩

/-- The parts of an endpoint host. -/
def endpointParts? (host : List Char) : Option HostParts :=
  ((endpointRegion? host).map fun region => ⟨[], region⟩).or
    (firstCut? endpointRegion? (dotSplits host))

/-- The parts of a service host. -/
def serviceParts? (host : List Char) : Option HostParts :=
  (firstCut? serviceRegion? (dotSplits host).reverse).or
    ((serviceRegion? host).map fun region => ⟨[], region⟩)

/-- The parts of a host of either shape. -/
def HostParts.ofHost? (host : List Char) : Option HostParts :=
  (endpointParts? host).or (serviceParts? host)

end Depot.ObjectStore
