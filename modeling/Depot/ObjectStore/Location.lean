import Depot.ObjectStore.HostShape
import Depot.Url.Reader

/-!
# Objects in the object store

An object has a key in a bucket, and the bucket lies in a region. A URL names an object when its
host is one of the object store; the bucket then comes from the host, or else from the front of the
path. In the other direction every object has a URL.

## Main definitions

* `ObjectLocation`, `ObjectLocation.ofUrl?` : the place of an object, and the one that a URL names.
* `ObjectLocation.isComplete` : bucket, key and region are there.
* `objectUrl` : the URL of an object.
* `resolveLocation` : an `s3://` location as a URL of a region.
-/

namespace Depot

/-- The place of an object. -/
structure ObjectLocation where
  /-- The bucket was named by the path, not by the host. -/
  isPathStyle : Bool
  bucket : String
  key : String
  region : String
  deriving DecidableEq, Repr

namespace ObjectStore

/-- The region of a host that names none. -/
abbrev defaultRegion : String := "us-east-1"

/-- The region that a host names: no region and an old alias both stand for the default. -/
def regionOf (named : String) : String :=
  if named = "" ∨ named = "external-1" then defaultRegion else named

/-- The text that a path stands for. A path whose bytes are no text stands for itself. -/
def decodedPath (path : String) : String :=
  (Percent.decodeText? path).getD path

/-- A path without the slash in front. -/
def withoutSlash : List Char → List Char
  | '/' :: rest => rest
  | cs => cs

/-- The bucket up to the first slash of a path, and the key after it. -/
def bucketAndKey (path : List Char) : List Char × List Char :=
  (Text.splitOnce '/' path).getD (path, [])

/-- The place that the parts of a host and a path name. -/
def locationOf (parts : HostParts) (path : String) : ObjectLocation :=
  let region := regionOf (String.ofList parts.region)
  let path := withoutSlash (decodedPath path).toList
  if parts.bucket.isEmpty then
    let (bucket, key) := bucketAndKey path
    ⟨true, String.ofList bucket, String.ofList key, region⟩
  else ⟨false, String.ofList parts.bucket, String.ofList path, region⟩

/-- A key with every segment encoded and the slashes kept. -/
def encodedKey (key : String) : String :=
  String.ofList (key.toList.flatMap fun c =>
    if c = '/' then ['/'] else Percent.encodeChar Percent.reservedSet c)

/-- The domain of the hosts of a region. -/
def domainOf (region : String) : String :=
  if Text.beginsWith "cn-".toList region.toList then "amazonaws.com.cn" else "amazonaws.com"

end ObjectStore

open ObjectStore

/-- The place of the object that a URL names. -/
def ObjectLocation.ofUrl? (text : String) : Option ObjectLocation := do
  let url ← Url.parse? text
  let host ← url.hostText?
  let parts ← HostParts.ofHost? host.toList
  some (locationOf parts url.path.text)

/-- Whether a place has a bucket, a key and a region. -/
def ObjectLocation.isComplete (l : ObjectLocation) : Bool :=
  !l.bucket.isEmpty && !l.key.isEmpty && !l.region.isEmpty

/-- The text that shows where an object is. -/
def ObjectLocation.text (l : ObjectLocation) : String :=
  "s3://" ++ l.bucket ++ "/" ++ l.key ++ " (" ++ l.region ++ ")"

/-- The text that shows what a URL names. -/
def ObjectLocation.textOf : Option ObjectLocation → String
  | some l => l.text
  | none => "<not an object-storage URL>"

/-- The URL of an object. With an endpoint the bucket is the front of the path. Without one the
bucket is the front of the host, unless it contains a dot, which the certificates of the hosts do
not cover. -/
def objectUrl (endpoint : Option String) (bucket key region : String) : String :=
  match endpoint with
  | some endpoint => Text.trimEndOf '/' endpoint ++ "/" ++ bucket ++ "/" ++ encodedKey key
  | none =>
    let region := if region.isEmpty then defaultRegion else region
    let service := "s3." ++ region ++ "." ++ domainOf region ++ "/"
    if '.' ∈ bucket.toList then "https://" ++ service ++ bucket ++ "/" ++ encodedKey key
    else "https://" ++ bucket ++ "." ++ service ++ encodedKey key

/-- A location with the scheme `s3` as a URL of a region; another location stays. -/
def resolveLocation (location region : String) : String :=
  match Text.afterBeginning "s3://".toList location.toList with
  | some rest =>
    let region := if region.isEmpty then defaultRegion else region
    "https://s3." ++ region ++ ".amazonaws.com/" ++ String.ofList rest
  | none => location

end Depot
