import Depot.Url.Reader

/-!
# Requests and responses

A request asks for a URL, perhaps only if the tag of the resource is another one. A response has a
status, headers and a body, which may break off. Of several headers of one name the first counts;
blanks about a value do not.

## Main definitions

* `HttpRequest`, `HttpResponse` : requests and responses.
* `HttpResponse.headerText?` : the value of a header that is text.
* `HttpRequest.tagIsSendable` : whether a tag can stand in a header.
-/

namespace Depot

/-- A request. -/
structure HttpRequest where
  url : Url
  /-- Ask only if the resource has another tag. -/
  tag : Option String
  deriving DecidableEq, Repr

/-- A response. -/
structure HttpResponse where
  status : Nat
  headers : List (String × String)
  body : Bytes
  /-- The body has come to its end. -/
  complete : Bool
  deriving DecidableEq, Repr

/-- The name and the version by which requests are known to servers. -/
def userAgent : String :=
  "artifact-fetch/0.1.0 (+https://github.com/fierce/artifact-fetch)"

/-- The URL of a request as it is sent: without a fragment. -/
def HttpRequest.target (r : HttpRequest) : String :=
  r.url.withoutFragment.text

/-- Whether a tag can stand in a header: a tab is its only control character. -/
def HttpRequest.tagIsSendable (tag : String) : Bool :=
  tag.toList.all fun c => c = '\t' || !Percent.controlSet c

namespace HttpResponse

/-- Whether the status says that all is well. -/
def isSuccess (r : HttpResponse) : Bool :=
  200 ≤ r.status && r.status < 300

/-- Whether a character is a blank or a tab. -/
def isHeaderBlank (c : Char) : Bool :=
  c = ' ' || c = '\t'

/-- A header value without the blanks about it. -/
def trimmedValue (value : String) : List Char :=
  let cs := value.toList.dropWhile isHeaderBlank
  (cs.reverse.dropWhile isHeaderBlank).reverse

/-- The value of a header. Names are equal up to case. -/
def header? (r : HttpResponse) (name : String) : Option (List Char) :=
  (r.headers.find? fun (n, _) => Text.eqIgnoringAsciiCase n name).map fun (_, v) => trimmedValue v

/-- The value of a header, if it has only visible characters of ASCII, blanks and tabs, and is not
empty. -/
def headerText? (r : HttpResponse) (name : String) : Option String :=
  ((r.header? name).filter fun cs =>
    !cs.isEmpty && cs.all fun c => c = '\t' || (0x20 ≤ c.toNat && c.toNat < 0x7F)).map String.ofList

end HttpResponse

end Depot
