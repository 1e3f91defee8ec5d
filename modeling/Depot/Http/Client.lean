import Depot.Fetch.Transport
import Depot.Http.Message

/-!
# Asking over HTTP

A client sends requests over a network and follows redirects, at most ten of them. What it asks for
is a URL, or an object of the object store; a bucket that lives in another region is asked for there
once more.

The faults of a failed request name the URL that was asked for first.

## Main definitions

* `Network` : a network that carries requests.
* `HttpClient.get` : asking for a URL.
* `HttpClient.getObject` : asking for an object.
* `HttpClient.transports` : both as transports of a download.
-/

namespace Depot

/-- What becomes of a request. -/
inductive NetworkAnswer
  | response (r : HttpResponse)
  /-- The request did not get through, for causes of which the outermost comes first. -/
  | failed (causes : List String)
  /-- No response came in time. -/
  | silent
  deriving DecidableEq, Repr

/-- A network that carries requests. -/
class Network (m : Type → Type) where
  send : HttpRequest → m NetworkAnswer

namespace HttpClient

/-- How many redirects are followed. -/
abbrev maxRedirects : Nat := 10

/-- Whether a URL can be asked for. -/
def isWeb (u : Url) : Bool :=
  u.scheme = "http" || u.scheme = "https"

/-- The URL without a user whose name can be sent in a header instead. -/
def withoutSentUser (u : Url) : Url :=
  let password := u.password.bind fun p => Percent.decodeText? p
  match Percent.decodeText? u.username with
  | some name => if name ≠ "" ∨ password.isSome then u.withoutUser else u
  | none => u

/-- The URL that a redirect leads to. -/
def redirectTarget? (current : Url) (r : HttpResponse) : Option Url :=
  if r.status ∈ [301, 302, 303, 307, 308] then
    (r.header? "location").bind fun location => current.join? (String.ofList location)
  else none

/-- The words for a request for a URL that did not get through. -/
def sendingError (first : Url) : String :=
  "error sending request for url (" ++ first.text ++ ")"

/-- The causes of refusing to ask for a URL. -/
def refusal (u : Url) : List String :=
  ["builder error for url (" ++ u.text ++ ")", "URL scheme is not allowed"]

/-- What a client does after a request: it is done, or it asks for another URL. -/
inductive Next
  | done (outcome : Except FetchFault HttpResponse)
  | redirect (url : Url)

/-- What a client does after the answer to a request for a URL. -/
def nextOf (asked : String) (first current : Url) : NetworkAnswer → Next
  | .silent => .done (.error (.timeout asked))
  | .failed causes => .done (.error (.network asked (sendingError first :: causes)))
  | .response r =>
    match redirectTarget? current r with
    | none => .done (.ok r)
    | some next =>
      if isWeb next then .redirect next else .done (.error (.network asked (refusal first)))

/-- The fault of one redirect too many. -/
def tooManyRedirects (asked : String) : FetchFault :=
  .network asked ["error following redirect", "too many redirects"]

variable {m : Type → Type} [Monad m] [Network m]

/-- The response to a request, after as many redirects as are left. -/
def follow (asked : String) (first : Url) (tag : Option String) :
    Nat → Url → m (Except FetchFault HttpResponse)
  | 0, current => do
    match nextOf asked first current (← Network.send ⟨current, tag⟩) with
    | .done outcome => return outcome
    | .redirect _ => return .error (tooManyRedirects asked)
  | left + 1, current => do
    match nextOf asked first current (← Network.send ⟨current, tag⟩) with
    | .done outcome => return outcome
    | .redirect next => follow asked first tag left next

/-- The response to a request for the URL that a text denotes. -/
def send (asked : String) (tag : Option String) : m (Except FetchFault HttpResponse) := do
  match Url.parse? asked with
  | none => return .error (.network asked ["builder error", "invalid URL"])
  | some u =>
    if u.hostText?.isNone then return .error (.network asked (refusal u))
    else if !(tag.map HttpRequest.tagIsSendable).getD true then
      return .error (.network asked ["builder error", "failed to parse header value"])
    else
      let u := withoutSentUser u
      if !isWeb u then return .error (.network asked (refusal u))
      else follow asked u tag maxRedirects u

/-- The body of a response, which breaks off when it is not complete. -/
def bodyOf (asked : String) (r : HttpResponse) : Body :=
  ⟨if r.body.isEmpty then [] else [r.body],
    if r.complete then none
    else some (.network asked
      ["error decoding response body", "end of file before message length reached"])⟩

/-- What a response says to a download. -/
def replyOf (asked : String) (r : HttpResponse) : Except FetchFault Reply :=
  if r.status = 304 then .ok .notModified
  else if r.isSuccess then .ok (.modified (r.headerText? "etag") (bodyOf asked r))
  else .error (.httpStatus asked r.status)

/-- Asks for a URL. -/
def get (asked : String) (tag : Option String) : m (Except FetchFault Reply) := do
  if (Url.parse? asked).isNone then return .error (.invalidUrl asked)
  else return (← send asked tag).bind (replyOf asked)

/-- The region where a bucket lives, if a response says that it is not the one asked. -/
def redirectRegion? (r : HttpResponse) (current : String) : Option String :=
  if r.status = 301 ∨ r.status = 307 then
    (r.headerText? "x-amz-bucket-region").filter (· ≠ current)
  else none

/-- Asks for an object. -/
def getObject (endpoint : Option String) (location : Option ObjectLocation) (tag : Option String) :
    m (Except FetchFault Reply) := do
  match location.filter ObjectLocation.isComplete with
  | none => return .error (.invalidUrl (ObjectLocation.textOf location))
  | some l =>
    let url := objectUrl endpoint l.bucket l.key l.region
    match ← send url tag with
    | .error fault => return .error fault
    | .ok r =>
      match redirectRegion? r l.region with
      | none => return replyOf url r
      | some region =>
        let url := objectUrl endpoint l.bucket l.key region
        return (← send url tag).bind (replyOf url)

/-- The transports of a download over a network. -/
@[reducible] def transports (endpoint : Option String) : Transports m where
  getUrl := get
  getObject l := getObject endpoint (some l)

end HttpClient

end Depot
