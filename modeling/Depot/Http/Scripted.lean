import Depot.Http.Client

/-!
# Scripted networks

A network for trying out clients: every request goes to a proxy that answers from a script and
writes down what it is asked. A request under the scheme `https` asks the proxy for a tunnel; the
far end of a tunnel always closes before it has shown who it is. Without a way to the proxy no
request gets through.

## Main definitions

* `ScriptedNetwork` : the networks.
* `ScriptedNetwork.Script` : what the proxy does with a request.
-/

namespace Depot

namespace ScriptedNetwork

/-- What the proxy does with a request. -/
inductive Script
  | respond (r : HttpResponse)
  | drop
  deriving DecidableEq, Repr

/-- What the proxy was asked. -/
inductive Asked
  | resource (r : HttpRequest)
  | tunnel (authority : String)
  deriving DecidableEq, Repr

end ScriptedNetwork

/-- A scripted network: whether the proxy can be reached, the rest of the script, and what has been
asked so far. -/
structure ScriptedNetwork where
  reachable : Bool
  script : List ScriptedNetwork.Script
  asked : List ScriptedNetwork.Asked
  deriving DecidableEq, Repr

namespace ScriptedNetwork

/-- The network that cannot be reached. -/
def unreachable : ScriptedNetwork := ⟨false, [], []⟩

/-- The causes for not reaching the proxy on behalf of a URL. -/
def unreachableCauses (u : Url) : List String :=
  let tunnel :=
    if u.scheme = "https" then ["tunnel error: failed to create underlying connection"] else []
  "client error (Connect)" :: tunnel ++
    ["tcp connect error", "Network is unreachable (os error 101)"]

/-- What the proxy does at the end of the script. -/
def unscripted : Script :=
  .respond ⟨599, [], [], true⟩

/-- The host and the port that a URL leads to. -/
def authority (u : Url) : String :=
  (u.hostText?.getD "") ++ ":" ++ Number.text (u.effectivePort?.getD 0)

/-- What becomes of a request for a tunnel. -/
def tunnelAnswer : Script → NetworkAnswer
  | .drop => .failed ["client error (Connect)", "tunnel error: unexpected end of file"]
  | .respond r =>
    if r.isSuccess then .failed ["client error (Connect)", "tls handshake eof"]
    else .failed ["client error (Connect)", "tunnel error: unsuccessful"]

/-- What becomes of a request for a resource. -/
def resourceAnswer : Script → NetworkAnswer
  | .drop => .failed ["client error (SendRequest)", "connection closed before message completed"]
  | .respond r => .response r

/-- A request to the proxy. -/
def request (r : HttpRequest) (n : ScriptedNetwork) : NetworkAnswer × ScriptedNetwork :=
  if !n.reachable then (.failed (unreachableCauses r.url), n)
  else
    let next := n.script.headD unscripted
    let rest := n.script.tail
    if r.url.scheme = "https" then
      (tunnelAnswer next, ⟨true, rest, n.asked ++ [.tunnel (authority r.url)]⟩)
    else (resourceAnswer next, ⟨true, rest, n.asked ++ [.resource r]⟩)

instance : Network (StateM ScriptedNetwork) where
  send := request

end ScriptedNetwork

end Depot
