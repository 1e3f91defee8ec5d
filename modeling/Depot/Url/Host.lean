import Depot.Url.Address
import Depot.Url.Domain
import Depot.Url.Percent

/-!
# Hosts

The host of a URL is a domain name, an address, or, under a scheme that this library knows nothing
of, any text.

## Main definitions

* `Host`, `Host.text` : the hosts and their texts.
* `Host.parse?`, `Host.opaque?` : the host that a text denotes under a known scheme and under
  another one.
-/

namespace Depot

/-- The host of a URL. -/
inductive Host
  | domain (name : String)
  | four (address : Nat)
  | eight (pieces : List Nat)
  deriving DecidableEq, Repr

namespace Host

/-- The text of a host in a URL. -/
def text : Host → String
  | domain name => name
  | four address => Address.fourText address
  | eight pieces => "[" ++ Address.eightText pieces ++ "]"

/-- The domain name or address of four bytes that a text denotes. -/
def ofDomain? (cs : List Char) : Option Host :=
  (Domain.ascii? cs).bind fun name =>
    if name.isEmpty then none
    else if Address.endsInNumber name then (Address.four? name).map four
    else some (domain (String.ofList name))

/-- The address of eight pieces that a text between brackets denotes. -/
def ofBrackets? (cs : List Char) : Option Host :=
  if cs.getLast? = some ']' then (Address.eight? cs.dropLast).map eight else none

/-- The host that a text denotes under a known scheme. Bytes that are no text are refused. -/
def parse? : List Char → Option Host
  | '[' :: rest => ofBrackets? rest
  | cs =>
    if '%' ∈ cs then
      (Percent.decodeText? (String.ofList cs)).bind fun s => ofDomain? s.toList
    else ofDomain? cs

/-- The characters that no host contains. -/
def forbidden (c : Char) : Bool :=
  c ∈ "\x00\t\n\r #/:<>?@[\\]^|".toList

/-- The host that a text denotes under a scheme of which nothing is known. -/
def opaque? : List Char → Option Host
  | '[' :: rest => ofBrackets? rest
  | cs =>
    if cs.any forbidden then none
    else some (domain (String.ofList (Percent.encode Percent.controlSet cs)))

end Host

end Depot
