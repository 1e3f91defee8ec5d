import Depot.Unicode.Composed
import Depot.Unicode.Direction
import Depot.Unicode.DomainTable
import Depot.Unicode.Joining
import Depot.Url.Punycode

/-!
# Domain names

A domain name is a list of labels between dots. In a URL it is written in ASCII: letters become
small letters, other characters are brought to the form that domain names use, and a label that is
not all ASCII is written in Punycode behind a mark. A label that carries the mark already must be
the written form of a label that needs it.

## Main definitions

* `Domain.ascii?` : the form of a domain name in ASCII, if it is one.
* `Domain.forbidden` : the ASCII characters that no domain name contains.
-/

namespace Depot.Domain

/-- The ASCII characters that no domain name contains. -/
def forbidden (c : Char) : Bool :=
  c.toNat ≤ 0x20 || c.toNat == 0x7F || c ∈ "%#/:<>?@[\\]^|".toList

/-- The mark in front of a label in Punycode. -/
def mark : List Char := "xn--".toList

/-- Whether a label is all ASCII. -/
def isAscii (cs : List Char) : Bool :=
  cs.all (·.toNat < 128)

/-- Whether a domain name needs no more than small letters: it is all ASCII and no label carries the
mark. -/
def isPlain (cs : List Char) : Bool :=
  isAscii cs && (Text.splitAll '.' cs).all fun label => !Text.beginsWith mark label

/-- A label in the characters that are meant, and whether it came in Punycode. -/
def meaning? (label : List Char) : Option (List Char × Bool) :=
  match Text.afterBeginning mark label with
  | none => some (label, false)
  | some rest =>
    (Punycode.decode? rest).bind fun cs =>
      if isAscii cs || Punycode.encode cs != rest then none else some (cs, true)

/-- Whether a label that is not all ASCII may stand in a domain name. -/
def isValid (label : List Char) : Bool :=
  isAscii label ||
    (label.all (fun c => Unicode.domainForm? c = some [c]) && Unicode.composed label = label &&
      !(label.head?.map Unicode.isMark).getD false && Unicode.joinersInPlace label)

/-- A label in ASCII. -/
def labelText (label : List Char) : List Char :=
  if isAscii label then label else mark ++ Punycode.encode label

/-- A domain name in ASCII, taken label by label. -/
def general? (cs : List Char) : Option (List Char) := do
  let mapped ← cs.mapM Unicode.domainForm?
  let labels := Text.splitAll '.' (Unicode.composed mapped.flatten)
  let meant ← labels.mapM meaning?
  let names := meant.map Prod.fst
  if !names.all isValid then none
  else if names.any Unicode.writtenLeft && !names.all Unicode.keepsDirection then none
  else some (['.'].intercalate (names.map labelText))

/-- The form of a domain name in ASCII. -/
def ascii? (cs : List Char) : Option (List Char) :=
  let lower := cs.map Char.toLower
  ((if isPlain lower then some lower else general? cs)).filter fun name => !name.any forbidden

end Depot.Domain
