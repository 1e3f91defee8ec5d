import Depot.Digest.Bytes

/-!
# Percent-encoding

A byte is encoded as a percent sign and two capital hexadecimal digits. Encoding a text takes a set
of ASCII characters that need it; characters outside ASCII always do. Decoding leaves a percent
sign alone that no two digits follow.

## Main definitions

* `Percent.encode` : a text with the characters of a set encoded.
* `Percent.decode`, `Percent.decodeText?` : the bytes that a text stands for, and their text.
* `Percent.controlSet`, `Percent.pathSet` and others : the sets of the parts of a URL.
-/

namespace Depot.Percent

/-- The capital hexadecimal digit of a number below sixteen. -/
def digit (n : Nat) : Char :=
  if n < 10 then Char.ofNat (48 + n) else Char.ofNat (55 + n)

/-- The encoded form of a byte. -/
def encodeByte (b : UInt8) : List Char :=
  ['%', digit (b.toNat / 16), digit (b.toNat % 16)]

/-- The encoded form of a character, if it is in the set or outside ASCII. -/
def encodeChar (set : Char → Bool) (c : Char) : List Char :=
  if c.toNat < 128 && !set c then [c] else (String.utf8EncodeChar c).flatMap encodeByte

/-- A text with the characters of a set encoded. -/
def encode (set : Char → Bool) (cs : List Char) : List Char :=
  cs.flatMap (encodeChar set)

/-- The bytes that encoded bytes stand for. -/
def decode : Bytes → Bytes
  | 0x25 :: high :: low :: rest =>
    match Digest.hexValue? (Char.ofNat high.toNat), Digest.hexValue? (Char.ofNat low.toNat) with
    | some h, some l => UInt8.ofNat (16 * h + l) :: decode rest
    | _, _ => 0x25 :: decode (high :: low :: rest)
  | b :: rest => b :: decode rest
  | [] => []

/-- The text that an encoded text stands for, if its bytes are one. -/
def decodeText? (s : String) : Option String :=
  Bytes.toText? (decode (Bytes.ofText s))

/-! ### Sets -/

/-- The control characters. -/
def controlSet (c : Char) : Bool :=
  c.toNat < 0x20 || c.toNat == 0x7F

/-- The characters that a fragment encodes. -/
def fragmentSet (c : Char) : Bool :=
  controlSet c || c == ' ' || c == '"' || c == '<' || c == '>' || c == '`'

/-- The characters that a query encodes. -/
def querySet (c : Char) : Bool :=
  controlSet c || c == ' ' || c == '"' || c == '#' || c == '<' || c == '>'

/-- The characters that the query of a special URL encodes. -/
def specialQuerySet (c : Char) : Bool :=
  querySet c || c == '\''

/-- The characters that a path encodes. -/
def pathSet (c : Char) : Bool :=
  fragmentSet c || c == '#' || c == '?' || c == '{' || c == '}'

/-- The characters that a user name or a password encodes. -/
def userinfoSet (c : Char) : Bool :=
  pathSet c || c == '/' || c == ':' || c == ';' || c == '=' || c == '@' || c == '[' || c == '\\' ||
    c == ']' || c == '^' || c == '|'

/-- All characters but letters, digits and the marks `-`, `.`, `_` and `~`. -/
def reservedSet (c : Char) : Bool :=
  !(c.isAlphanum || c == '-' || c == '.' || c == '_' || c == '~')

end Depot.Percent
