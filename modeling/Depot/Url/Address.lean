import Depot.Digest.Bytes
import Depot.Number.Decimal
import Depot.Text.Blank

/-!
# Network addresses in URLs

An address of four bytes is written as up to four numbers between dots, in decimal, octal or
hexadecimal digits; the last number fills all bytes that are left. An address of eight pieces is
written in hexadecimal numbers between colons, where two colons stand for a run of zeros and the
last two pieces may be an address of four bytes.

## Main definitions

* `Address.endsInNumber` : whether a domain is meant as an address.
* `Address.four?`, `Address.fourText` : reading and writing addresses of four bytes.
* `Address.eight?`, `Address.eightText` : reading and writing addresses of eight pieces.
-/

namespace Depot.Address

/-- The value of a digit in a base. -/
def digitIn? (base : Nat) (c : Char) : Option Nat :=
  (Digest.hexValue? c).filter (· < base)

/-- The value of a run of digits in a base, after digits of the value `value`. -/
def readIn (base value : Nat) : List Char → Option Nat
  | [] => some value
  | c :: rest => (digitIn? base c).bind fun d => readIn base (base * value + d) rest

/-- A part of an address: its base is told by how it begins. -/
def part? : List Char → Option Nat
  | [] => none
  | '0' :: 'x' :: rest | '0' :: 'X' :: rest => readIn 16 0 rest
  | '0' :: rest => readIn 8 0 rest
  | cs => readIn 10 0 cs

/-- The parts of a domain between its dots, without an empty one at the end. -/
def dotted (domain : List Char) : List (List Char) :=
  let parts := Text.splitAll '.' domain
  if 1 < parts.length ∧ parts.getLast? = some [] then parts.dropLast else parts

/-- Whether the last part of a domain is a number, so that the whole must be an address. -/
def endsInNumber (domain : List Char) : Bool :=
  match (dotted domain).getLast? with
  | none | some [] => false
  | some last => last.all Char.isDigit || (part? last).isSome

/-- The parts of an address below the last one, each a byte, with the last one for all bytes that
are left. -/
def combine (last : Nat) (others : List Nat) : Option Nat :=
  if others.any (255 < ·) ∨ Nat.pow 256 (4 - others.length) ≤ last then none
  else some (last + (others.zipIdx.map fun (n, i) => n * Nat.pow 256 (3 - i)).foldr (· + ·) 0)

/-- The address of four bytes that a domain denotes. -/
def four? (domain : List Char) : Option Nat :=
  let parts := dotted domain
  if 4 < parts.length then none
  else
    (parts.mapM part?).bind fun numbers =>
      numbers.getLast?.bind fun last => combine last numbers.dropLast

/-- The text of an address of four bytes. -/
def fourText (n : Nat) : String :=
  ".".intercalate ([n / Nat.pow 2 24, n / Nat.pow 2 16 % 256, n / 256 % 256, n % 256].map Number.text)

/-- A piece of one to four hexadecimal digits. -/
def piece? (cs : List Char) : Option Nat :=
  if cs.isEmpty ∨ 4 < cs.length then none else readIn 16 0 cs

/-- A byte in decimal digits, without a superfluous zero in front. -/
def byte? (cs : List Char) : Option Nat :=
  if cs.head? = some '0' ∧ cs ≠ ['0'] then none
  else (Number.natural? cs).filter (· < 256)

/-- The two pieces that an address of four bytes fills. -/
def embedded? (cs : List Char) : Option (List Nat) :=
  match (Text.splitAll '.' cs).mapM byte? with
  | some [a, b, c, d] => some [256 * a + b, 256 * c + d]
  | _ => none

/-- The pieces of a run between colons; at the end of the address, the last ones may be an address
of four bytes. -/
def pieces? (atEnd : Bool) (cs : List Char) : Option (List Nat) :=
  if cs.isEmpty then some []
  else
    let parts := Text.splitAll ':' cs
    match parts.getLast? with
    | some last =>
      if atEnd ∧ '.' ∈ last then do
        some ((← parts.dropLast.mapM piece?) ++ (← embedded? last))
      else parts.mapM piece?
    | none => none

/-- The parts before and after the first two colons in a row. -/
def splitColons : List Char → Option (List Char × List Char)
  | [] => none
  | ':' :: ':' :: rest => some ([], rest)
  | c :: rest => (splitColons rest).map fun (before, after) => (c :: before, after)

/-- The eight pieces that a text denotes. -/
def eight? (cs : List Char) : Option (List Nat) :=
  match splitColons cs with
  | none => (pieces? true cs).filter (·.length = 8)
  | some (before, after) => do
    let front ← pieces? false before
    let back ← pieces? true after
    if 7 < front.length + back.length then none
    else some (front ++ List.replicate (8 - front.length - back.length) 0 ++ back)

/-- The lowercase hexadecimal digits of a number. -/
def hexDigits (n : Nat) : List Char :=
  if n < 16 then [Digest.hexDigit n] else hexDigits (n / 16) ++ [Digest.hexDigit (n % 16)]

/-- The length of the run of zeros at the front. -/
def zeros (pieces : List Nat) : Nat :=
  (pieces.takeWhile (· = 0)).length

/-- The place and the length of the first longest run of zeros. -/
def longestZeros (pieces : List Nat) : Nat × Nat :=
  (List.range pieces.length).foldl
    (fun best i => if best.2 < zeros (pieces.drop i) then (i, zeros (pieces.drop i)) else best)
    (0, 0)

/-- Pieces between colons. -/
def piecesText (pieces : List Nat) : String :=
  ":".intercalate (pieces.map fun n => String.ofList (hexDigits n))

/-- The text of an address of eight pieces: the longest run of zeros is left out. -/
def eightText (pieces : List Nat) : String :=
  let (i, n) := longestZeros pieces
  if n < 2 then piecesText pieces
  else piecesText (pieces.take i) ++ "::" ++ piecesText (pieces.drop (i + n))

end Depot.Address
