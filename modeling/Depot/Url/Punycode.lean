import Depot.Text.Blank

/-!
# Punycode

A label of a domain name that is not all ASCII is written in ASCII letters and digits: first its
ASCII characters, then, after a hyphen, the places of the others in ascending order of their code
points. A place is a count of steps, written in base 36 with as few digits as a moving threshold
allows.

## Main definitions

* `Punycode.encode`, `Punycode.decode?` : the two directions.
-/

namespace Depot.Punycode

/-- The digit of a number below 36: the letters first, then the figures. -/
def digitChar (d : Nat) : Char :=
  if d < 26 then Char.ofNat (97 + d) else Char.ofNat (22 + d)

/-- The value of a digit. -/
def digitValue? (c : Char) : Option Nat :=
  if 'a' ≤ c ∧ c ≤ 'z' then some (c.toNat - 97)
  else if 'A' ≤ c ∧ c ≤ 'Z' then some (c.toNat - 65)
  else if '0' ≤ c ∧ c ≤ '9' then some (c.toNat - 22)
  else none

/-- The threshold of the digit at weight `k`, which lies between 1 and 26. -/
def threshold (k bias : Nat) : Nat :=
  max 1 (min 26 (k - bias))

/-- A count divided by 35 until it is small, and the weight that the divisions add. -/
def dampen (delta k : Nat) : Nat × Nat :=
  if 455 < delta then dampen (delta / 35) (k + 36) else (delta, k)
termination_by delta
decreasing_by exact Nat.div_lt_self (by omega) (by omega)

/-- The bias after a count has been written, with `points` characters placed so far. -/
def adapt (delta points : Nat) (first : Bool) : Nat :=
  let delta := if first then delta / 700 else delta / 2
  let (delta, k) := dampen (delta + delta / points) 0
  k + 36 * delta / (delta + 38)

/-- The digits of a count from weight `k` on. -/
def writeCount (bias k q : Nat) : List Char :=
  let t := threshold k bias
  if q < t then [digitChar q]
  else digitChar (t + (q - t) % (36 - t)) :: writeCount bias (k + 36) ((q - t) / (36 - t))
termination_by q
decreasing_by
  have : 1 ≤ threshold k bias := Nat.le_max_left _ _
  have := Nat.div_le_self (q - threshold k bias) (36 - threshold k bias)
  omega

/-- What the writer carries along. -/
structure Writer where
  written : List Char
  delta : Nat
  bias : Nat
  placed : Nat
  first : Bool

/-- Passes a character of the label while the characters with code point `m` are being placed. -/
def Writer.pass (m : Nat) (w : Writer) (c : Char) : Writer :=
  if c.toNat < m then { w with delta := w.delta + 1 }
  else if c.toNat = m then
    { written := w.written ++ writeCount w.bias 36 w.delta
      delta := 0
      bias := adapt w.delta (w.placed + 1) w.first
      placed := w.placed + 1
      first := false }
  else w

/-- Places all characters with the given code points, in ascending order from `n` on. -/
def Writer.place (label : List Char) (w : Writer) (n : Nat) : List Nat → Writer
  | [] => w
  | m :: rest =>
    let w := { w with delta := w.delta + (m - n) * (w.placed + 1) }
    let w := label.foldl (Writer.pass m) w
    Writer.place label { w with delta := w.delta + 1 } (m + 1) rest

/-- The code points of a label beyond ASCII, in ascending order without repetition. -/
def beyondAscii (label : List Char) : List Nat :=
  (((label.map Char.toNat).filter (128 ≤ ·)).mergeSort).eraseDups

/-- A label in ASCII, without the mark that says so. -/
def encode (label : List Char) : List Char :=
  let ascii := label.filter (·.toNat < 128)
  let w : Writer := ⟨[], 0, 72, ascii.length, true⟩
  let head := if ascii.isEmpty then [] else ascii ++ ['-']
  head ++ (w.place label 128 (beyondAscii label)).written

/-- The count that digits from weight `k` on denote, and the digits after it. -/
def readCount (bias k weight sum : Nat) : List Char → Option (Nat × List Char)
  | [] => none
  | c :: rest =>
    match digitValue? c with
    | none => none
    | some d =>
      let sum := sum + d * weight
      let t := threshold k bias
      if Nat.pow 2 32 ≤ sum then none
      else if d < t then some (sum, rest)
      else readCount bias (k + 36) (weight * (36 - t)) sum rest

/-- Places characters into a label, one for each count. Every count takes a digit. -/
def readPlaces (label : List Char) (n bias cursor : Nat) (first : Bool) :
    Nat → List Char → Option (List Char)
  | 0, _ => none
  | _, [] => some label
  | fuel + 1, cs =>
    match readCount bias 36 1 0 cs with
    | none => none
    | some (delta, rest) =>
      let size := label.length + 1
      let i := cursor + delta
      let n := n + i / size
      let i := i % size
      if n.isValidChar then
        readPlaces (label.take i ++ Char.ofNat n :: label.drop i) n (adapt delta size first) (i + 1)
          false fuel rest
      else none

/-- The label that an ASCII text stands for. -/
def decode? (cs : List Char) : Option (List Char) :=
  if cs.any (128 ≤ ·.toNat) then none
  else
    let tail := (cs.reverse.takeWhile (· != '-')).reverse
    let head := (cs.take (cs.length - tail.length)).dropLast
    readPlaces head 128 72 0 true (tail.length + 1) tail

end Depot.Punycode
