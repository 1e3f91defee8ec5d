import Depot.Text.Blank

/-!
# Tables of characters

Properties of characters are kept as tables of ranges, and maps on characters as tables of ranges
with a target. A table is written as rows of entries between spaces, in hexadecimal digits:

* `41` or `41-5a` : one character, or all from the first to the last;
* `100~12e` : every second character, beginning with the first;
* `c0>e0`, `41-5a>61`, `df>73,73` : the same with the character that the first one goes to, or with
  several characters for a single one.

## Main definitions

* `CharRanges`, `CharRanges.contains` : a property of characters.
* `CharMap`, `CharMap.get?` : a partial map from characters to texts.
-/

namespace Depot.Unicode

/-- The characters from `first` to `last`, or every second one of them. -/
structure CharRange where
  first : Nat
  last : Nat
  alternate : Bool
  deriving DecidableEq, Repr, Inhabited

/-- Whether a code point lies in a range. -/
def CharRange.contains (r : CharRange) (n : Nat) : Bool :=
  r.first ≤ n && n ≤ r.last && (!r.alternate || (n - r.first) % 2 == 0)

/-- The number that hexadecimal digits denote; other characters count as zero. -/
def hexNumber (cs : List Char) : Nat :=
  cs.foldl (fun n c => 16 * n + (if c.isDigit then c.toNat - 48 else c.toNat - 87)) 0

/-- The range that an entry before its target denotes. -/
def rangeOfText (cs : List Char) : CharRange :=
  match Text.splitOnce '-' cs, Text.splitOnce '~' cs with
  | some (a, b), _ => ⟨hexNumber a, hexNumber b, false⟩
  | _, some (a, b) => ⟨hexNumber a, hexNumber b, true⟩
  | _, _ => ⟨hexNumber cs, hexNumber cs, false⟩

/-- The entries of a table. -/
def entriesOf (rows : List String) : List (List Char) :=
  rows.flatMap fun row => (Text.splitAll ' ' row.toList).filter fun entry => !entry.isEmpty

/-- A property of characters. -/
structure CharRanges where
  ranges : Array CharRange

/-- The property that a table denotes. -/
def CharRanges.ofRows (rows : List String) : CharRanges :=
  ⟨((entriesOf rows).map rangeOfText).toArray⟩

/-- Whether a code point has a property. -/
def CharRanges.containsNat (t : CharRanges) (n : Nat) : Bool :=
  t.ranges.any fun r => r.contains n

/-- Whether a character has a property. -/
def CharRanges.contains (t : CharRanges) (c : Char) : Bool :=
  t.containsNat c.toNat

/-- A partial map from characters to lists of code points. -/
structure CharMap where
  entries : Array (CharRange × List Nat)

/-- The entry of a map that a text denotes. -/
def mapEntryOfText (cs : List Char) : CharRange × List Nat :=
  match Text.splitOnce '>' cs with
  | some (source, target) =>
    (rangeOfText source,
      ((Text.splitAll ',' target).filter fun n => !n.isEmpty).map hexNumber)
  | none => (rangeOfText cs, [])

/-- The map that a table denotes. -/
def CharMap.ofRows (rows : List String) : CharMap :=
  ⟨((entriesOf rows).map mapEntryOfText).toArray⟩

/-- What a map says of a code point. A single target moves along with the characters of a range. -/
def CharMap.getNat? (t : CharMap) (n : Nat) : Option (List Nat) :=
  (t.entries.find? fun (r, _) => r.contains n).map fun (r, target) =>
    match target with
    | [m] => [m + (n - r.first)]
    | target => target

/-- What a map says of a character. -/
def CharMap.get? (t : CharMap) (c : Char) : Option (List Char) :=
  (t.getNat? c.toNat).map fun ns => ns.map Char.ofNat

end Depot.Unicode
