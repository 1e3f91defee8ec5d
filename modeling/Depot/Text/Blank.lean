/-!
# Blank space, lines and ASCII case

Text is read here as a list of characters. A character is blank when it has the Unicode property
`White_Space`; trimming takes blanks off both ends, and the two small splitters cut a text at its
first separator and at its line ends.

## Main definitions

* `isBlank`, `trim` : blank characters, and a text without the blanks at its ends.
* `splitOnce` : the parts before and after the first separator.
* `lines` : the lines of a text, without their line ends.
* `asciiLower` : the text with the ASCII capitals replaced by small letters.
-/

namespace Depot.Text

/-- The characters with the Unicode property `White_Space`. -/
def isBlank (c : Char) : Bool :=
  let n := c.toNat
  (0x9 ≤ n && n ≤ 0xD) || n == 0x20 || n == 0x85 || n == 0xA0 || n == 0x1680 ||
    (0x2000 ≤ n && n ≤ 0x200A) || n == 0x2028 || n == 0x2029 || n == 0x202F || n == 0x205F ||
    n == 0x3000

/-- The characters from the first non-blank one on. -/
def trimLeft (cs : List Char) : List Char :=
  cs.dropWhile isBlank

/-- The characters up to the last non-blank one. -/
def trimRight (cs : List Char) : List Char :=
  (trimLeft cs.reverse).reverse

/-- The characters between the blanks at both ends. -/
def trimChars (cs : List Char) : List Char :=
  trimRight (trimLeft cs)

/-- A text without the blanks at its ends. -/
def trim (s : String) : String :=
  String.ofList (trimChars s.toList)

/-- A text without the given character at its end, however often it stands there. -/
def trimEndOf (c : Char) (s : String) : String :=
  String.ofList ((s.toList.reverse.dropWhile (· == c)).reverse)

/-- The parts before and after the first occurrence of a separator. -/
def splitOnce (sep : Char) : List Char → Option (List Char × List Char)
  | [] => none
  | c :: rest =>
    if c = sep then some ([], rest)
    else (splitOnce sep rest).map fun (before, after) => (c :: before, after)

/-- The parts between the occurrences of a separator: one more than there are separators. -/
def splitAll (sep : Char) : List Char → List (List Char)
  | [] => [[]]
  | c :: rest =>
    if c = sep then [] :: splitAll sep rest
    else
      match splitAll sep rest with
      | [] => [[c]]
      | part :: parts => (c :: part) :: parts

/-- A line that ended in a line feed, without a carriage return before it. -/
def dropReturn (line : List Char) : List Char :=
  match line.reverse with
  | '\r' :: rest => rest.reverse
  | _ => line

/-- The lines of a list of pieces between line feeds: every piece but the last was ended by a line
feed, and an empty last piece is no line. -/
def linesOfPieces : List (List Char) → List (List Char)
  | [] => []
  | [last] => if last.isEmpty then [] else [last]
  | piece :: pieces => dropReturn piece :: linesOfPieces pieces

/-- The lines of a text. A line ends in a line feed, which may follow a carriage return. -/
def lines (cs : List Char) : List (List Char) :=
  linesOfPieces (splitAll '\n' cs)

/-- The text with ASCII capitals replaced by small letters. -/
def asciiLower (s : String) : String :=
  s.map Char.toLower

/-- Equality up to the case of ASCII letters. -/
def eqIgnoringAsciiCase (s t : String) : Bool :=
  asciiLower s == asciiLower t

/-- What follows a given beginning of a text. -/
def afterBeginning : List Char → List Char → Option (List Char)
  | [], cs => some cs
  | _ :: _, [] => none
  | a :: as, c :: cs => if a = c then afterBeginning as cs else none

/-- Whether a text begins with another. -/
def beginsWith (beginning cs : List Char) : Bool :=
  (afterBeginning beginning cs).isSome

/-- Whether a text occurs somewhere in another. -/
def occursIn (needle : List Char) : List Char → Bool
  | [] => needle.isEmpty
  | c :: cs => beginsWith needle (c :: cs) || occursIn needle cs

end Depot.Text
