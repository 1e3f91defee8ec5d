import Depot.Digest.Bytes
import Depot.Json.Value

/-!
# Writing JSON

A value is written on one line without blanks, or laid out over several lines with two blanks for
each level. Texts escape the quote, the backslash and the control characters.

## Main definitions

* `Json.compact` : a value on one line.
* `Json.pretty` : a value laid out over several lines.
-/

namespace Depot

/-- How a character is written inside a JSON text. -/
def Json.escapedChar (c : Char) : List Char :=
  match c with
  | '"' => ['\\', '"']
  | '\\' => ['\\', '\\']
  | '\x08' => ['\\', 'b']
  | '\x0c' => ['\\', 'f']
  | '\n' => ['\\', 'n']
  | '\r' => ['\\', 'r']
  | '\t' => ['\\', 't']
  | c =>
    if c.toNat < 0x20 then '\\' :: 'u' :: '0' :: '0' :: Digest.hexByte (UInt8.ofNat c.toNat)
    else [c]

/-- A text between quotes. -/
def Json.quotedText (s : String) : String :=
  String.ofList ('"' :: s.toList.flatMap Json.escapedChar ++ ['"'])

/-- The text of a number. -/
def JsonNumber.text : JsonNumber → String
  | natural n => Number.text n
  | negative n => "-" ++ Number.text n
  | binary x => x.compact

namespace Json

mutual

/-- A value on one line. -/
def compact : Json → String
  | null => "null"
  | bool b => if b then "true" else "false"
  | number n => n.text
  | text s => quotedText s
  | array items => "[" ++ ",".intercalate (compactItems items) ++ "]"
  | object members => "\x7b" ++ ",".intercalate (compactMembers members) ++ "\x7d"

/-- The items of an array, each on one line. -/
def compactItems : List Json → List String
  | [] => []
  | item :: items => compact item :: compactItems items

/-- The members of an object, each on one line. -/
def compactMembers : List (String × Json) → List String
  | [] => []
  | (key, value) :: members =>
    (quotedText key ++ ":" ++ compact value) :: compactMembers members

end

/-- A line break followed by two blanks for each level. -/
def lineBreak (level : Nat) : String :=
  String.ofList ('\n' :: List.replicate (2 * level) ' ')

/-- Laid out parts between an opening and a closing mark; nothing stands between the marks when
there are no parts. -/
def laidOut (opening closing : String) (level : Nat) : List String → String
  | [] => opening ++ closing
  | parts =>
    opening ++ lineBreak (level + 1) ++ ("," ++ lineBreak (level + 1)).intercalate parts ++
      lineBreak level ++ closing

mutual

/-- A value laid out at a level. -/
def prettyAt (level : Nat) : Json → String
  | array items => laidOut "[" "]" level (prettyItems (level + 1) items)
  | object members => laidOut "\x7b" "\x7d" level (prettyMembers (level + 1) members)
  | scalar => compact scalar

/-- The items of an array laid out at a level. -/
def prettyItems (level : Nat) : List Json → List String
  | [] => []
  | item :: items => prettyAt level item :: prettyItems level items

/-- The members of an object laid out at a level. -/
def prettyMembers (level : Nat) : List (String × Json) → List String
  | [] => []
  | (key, value) :: members =>
    (quotedText key ++ ": " ++ prettyAt level value) :: prettyMembers level members

end

/-- A value laid out over several lines. -/
def pretty (value : Json) : String :=
  prettyAt 0 value

end Json

end Depot
