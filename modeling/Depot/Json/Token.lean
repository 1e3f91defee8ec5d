import Depot.Digest.Bytes
import Depot.Json.Value

/-!
# The tokens of a JSON text

A JSON text is read as a list of tokens. Where the text stops being a sequence of tokens, the list
ends in a *flawed* token, so that a reader that fails before it never learns of the flaw.

A reader that skips a value is more patient than one that takes it: half of a surrogate pair spoils
a text only for who takes it, and the end of input inside a number is a fault of another kind. A
flawed token says what both meet.

## Main definitions

* `Json.Fault` : the kinds of fault of a text.
* `Json.Token`, `Json.tokens` : tokens, and the tokens of a text.
* `NumberLiteral.value?` : the number that digits denote, if it is in range.
-/

namespace Depot.Json

/-- What is wrong with a text: it is no JSON, it ends too early, or it is of the wrong shape. -/
inductive Fault
  | notJson
  | endsEarly
  | wrongShape
  deriving DecidableEq, Repr, Inhabited

/-- The parts of a number as they are written. -/
structure NumberLiteral where
  negative : Bool
  whole : List Char
  fractional : Option (List Char)
  exponent : Option Int
  deriving DecidableEq, Repr

/-- A token of a JSON text. -/
inductive Token
  | openArray
  | closeArray
  | openObject
  | closeObject
  | comma
  | colon
  | null
  | bool (b : Bool)
  | number (n : NumberLiteral)
  | text (s : String)
  /-- A text that cannot be taken; `skipped` is the fault of one who skips it, if any. -/
  | flawedText (taken : Fault) (skipped : Option Fault)
  /-- Another piece that is no token. -/
  | flawed (taken : Fault) (skipped : Fault)
  deriving DecidableEq, Repr

/-! ### Numbers -/

/-- Decimal digits collected into a number below `2 ^ 64`, with a power of ten for the rest. -/
structure Collected where
  significand : Nat
  exponent : Int
  full : Bool

/-- A further digit before the point. Once the significand is full, digits only raise the power. -/
def Collected.wholeDigit (c : Collected) (digit : Char) : Collected :=
  let next := 10 * c.significand + (digit.toNat - 48)
  if c.full then { c with exponent := c.exponent + 1 }
  else if Nat.pow 2 64 ≤ next then { c with exponent := c.exponent + 1, full := true }
  else { c with significand := next }

/-- The digits after the point, up to the first one that does not fit. -/
def Collected.fractionalDigits (c : Collected) : List Char → Collected
  | [] => c
  | digit :: rest =>
    let next := 10 * c.significand + (digit.toNat - 48)
    if Nat.pow 2 64 ≤ next then c
    else fractionalDigits { c with significand := next, exponent := c.exponent - 1 } rest

/-- A significand times a power of ten: rounded to the format, and rounded again after each
multiplication or division by a rounded power of ten. Nothing when it is out of range. -/
def scaled? (fuel : Nat) (x : Number.Binary64) (exponent : Int) : Option Number.Binary64 :=
  if 0 ≤ exponent then
    if exponent ≤ 308 then
      match x.timesTen exponent.toNat with
      | .finite s m e => some (.finite s m e)
      | _ => none
    else if x = Number.Binary64.ofNat 0 then some x
    else none
  else if -308 ≤ exponent then some (x.overTen exponent.natAbs)
  else
    match fuel with
    | 0 => some (Number.Binary64.ofNat 0)
    | fuel + 1 => scaled? fuel (x.overTen 308) (exponent + 308)

/-- The number of the format that a literal denotes, if it is in range. -/
def NumberLiteral.binary? (n : NumberLiteral) : Option JsonNumber :=
  let c := n.whole.foldl Collected.wholeDigit ⟨0, 0, false⟩
  let c := c.fractionalDigits (n.fractional.getD [])
  (scaled? 4 (Number.Binary64.ofNat c.significand) (c.exponent + n.exponent.getD 0)).map fun x =>
    .binary (if n.negative then x.negate else x)

/-- The number that a literal denotes, if it is in range. Whole numbers that fit a word of 64 bits,
and negative ones that fit a signed one, are kept exactly. -/
def NumberLiteral.value? (n : NumberLiteral) : Option JsonNumber :=
  let size := (Number.readDigits 0 n.whole).getD 0
  if n.fractional.isSome || n.exponent.isSome then n.binary?
  else if n.negative then
    if 0 < size ∧ size ≤ Nat.pow 2 63 then some (.negative size) else n.binary?
  else if size < Nat.pow 2 64 then some (.natural size)
  else n.binary?

/-- What a lexical reader yields: a value and the rest of the text, or the faults of one who takes
the piece and of one who skips it. -/
inductive Lexed (α : Type)
  | found (value : α) (rest : List Char)
  | failed (taken skipped : Fault)

/-- The fault at a place where a digit is missing. The end of input there is an early end only for
one who takes the number. -/
def missingDigit {α : Type} : List Char → Lexed α
  | [] => .failed .endsEarly .notJson
  | _ => .failed .notJson .notJson

/-- The exponent part of a number, after its mark. -/
def lexExponent (cs : List Char) : Lexed (Option Int) :=
  let (sign, ds) : Int × List Char :=
    match cs with
    | '-' :: ds => (-1, ds)
    | '+' :: ds => (1, ds)
    | ds => (1, ds)
  let (exponent, rest) := ds.span Char.isDigit
  if exponent.isEmpty then missingDigit rest
  else .found (some (sign * ((Number.readDigits 0 exponent).getD 0 : Nat))) rest

/-- A number from its whole part on: no superfluous zero in front, and at least one digit in every
part. -/
def lexNumber (negative : Bool) (cs : List Char) : Lexed NumberLiteral :=
  let (whole, rest) := cs.span Char.isDigit
  match whole with
  | [] => missingDigit rest
  | '0' :: _ :: _ => .failed .notJson .notJson
  | whole =>
    let withExponent (fractional : Option (List Char)) (rest : List Char) : Lexed NumberLiteral :=
      match rest with
      | mark :: more =>
        if mark = 'e' ∨ mark = 'E' then
          match lexExponent more with
          | .found e rest => .found ⟨negative, whole, fractional, e⟩ rest
          | .failed t s => .failed t s
        else .found ⟨negative, whole, fractional, none⟩ rest
      | [] => .found ⟨negative, whole, fractional, none⟩ []
    match rest with
    | '.' :: more =>
      let (fractional, rest) := more.span Char.isDigit
      if fractional.isEmpty then missingDigit rest else withExponent (some fractional) rest
    | rest => withExponent none rest

/-! ### Texts -/

/-- The four hexadecimal digits of an escape. They are four bytes of the text, so what is shorter
ends early. -/
def lexHex (cs : List Char) : Except Fault (Nat × List Char) :=
  match cs with
  | a :: b :: c :: d :: rest =>
    match Digest.hexValue? a, Digest.hexValue? b, Digest.hexValue? c, Digest.hexValue? d with
    | some a, some b, some c, some d => .ok (((a * 16 + b) * 16 + c) * 16 + d, rest)
    | _, _, _, _ => .error .notJson
  | cs => .error (if (String.ofList cs).utf8ByteSize < 4 then .endsEarly else .notJson)

/-- The character of an escape that is one letter. -/
def letterEscape? : Char → Option Char
  | '"' => some '"'
  | '\\' => some '\\'
  | '/' => some '/'
  | 'b' => some '\x08'
  | 'f' => some '\x0c'
  | 'n' => some '\n'
  | 'r' => some '\r'
  | 't' => some '\t'
  | _ => none

/-- The second half of a surrogate pair, as an escape of its own. -/
def lexLowSurrogate (high : Nat) : List Char → Except Fault (Char × List Char)
  | '\\' :: 'u' :: cs => do
    let (low, rest) ← lexHex cs
    if 0xDC00 ≤ low ∧ low ≤ 0xDFFF then
      .ok (Char.ofNat ((high - 0xD800) * 0x400 + (low - 0xDC00) + 0x10000), rest)
    else .error .notJson
  | [] => .error .endsEarly
  | ['\\'] => .error .endsEarly
  | _ => .error .notJson

/-- The character of an escape, after its backslash. -/
def lexEscape : List Char → Except Fault (Char × List Char)
  | [] => .error .endsEarly
  | 'u' :: cs => do
    let (n, rest) ← lexHex cs
    if 0xD800 ≤ n ∧ n ≤ 0xDBFF then lexLowSurrogate n rest
    else if 0xDC00 ≤ n ∧ n ≤ 0xDFFF then .error .notJson
    else .ok (Char.ofNat n, rest)
  | c :: rest =>
    match letterEscape? c with
    | some c => .ok (c, rest)
    | none => .error .notJson

/-- A text after its opening quote, as one who takes it reads it. -/
def takeText (fuel : Nat) (done : List Char) (cs : List Char) : Except Fault (String × List Char) :=
  match fuel, cs with
  | 0, _ => .error .endsEarly
  | _, [] => .error .endsEarly
  | _, '"' :: rest => .ok (String.ofList done.reverse, rest)
  | fuel + 1, '\\' :: rest => do
    let (c, rest) ← lexEscape rest
    takeText fuel (c :: done) rest
  | fuel + 1, c :: rest =>
    if c.toNat < 0x20 then .error .notJson else takeText fuel (c :: done) rest

/-- The rest of a text after its opening quote, as one who skips it reads it. -/
def skipText (fuel : Nat) (cs : List Char) : Except Fault (List Char) :=
  match fuel, cs with
  | 0, _ => .error .endsEarly
  | _, [] => .error .endsEarly
  | _, '"' :: rest => .ok rest
  | fuel + 1, '\\' :: rest =>
    match rest with
    | [] => .error .endsEarly
    | 'u' :: cs => do
      let (_, rest) ← lexHex cs
      skipText fuel rest
    | c :: rest => if (letterEscape? c).isSome then skipText fuel rest else .error .notJson
  | fuel + 1, c :: rest => if c.toNat < 0x20 then .error .notJson else skipText fuel rest

/-! ### Tokens -/

/-- The blanks between tokens. -/
def isSpace (c : Char) : Bool :=
  c == ' ' || c == '\n' || c == '\t' || c == '\r'

/-- The letters of a word after its first one, or the fault where they end. -/
def lexWord : List Char → List Char → Except Fault (List Char)
  | [], cs => .ok cs
  | _ :: _, [] => .error .endsEarly
  | w :: ws, c :: cs => if w = c then lexWord ws cs else .error .notJson

/-- A token and the rest of the text; no rest when the token is where the text stops being a
sequence of tokens. The text is shorter than `fuel`. -/
def lexToken (fuel : Nat) (c : Char) (cs : List Char) : Token × Option (List Char) :=
  let word (w : String) (t : Token) : Token × Option (List Char) :=
    match lexWord w.toList cs with
    | .ok rest => (t, some rest)
    | .error f => (.flawed f f, none)
  let number (negative : Bool) (cs : List Char) : Token × Option (List Char) :=
    match lexNumber negative cs with
    | .found n rest => (.number n, some rest)
    | .failed t s => (.flawed t s, none)
  match c with
  | '[' => (.openArray, some cs)
  | ']' => (.closeArray, some cs)
  | '{' => (.openObject, some cs)
  | '}' => (.closeObject, some cs)
  | ',' => (.comma, some cs)
  | ':' => (.colon, some cs)
  | 'n' => word "ull" .null
  | 't' => word "rue" (.bool true)
  | 'f' => word "alse" (.bool false)
  | '-' => number true cs
  | '"' =>
    match takeText fuel [] cs with
    | .ok (s, rest) => (.text s, some rest)
    | .error taken =>
      match skipText fuel cs with
      | .ok rest => (.flawedText taken none, some rest)
      | .error skipped => (.flawedText taken (some skipped), none)
  | c => if c.isDigit then number false (c :: cs) else (.flawed .notJson .notJson, none)

/-- The tokens of a text. Every token takes a character, so there are no more of them than
`fuel`. -/
def tokensFrom (fuel : Nat) (cs : List Char) : List Token :=
  match fuel, cs with
  | 0, _ => []
  | _, [] => []
  | fuel + 1, c :: cs =>
    if isSpace c then tokensFrom fuel cs
    else
      match lexToken (fuel + 1) c cs with
      | (t, some rest) => t :: tokensFrom fuel rest
      | (t, none) => [t]

/-- The tokens of a text. -/
def tokens (s : String) : List Token :=
  let cs := s.toList
  tokensFrom cs.length cs

end Depot.Json
