import Depot.Dict
import Depot.Json.Token

/-!
# Readers of tokens

A reader takes a value of an expected shape from the front of a list of tokens, or fails with the
kind of the first fault that it meets from left to right. A token of a wrong shape is a fault only
where the reader comes to it, so a fault further on, even one that makes the text no JSON at all,
does not matter.

Readers that take nested values are given the number of levels of arrays and objects that they may
still open. Skipping a value has no such limit.

## Main definitions

* `Json.Reader` : readers.
* `Json.readText`, `Json.readOptional`, `Json.readDict`, `Json.readValue` : readers of a text, of
  something that may be null, of a dictionary and of any value.
* `Json.readMembers`, `Json.readElement` : the members of an object and the elements of an array,
  one after the other.
* `Json.readEntry` : a member that is an entry of a dictionary.
* `Json.readRecord` : a value with named fields.
* `Json.skipValue` : takes a value of any shape away.
* `Json.readAll` : a value that is all there is.
-/

namespace Depot.Json

/-- A reader takes a value from the front of a list of tokens. -/
abbrev Reader (α : Type) := List Token → Except Fault (α × List Token)

/-- How many levels of arrays and objects a text may have. -/
abbrev maxDepth : Nat := 127

/-- The fault of meeting a token where a value of another shape was expected. -/
def Token.asValueFault : Token → Fault
  | .number n => if n.value?.isSome then .wrongShape else .notJson
  | .text _ | .null | .bool _ | .openArray | .openObject => .wrongShape
  | .flawedText taken _ => taken
  | .flawed taken _ => taken
  | .comma | .colon | .closeArray | .closeObject => .notJson

/-- The fault of meeting the front of a list of tokens where a value of another shape was
expected. -/
def unexpected : List Token → Fault
  | [] => .endsEarly
  | t :: _ => t.asValueFault

/-- A text. -/
def readText : Reader String
  | .text s :: rest => .ok (s, rest)
  | ts => .error (unexpected ts)

/-- Nothing for null, or what the reader takes. -/
def readOptional {α : Type} (read : Reader α) : Reader (Option α)
  | .null :: rest => .ok (none, rest)
  | ts => do
    let (a, rest) ← read ts
    .ok (some a, rest)

/-! ### Elements of arrays and members of objects -/

/-- Whether another element of an array follows. The rest begins with that element, or with the
closing bracket. -/
def moreElements (first : Bool) : Reader Bool
  | [] => .error .endsEarly
  | .closeArray :: rest => .ok (false, .closeArray :: rest)
  | t :: rest =>
    if first then .ok (true, t :: rest)
    else if t = .comma then
      match rest with
      | [] => .error .endsEarly
      | .closeArray :: _ => .error .notJson
      | rest => .ok (true, rest)
    else .error .notJson

/-- The next element of an array, if there is one. -/
def readElement {α : Type} (read : Reader α) (first : Bool) : Reader (Option α) := fun ts => do
  let (more, rest) ← moreElements first ts
  if more then
    let (a, rest) ← read rest
    .ok (some a, rest)
  else .ok (none, rest)

/-- The closing bracket of an array. -/
def closeArray : Reader Unit
  | .closeArray :: rest => .ok ((), rest)
  | [] => .error .endsEarly
  | _ => .error .notJson

/-- The elements of an array up to its closing bracket. -/
def readElementsFrom {α : Type} (read : Reader α) : Nat → Bool → Reader (List α)
  | 0, _ => fun _ => .error .notJson
  | fuel + 1, first => fun ts => do
    let (element, rest) ← readElement read first ts
    match element with
    | none => .ok ([], rest)
    | some a =>
      let (as, rest) ← readElementsFrom read fuel false rest
      .ok (a :: as, rest)

/-- The elements of an array after its opening bracket, and the closing bracket. Every element
takes a token, so there are no more of them than tokens. -/
def readElements {α : Type} (read : Reader α) : Reader (List α) := fun ts => do
  let (as, rest) ← readElementsFrom read (ts.length + 1) true ts
  let ((), rest) ← closeArray rest
  .ok (as, rest)

/-- The key of a member where one must follow. -/
def readKey : Reader String
  | .text s :: rest => .ok (s, rest)
  | .flawedText taken _ :: _ => .error taken
  | [] => .error .endsEarly
  | _ => .error .notJson

/-- The key of the next member of an object, if there is one. The closing brace is taken away. -/
def readNextKey (first : Bool) : Reader (Option String)
  | [] => .error .endsEarly
  | .closeObject :: rest => .ok (none, rest)
  | t :: rest => do
    let (key, rest) ←
      if first then readKey (t :: rest)
      else if t = .comma then readKey rest
      else .error .notJson
    .ok (some key, rest)

/-- The value after the colon of a member. -/
def afterColon {α : Type} (read : Reader α) : Reader α
  | .colon :: rest => read rest
  | [] => .error .endsEarly
  | _ => .error .notJson

/-- The members of an object up to and with its closing brace, each handed with its key to a step
that takes the colon and the value and updates a state. -/
def readMembersFrom {σ : Type} (step : String → σ → Reader σ) : Nat → Bool → σ → Reader σ
  | 0, _, _ => fun _ => .error .notJson
  | fuel + 1, first, state => fun ts => do
    let (key, rest) ← readNextKey first ts
    match key with
    | none => .ok (state, rest)
    | some key =>
      let (state, rest) ← step key state rest
      readMembersFrom step fuel false state rest

/-- The members of an object after its opening brace. Every member takes a token, so there are no
more of them than tokens. -/
def readMembers {σ : Type} (step : String → σ → Reader σ) (state : σ) : Reader σ := fun ts =>
  readMembersFrom step (ts.length + 1) true state ts

/-- One more entry of a dictionary. A later value of a key replaces an earlier one. -/
def readEntry {α : Type} (read : Reader α) (key : String) (d : Dict α) : Reader (Dict α) :=
  fun ts => do
    let (value, rest) ← afterColon read ts
    .ok (d.insert key value, rest)

/-- A dictionary. -/
def readDict {α : Type} (read : Nat → Reader α) (depth : Nat) : Reader (Dict α)
  | .openObject :: rest =>
    match depth with
    | 0 => .error .notJson
    | depth + 1 => readMembers (readEntry (read depth)) Dict.empty rest
  | ts => .error (unexpected ts)

/-- A value of any shape. -/
def readValue (depth : Nat) : Reader Json
  | .null :: rest => .ok (.null, rest)
  | .bool b :: rest => .ok (.bool b, rest)
  | .text s :: rest => .ok (.text s, rest)
  | .number n :: rest =>
    match n.value? with
    | some n => .ok (.number n, rest)
    | none => .error .notJson
  | .openArray :: rest =>
    match depth with
    | 0 => .error .notJson
    | depth + 1 => do
      let (items, rest) ← readElements (readValue depth) rest
      .ok (.array items, rest)
  | .openObject :: rest =>
    match depth with
    | 0 => .error .notJson
    | depth + 1 => do
      let (members, rest) ← readMembers (readEntry (readValue depth)) Dict.empty rest
      .ok (.object members.pairs, rest)
  | ts => .error (unexpected ts)

/-! ### Records -/

/-- The value of a field of a record. A second value is of the wrong shape. -/
def readField {α : Type} (field : Option α) (read : Reader α) : Reader (Option α) := fun ts =>
  match field with
  | some _ => .error .wrongShape
  | none => do
    let (a, rest) ← afterColon read ts
    .ok (some a, rest)

/-- The value of a field that a record must have. -/
def required {α : Type} : Option α → Except Fault α
  | some a => .ok a
  | none => .error .wrongShape

/-- A record, written as an object with the names of its fields or as an array of its fields in
order. -/
def readRecord {α : Type} (ofArray ofObject : Nat → Reader α) (depth : Nat) : Reader α
  | .openArray :: rest =>
    match depth with
    | 0 => .error .notJson
    | depth + 1 => do
      let (a, rest) ← ofArray depth rest
      let ((), rest) ← closeArray rest
      .ok (a, rest)
  | .openObject :: rest =>
    match depth with
    | 0 => .error .notJson
    | depth + 1 => ofObject depth rest
  | ts => .error (unexpected ts)

/-! ### Skipping -/

/-- What one who skips a value waits for. -/
inductive Awaited
  | value
  /-- A first element, or the end of the array. -/
  | elementOrEnd
  /-- A first member, or the end of the object. -/
  | memberOrEnd
  | member
  | colon
  /-- A comma, or the end of the innermost array or object. -/
  | separator
  deriving DecidableEq, Repr

/-- A kind of nested value. -/
inductive Nesting
  | array
  | object
  deriving DecidableEq, Repr

/-- Takes the rest of a value away, inside the arrays and objects that are still open. -/
def skipFrom (awaited : Awaited) (nesting : List Nesting) : List Token → Except Fault (List Token)
  | [] => .error .endsEarly
  | t :: rest =>
    match awaited, t, nesting with
    | .elementOrEnd, .closeArray, .array :: outer =>
      if outer.isEmpty then .ok rest else skipFrom .separator outer rest
    | .memberOrEnd, .closeObject, .object :: outer =>
      if outer.isEmpty then .ok rest else skipFrom .separator outer rest
    | .separator, .closeArray, .array :: outer =>
      if outer.isEmpty then .ok rest else skipFrom .separator outer rest
    | .separator, .closeObject, .object :: outer =>
      if outer.isEmpty then .ok rest else skipFrom .separator outer rest
    | .separator, .comma, .array :: _ => skipFrom .value nesting rest
    | .separator, .comma, .object :: _ => skipFrom .member nesting rest
    | .separator, _, _ => .error .notJson
    | .colon, .colon, _ => skipFrom .value nesting rest
    | .colon, _, _ => .error .notJson
    | .member, .text _, _ | .memberOrEnd, .text _, _ => skipFrom .colon nesting rest
    | .member, .flawedText _ skipped, _ | .memberOrEnd, .flawedText _ skipped, _ =>
      match skipped with
      | none => skipFrom .colon nesting rest
      | some fault => .error fault
    | .member, _, _ | .memberOrEnd, _, _ => .error .notJson
    | _, .openArray, _ => skipFrom .elementOrEnd (.array :: nesting) rest
    | _, .openObject, _ => skipFrom .memberOrEnd (.object :: nesting) rest
    | _, .flawed _ skipped, _ => .error skipped
    | _, .flawedText _ (some fault), _ => .error fault
    | _, .flawedText _ none, _ | _, .null, _ | _, .bool _, _ | _, .number _, _ | _, .text _, _ =>
      if nesting.isEmpty then .ok rest else skipFrom .separator nesting rest
    | _, _, _ => .error .notJson

/-- Takes a value of any shape away. -/
def skipValue : Reader Unit := fun ts => do
  let rest ← skipFrom .value [] ts
  .ok ((), rest)

/-! ### Whole texts -/

/-- What a reader takes, if no token is left after it. -/
def readAll {α : Type} (read : Reader α) (ts : List Token) : Except Fault α := do
  let (a, rest) ← read ts
  if rest.isEmpty then .ok a else .error .notJson

end Depot.Json
