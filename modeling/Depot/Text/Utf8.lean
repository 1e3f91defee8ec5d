import Depot.Digest.Bytes

/-!
# The text nearest to bytes

Bytes that are no text in UTF-8 can still be shown. The bytes are read one by one; what has been
read of a character is kept until it is complete. A byte that cannot go on with the character before
it ends that one, which then stands as a single replacement character, and begins anew.

## Main definitions

* `Utf8.Begun`, `Utf8.step` : a character of which some bytes have been read, and reading one more
  byte.
* `Utf8.nearestText` : the text nearest to any bytes.
-/

namespace Depot.Utf8

/-- The character that stands for bytes that are none. -/
def replacement : Char :=
  Char.ofNat 0xFFFD

/-- A character that has begun: the value of its bits so far, the number of bytes that are missing,
and the bounds of the next one. -/
structure Begun where
  bits : Nat
  missing : Nat
  low : Nat
  high : Nat
  deriving DecidableEq, Repr

/-- The character that a byte begins, unless it is a character of its own or none at all. The bounds
keep out spellings that are too long, surrogates and numbers beyond the last character. -/
def begin? (b : Nat) : Option Begun :=
  if 0xC2 ≤ b ∧ b ≤ 0xDF then some ⟨b % 32, 1, 0x80, 0xBF⟩
  else if b = 0xE0 then some ⟨0, 2, 0xA0, 0xBF⟩
  else if b = 0xED then some ⟨13, 2, 0x80, 0x9F⟩
  else if 0xE1 ≤ b ∧ b ≤ 0xEF then some ⟨b % 16, 2, 0x80, 0xBF⟩
  else if b = 0xF0 then some ⟨0, 3, 0x90, 0xBF⟩
  else if 0xF1 ≤ b ∧ b ≤ 0xF3 then some ⟨b % 8, 3, 0x80, 0xBF⟩
  else if b = 0xF4 then some ⟨4, 3, 0x80, 0x8F⟩
  else none

/-- The characters that are complete after a byte between characters, and the one that has begun. -/
def first (b : Nat) : List Char × Option Begun :=
  if b < 0x80 then ([Char.ofNat b], none)
  else
    match begin? b with
    | some begun => ([], some begun)
    | none => ([replacement], none)

/-- The characters that are complete after one more byte, and the one that has begun. -/
def step (begun : Option Begun) (b : Nat) : List Char × Option Begun :=
  match begun with
  | none => first b
  | some c =>
    if c.low ≤ b ∧ b ≤ c.high then
      let bits := 64 * c.bits + b % 64
      if c.missing = 1 then ([Char.ofNat bits], none)
      else ([], some ⟨bits, c.missing - 1, 0x80, 0xBF⟩)
    else
      let (cs, begun) := first b
      (replacement :: cs, begun)

/-- The characters nearest to bytes that follow the beginning of a character. -/
def nearestChars (begun : Option Begun) : Bytes → List Char
  | [] => if begun.isSome then [replacement] else []
  | b :: rest =>
    let (cs, begun) := step begun b.toNat
    cs ++ nearestChars begun rest

/-- The text nearest to any bytes. -/
def nearestText (bytes : Bytes) : String :=
  String.ofList (nearestChars none bytes)

end Depot.Utf8
