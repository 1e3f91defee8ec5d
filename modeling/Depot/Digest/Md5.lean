import Depot.Digest.Bytes

/-!
# The MD5 digest

The digest of a message is four words, computed block by block in sixty-four rounds. Words are
written with their least significant byte first.

## Main definitions

* `Md5.State` : the four words.
* `Md5.digest` : the sixteen bytes of the digest of a message.
-/

namespace Depot.Digest.Md5

/-- The four words that the digest carries from block to block. -/
structure State where
  a : UInt32
  b : UInt32
  c : UInt32
  d : UInt32
  deriving DecidableEq, Repr

/-- The words before the first block. -/
def State.initial : State :=
  ⟨0x67452301, 0xEFCDAB89, 0x98BADCFE, 0x10325476⟩

/-- The wordwise sum of two states. -/
def State.add (s t : State) : State :=
  ⟨s.a + t.a, s.b + t.b, s.c + t.c, s.d + t.d⟩

/-- The bytes of the four words. -/
def State.bytes (s : State) : Bytes :=
  [s.a, s.b, s.c, s.d].flatMap bytesLowFirst

/-- The constants of the rounds. -/
def roundConstants : List UInt32 := [
  0xD76AA478, 0xE8C7B756, 0x242070DB, 0xC1BDCEEE, 0xF57C0FAF, 0x4787C62A, 0xA8304613, 0xFD469501,
  0x698098D8, 0x8B44F7AF, 0xFFFF5BB1, 0x895CD7BE, 0x6B901122, 0xFD987193, 0xA679438E, 0x49B40821,
  0xF61E2562, 0xC040B340, 0x265E5A51, 0xE9B6C7AA, 0xD62F105D, 0x02441453, 0xD8A1E681, 0xE7D3FBC8,
  0x21E1CDE6, 0xC33707D6, 0xF4D50D87, 0x455A14ED, 0xA9E3E905, 0xFCEFA3F8, 0x676F02D9, 0x8D2A4C8A,
  0xFFFA3942, 0x8771F681, 0x6D9D6122, 0xFDE5380C, 0xA4BEEA44, 0x4BDECFA9, 0xF6BB4B60, 0xBEBFBC70,
  0x289B7EC6, 0xEAA127FA, 0xD4EF3085, 0x04881D05, 0xD9D4D039, 0xE6DB99E5, 0x1FA27CF8, 0xC4AC5665,
  0xF4292244, 0x432AFF97, 0xAB9423A7, 0xFC93A039, 0x655B59C3, 0x8F0CCC92, 0xFFEFF47D, 0x85845DD1,
  0x6FA87E4F, 0xFE2CE6E0, 0xA3014314, 0x4E0811A1, 0xF7537E82, 0xBD3AF235, 0x2AD7D2BB, 0xEB86D391]

/-- The mixing function of round `i`, and which word of the block it takes. -/
def mixing (i : Nat) (b c d : UInt32) : UInt32 × Nat :=
  if i < 16 then ((b &&& c) ||| ((~~~ b) &&& d), i)
  else if i < 32 then ((d &&& b) ||| ((~~~ d) &&& c), (5 * i + 1) % 16)
  else if i < 48 then (b ^^^ c ^^^ d, (3 * i + 5) % 16)
  else (c ^^^ (b ||| ~~~ d), (7 * i) % 16)

/-- By how many bits round `i` turns its sum. -/
def turn (i : Nat) : UInt32 :=
  let row : List UInt32 :=
    if i < 16 then [7, 12, 17, 22] else if i < 32 then [5, 9, 14, 20]
    else if i < 48 then [4, 11, 16, 23] else [6, 10, 15, 21]
  row.getD (i % 4) 0

/-- Round `i` with its constant on the words of a block. -/
def round (w : Array UInt32) (s : State) (i : Nat) (k : UInt32) : State :=
  let (f, word) := mixing i s.b s.c s.d
  ⟨s.d, s.b + rotateLeft (f + s.a + k + w.getD word 0) (turn i), s.b, s.c⟩

/-- All rounds of one block, added to the state before it. -/
def block (s : State) (message : Bytes) : State :=
  let w := (wordsLowFirst message).toArray
  s.add (roundConstants.zipIdx.foldl (fun t (k, i) => round w t i k) s)

/-- The digest of a message. -/
def digest (message : Bytes) : Bytes :=
  (foldBlocks block State.initial
    (padded (fun high low => bytesLowFirst low ++ bytesLowFirst high) message)).bytes

/-- A digest has sixteen bytes. -/
theorem length_digest (message : Bytes) : (digest message).length = 16 := by
  simp [digest, State.bytes, bytesLowFirst]

end Depot.Digest.Md5
