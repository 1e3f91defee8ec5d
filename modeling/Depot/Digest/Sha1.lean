import Depot.Digest.Bytes

/-!
# The SHA-1 digest

The digest of a message is five words, computed block by block. Every block is stretched to eighty
words, and each of them turns one round.

## Main definitions

* `Sha1.State` : the five words.
* `Sha1.digest` : the twenty bytes of the digest of a message.
-/

namespace Depot.Digest.Sha1

/-- The five words that the digest carries from block to block. -/
structure State where
  a : UInt32
  b : UInt32
  c : UInt32
  d : UInt32
  e : UInt32
  deriving DecidableEq, Repr

/-- The words before the first block. -/
def State.initial : State :=
  ⟨0x67452301, 0xEFCDAB89, 0x98BADCFE, 0x10325476, 0xC3D2E1F0⟩

/-- The wordwise sum of two states. -/
def State.add (s t : State) : State :=
  ⟨s.a + t.a, s.b + t.b, s.c + t.c, s.d + t.d, s.e + t.e⟩

/-- The bytes of the five words. -/
def State.bytes (s : State) : Bytes :=
  [s.a, s.b, s.c, s.d, s.e].flatMap bytesHighFirst

/-- The words of the schedule after the first sixteen, each made from four earlier ones. -/
def stretch (count : Nat) (w : Array UInt32) : Array UInt32 :=
  match count with
  | 0 => w
  | n + 1 =>
    let i := w.size
    let back (k : Nat) := w.getD (i - k) 0
    stretch n (w.push (rotateLeft (back 3 ^^^ back 8 ^^^ back 14 ^^^ back 16) 1))

/-- The mixing function and the constant of round `i`. -/
def mixing (i : Nat) (b c d : UInt32) : UInt32 × UInt32 :=
  if i < 20 then ((b &&& c) ||| ((~~~ b) &&& d), 0x5A827999)
  else if i < 40 then (b ^^^ c ^^^ d, 0x6ED9EBA1)
  else if i < 60 then ((b &&& c) ||| (b &&& d) ||| (c &&& d), 0x8F1BBCDC)
  else (b ^^^ c ^^^ d, 0xCA62C1D6)

/-- Round `i` with the scheduled word `w`. -/
def round (s : State) (i : Nat) (w : UInt32) : State :=
  let (f, k) := mixing i s.b s.c s.d
  ⟨rotateLeft s.a 5 + f + s.e + k + w, s.a, rotateLeft s.b 30, s.c, s.d⟩

/-- All rounds of one block, added to the state before it. -/
def block (s : State) (message : Bytes) : State :=
  let w := stretch 64 (wordsHighFirst message).toArray
  s.add ((List.range 80).foldl (fun t i => round t i (w.getD i 0)) s)

/-- The digest of a message. -/
def digest (message : Bytes) : Bytes :=
  (foldBlocks block State.initial
    (padded (fun high low => bytesHighFirst high ++ bytesHighFirst low) message)).bytes

/-- A digest has twenty bytes. -/
theorem length_digest (message : Bytes) : (digest message).length = 20 := by
  simp [digest, State.bytes, bytesHighFirst]

end Depot.Digest.Sha1
