/-!
# Bytes, words and hexadecimal text

Byte strings are lists of bytes. The digests of this library work on 32-bit words, cut messages
into blocks of 64 bytes and print their results as lowercase hexadecimal digits.

## Main definitions

* `Bytes` : byte strings.
* `hexText` : two lowercase digits for each byte.
* `padded` : a message with the length block that the digests append.
* `foldBlocks` : a fold over the blocks of 64 bytes of a message.
-/

namespace Depot

/-- A byte string. -/
abbrev Bytes := List UInt8

namespace Bytes

/-- The bytes of a text in UTF-8. -/
def ofText (s : String) : Bytes :=
  s.toUTF8.data.toList

/-- The text whose UTF-8 form the bytes are, if there is one. -/
def toText? (bytes : Bytes) : Option String :=
  String.fromUTF8? ⟨bytes.toArray⟩

end Bytes

namespace Digest

/-- The lowercase hexadecimal digit of a number below sixteen. -/
def hexDigit (n : Nat) : Char :=
  if n < 10 then Char.ofNat (48 + n) else Char.ofNat (87 + n)

/-- The two digits of a byte, the higher one first. -/
def hexByte (b : UInt8) : List Char :=
  [hexDigit (b.toNat / 16), hexDigit (b.toNat % 16)]

/-- The hexadecimal text of a byte string. -/
def hexText (bytes : Bytes) : String :=
  String.ofList (bytes.flatMap hexByte)

/-- The value of a hexadecimal digit of either case. -/
def hexValue? (c : Char) : Option Nat :=
  if '0' ≤ c ∧ c ≤ '9' then some (c.toNat - 48)
  else if 'a' ≤ c ∧ c ≤ 'f' then some (c.toNat - 87)
  else if 'A' ≤ c ∧ c ≤ 'F' then some (c.toNat - 55)
  else none

/-- The four bytes of a word, the most significant one first. -/
def bytesHighFirst (w : UInt32) : Bytes :=
  [(w >>> 24).toUInt8, (w >>> 16).toUInt8, (w >>> 8).toUInt8, w.toUInt8]

/-- The four bytes of a word, the least significant one first. -/
def bytesLowFirst (w : UInt32) : Bytes :=
  [w.toUInt8, (w >>> 8).toUInt8, (w >>> 16).toUInt8, (w >>> 24).toUInt8]

/-- The words of a byte string whose most significant bytes come first. -/
def wordsHighFirst : Bytes → List UInt32
  | a :: b :: c :: d :: rest =>
    ((a.toUInt32 <<< 24) ||| (b.toUInt32 <<< 16) ||| (c.toUInt32 <<< 8) ||| d.toUInt32) ::
      wordsHighFirst rest
  | _ => []

/-- The words of a byte string whose least significant bytes come first. -/
def wordsLowFirst : Bytes → List UInt32
  | a :: b :: c :: d :: rest =>
    (a.toUInt32 ||| (b.toUInt32 <<< 8) ||| (c.toUInt32 <<< 16) ||| (d.toUInt32 <<< 24)) ::
      wordsLowFirst rest
  | _ => []

/-- A word turned to the left by a number of bits below 32. -/
def rotateLeft (w : UInt32) (n : UInt32) : UInt32 :=
  (w <<< n) ||| (w >>> (32 - n))

/-- A word turned to the right by a number of bits below 32. -/
def rotateRight (w : UInt32) (n : UInt32) : UInt32 :=
  (w >>> n) ||| (w <<< (32 - n))

/-- A message followed by a one bit, zeros, and the eight bytes of its length in bits, so that the
whole is a number of blocks of 64 bytes. -/
def padded (lengthBytes : UInt32 → UInt32 → Bytes) (message : Bytes) : Bytes :=
  let size := message.length
  let bits := 8 * size
  message ++ 0x80 :: List.replicate ((119 - size % 64) % 64) 0 ++
    lengthBytes (UInt32.ofNat (bits / Nat.pow 2 32)) (UInt32.ofNat bits)

/-- A fold over the first `count` blocks of 64 bytes of a message. -/
def foldFirstBlocks {σ : Type} (step : σ → Bytes → σ) (state : σ) (message : Bytes) : Nat → σ
  | 0 => state
  | count + 1 =>
    foldFirstBlocks step (step state (message.take 64)) (message.drop 64) count

/-- A fold over the blocks of 64 bytes of a message; bytes that do not fill a block are left out. -/
def foldBlocks {σ : Type} (step : σ → Bytes → σ) (state : σ) (message : Bytes) : σ :=
  foldFirstBlocks step state message (message.length / 64)

end Digest

end Depot
