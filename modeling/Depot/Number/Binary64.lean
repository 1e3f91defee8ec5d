import Depot.Number.Decimal

/-!
# Numbers of the binary64 format

A finite number of the format is a whole number below `2 ^ 53` times a power of two. All arithmetic
is exact on fractions of whole numbers and rounds once, to the nearest number of the format and to
the even one of two equally near.

A number is written in the fewest decimal digits that read back as the same number, and of these in
the nearest ones. Of two equally near, the text that never has an exponent takes the larger one and
the other text the even one.

## Main definitions

* `Binary64`, `Binary64.nearest` : the numbers, and the one nearest to a fraction.
* `Binary64.shortest` : the digits and the power of ten in which a number is written.
* `Binary64.positional`, `Binary64.compact` : the two texts of a number, one never with an exponent
  and one with an exponent for large and small numbers.
* `Binary64.parse?` : the number nearest to the one that a text denotes.
-/

namespace Depot.Number

/-- A number of the binary64 format. A finite one is `mantissa * 2 ^ exponent`, with its sign. -/
inductive Binary64
  | nan
  | infinite (negative : Bool)
  | finite (negative : Bool) (mantissa : Nat) (exponent : Int)
  deriving DecidableEq, Repr

namespace Binary64

/-- The least exponent of a finite number. -/
abbrev minExponent : Int := -1074

/-- The greatest exponent of a finite number. -/
abbrev maxExponent : Int := 971

/-- A fraction times a power of two, as a fraction. -/
def scaledByTwo (num den : Nat) (e : Int) : Nat × Nat :=
  if 0 ≤ e then (num * Nat.pow 2 e.toNat, den) else (num, den * Nat.pow 2 (-e).toNat)

/-- A fraction times a power of ten, as a fraction. -/
def scaledByTen (num den : Nat) (e : Int) : Nat × Nat :=
  if 0 ≤ e then (num * Nat.pow 10 e.toNat, den) else (num, den * Nat.pow 10 (-e).toNat)

/-- Where a half goes when a number is rounded to a whole one. -/
inductive Half
  | up
  | even
  deriving DecidableEq, Repr

/-- The whole number to which the half above `q` is rounded. -/
def Half.round : Half → Nat → Nat
  | up, q => q + 1
  | even, q => q + q % 2

/-- The quotient of two numbers rounded to the nearest whole number. -/
def divNearest (half : Half) (num den : Nat) : Nat :=
  let q := num / den
  let r := num % den
  if 2 * r < den then q else if den < 2 * r then q + 1 else half.round q

/-- The exponent with which the fraction `num / den` is rounded to 53 bits. -/
def exponentOf (num den : Nat) : Int :=
  let guess : Int := (Nat.log2 num : Int) - (Nat.log2 den : Int) - 53
  let (n, d) := scaledByTwo num den (-guess)
  max minExponent (if Nat.pow 2 53 ≤ n / d then guess + 1 else guess)

/-- The number of the format nearest to the fraction `num / den`. -/
def nearest (negative : Bool) (num den : Nat) : Binary64 :=
  if num = 0 then finite negative 0 minExponent
  else
    let e := exponentOf num den
    let (n, d) := scaledByTwo num den (-e)
    let m := divNearest .even n d
    let (m, e) := if m = Nat.pow 2 53 then (Nat.pow 2 52, e + 1) else (m, e)
    if maxExponent < e then infinite negative else finite negative m e

/-- The number of the format nearest to a whole number. -/
def ofNat (n : Nat) : Binary64 :=
  nearest false n 1

/-- The size of a finite number as a fraction. -/
def fraction (mantissa : Nat) (exponent : Int) : Nat × Nat :=
  scaledByTwo mantissa 1 exponent

/-! ### Shortest decimal digits -/

/-- Digits of a number: `coefficient * 10 ^ exponent`. -/
structure Decimals where
  coefficient : Nat
  exponent : Int
  deriving DecidableEq, Repr

/-- Whether a coefficient times a power of ten lies in the interval of the fractions that round to
the number with the given mantissa and exponent. The ends belong to it for an even mantissa. -/
def roundsTo (mantissa : Nat) (exponent : Int) (c : Nat) (k : Int) : Bool :=
  -- All sizes in quarters of the last place of the number.
  let lower :=
    if mantissa = Nat.pow 2 52 ∧ minExponent < exponent then 4 * mantissa - 1 else 4 * mantissa - 2
  let upper := 4 * mantissa + 2
  let (n, d) := scaledByTen c 1 k
  let (n, d) := scaledByTwo n d (2 - exponent)
  if mantissa % 2 = 0 then lower * d ≤ n && n ≤ upper * d else lower * d < n && n < upper * d

/-- The power of ten of the leading digit of a fraction that is at least one. -/
def leadingPower (num den : Nat) : Nat :=
  (digits (num / den)).length - 1

/-- The power of ten of the leading digit of a positive fraction. -/
def leadingExponent (num den : Nat) : Int :=
  if den ≤ num then leadingPower num den
  else
    -- The leading digit of `num / den` is the one of `10 ^ k * num / den` for the least such
    -- power that is at least one.
    let k := (digits (den / num)).length
    if den ≤ Nat.pow 10 (k - 1) * num then -((k : Int) - 1) else -(k : Int)

/-- The digits nearest to a number among those with `count` digits that read back, if any. -/
def withDigits (half : Half) (mantissa : Nat) (exponent : Int) (count : Nat) : Option Decimals :=
  let (n, d) := fraction mantissa exponent
  let k := leadingExponent n d - (count : Int) + 1
  let (n, d) := scaledByTen n d (-k)
  let below := n / d
  let lowFits := roundsTo mantissa exponent below k
  let highFits := roundsTo mantissa exponent (below + 1) k
  if lowFits && highFits then some ⟨divNearest half n d, k⟩
  else if lowFits then some ⟨below, k⟩
  else if highFits then some ⟨below + 1, k⟩
  else none

/-- A coefficient without zeros at its end. -/
def dropZeros (fuel : Nat) (d : Decimals) : Decimals :=
  match fuel with
  | 0 => d
  | fuel + 1 =>
    if d.coefficient ≠ 0 ∧ d.coefficient % 10 = 0 then
      dropZeros fuel ⟨d.coefficient / 10, d.exponent + 1⟩
    else d

/-- The fewest digits that read back as a positive number, and the nearest of these. Seventeen
always do. -/
def shortest (half : Half) (mantissa : Nat) (exponent : Int) : Decimals :=
  let found := (List.range 17).findSome? fun i => withDigits half mantissa exponent (i + 1)
  dropZeros 20 (found.getD ⟨0, 0⟩)

/-! ### Texts -/

/-- A minus sign in front of a negative number. -/
def withSign (negative : Bool) (cs : List Char) : String :=
  String.ofList (if negative then '-' :: cs else cs)

/-- Digits with a decimal point after the first `point` of them, filled up with zeros; nothing
after the point when it would stand at the end. -/
def pointed (ds : List Char) (point : Int) : List Char :=
  if point ≤ 0 then '0' :: '.' :: List.replicate (-point).toNat '0' ++ ds
  else
    let whole := ds.take point.toNat ++ List.replicate (point.toNat - ds.length) '0'
    let fractional := ds.drop point.toNat
    if fractional.isEmpty then whole else whole ++ '.' :: fractional

/-- The text of a number that never has an exponent: `1`, `0.25`, `-0`. -/
def positional : Binary64 → String
  | nan => "NaN"
  | infinite negative => withSign negative "inf".toList
  | finite negative 0 _ => withSign negative ['0']
  | finite negative m e =>
    let s := shortest .up m e
    let ds := digits s.coefficient
    withSign negative (pointed ds (ds.length + s.exponent))

/-- The digits of an exponent after its sign. -/
def exponentText (e : Int) : List Char :=
  (if e < 0 then '-' else '+') :: digits e.natAbs

/-- The text of a number that keeps a fractional digit, and has an exponent where the decimal point
would stand more than sixteen digits to the right or five zeros to the left: `1.0`, `0.25`,
`1.5e+30`. -/
def compact : Binary64 → String
  | nan => "null"
  | infinite _ => "null"
  | finite negative 0 _ => withSign negative "0.0".toList
  | finite negative m e =>
    let s := shortest .even m e
    let ds := digits s.coefficient
    let point : Int := ds.length + s.exponent
    withSign negative <|
      if -5 < point ∧ point ≤ 16 then
        let cs := pointed ds point
        if 0 ≤ s.exponent then cs ++ ['.', '0'] else cs
      else
        match ds with
        | [] => []
        | [d] => d :: 'e' :: exponentText (point - 1)
        | d :: rest => d :: '.' :: rest ++ 'e' :: exponentText (point - 1)

/-! ### Reading -/

/-- The number nearest to `coefficient * 10 ^ exponent`. Exponents far outside the range of the
format are settled by the number of digits alone. -/
def ofDecimals (negative : Bool) (d : Decimals) : Binary64 :=
  let size : Int := (digits d.coefficient).length + d.exponent
  if d.coefficient = 0 then finite negative 0 minExponent
  else if 400 < size then infinite negative
  else if size < -400 then finite negative 0 minExponent
  else
    let (n, den) := scaledByTen d.coefficient 1 d.exponent
    nearest negative n den

/-- An exponent part: nothing, or a mark, an optional sign and digits. -/
def exponent? : List Char → Option Int
  | [] => some 0
  | mark :: rest =>
    if mark = 'e' ∨ mark = 'E' then
      match rest with
      | '-' :: ds => (natural? ds).map fun n => -Int.ofNat n
      | '+' :: ds => (natural? ds).map Int.ofNat
      | ds => (natural? ds).map Int.ofNat
    else none

/-- A text without sign: a word for infinity or for no number, or digits with an optional point and
an optional exponent. -/
def parseUnsigned? (negative : Bool) (cs : List Char) : Option Binary64 :=
  let word := cs.map Char.toLower
  if word = "inf".toList ∨ word = "infinity".toList then some (infinite negative)
  else if word = "nan".toList then some nan
  else
    let (whole, rest) := cs.span Char.isDigit
    let (fractional, rest) :=
      match rest with
      | '.' :: more => more.span Char.isDigit
      | _ => ([], rest)
    if whole.isEmpty && fractional.isEmpty then none
    else
      (exponent? rest).bind fun e =>
        (readDigits 0 (whole ++ fractional)).map fun c =>
          ofDecimals negative ⟨c, e - fractional.length⟩

/-- The number nearest to the one that a text denotes. -/
def parse? (s : String) : Option Binary64 :=
  match s.toList with
  | '-' :: cs => parseUnsigned? true cs
  | '+' :: cs => parseUnsigned? false cs
  | cs => parseUnsigned? false cs

/-- The product of a nonnegative number and a power of ten that has been rounded to the format. -/
def timesTen (x : Binary64) (power : Nat) : Binary64 :=
  match x, ofNat (Nat.pow 10 power) with
  | finite s m e, finite _ n f =>
    let (num, den) := scaledByTwo (m * n) 1 (e + f)
    nearest s num den
  | x, _ => x

/-- The quotient of a nonnegative number and a power of ten that has been rounded to the format. -/
def overTen (x : Binary64) (power : Nat) : Binary64 :=
  match x, ofNat (Nat.pow 10 power) with
  | finite s m e, finite _ n f =>
    let (num, den) := scaledByTwo m n (e - f)
    nearest s num den
  | x, _ => x

/-- The number with the opposite sign. -/
def negate : Binary64 → Binary64
  | nan => nan
  | infinite s => infinite (!s)
  | finite s m e => finite (!s) m e

end Binary64

end Depot.Number
