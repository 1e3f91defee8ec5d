/-!
# Whole numbers in decimal digits

Numbers are written in the digits `0` to `9`, without a superfluous zero in front, and read from
any nonempty run of these digits. Bounded reading goes digit by digit from the left and stops at
the first fault: a character that is no digit, or a value beyond the bound.

## Main definitions

* `digits` : the digits of a number.
* `natural?`, `naturalBelow?` : the number that a run of digits denotes.
* `signed?` : a number with an optional sign, within the bounds of a signed word.
-/

namespace Depot.Number

/-- The digit of a number below ten. -/
def digitChar (d : Nat) : Char :=
  Char.ofNat (48 + d)

/-- The value of an ASCII digit. -/
def digitValue? (c : Char) : Option Nat :=
  if '0' ≤ c ∧ c ≤ '9' then some (c.toNat - 48) else none

/-- The decimal digits of a number. -/
def digits (n : Nat) : List Char :=
  if n < 10 then [digitChar n] else digits (n / 10) ++ [digitChar (n % 10)]

/-- The decimal text of a number. -/
def text (n : Nat) : String :=
  String.ofList (digits n)

/-- The value of a run of digits that follows digits of the value `value`. -/
def readDigits (value : Nat) : List Char → Option Nat
  | [] => some value
  | c :: rest =>
    match digitValue? c with
    | some d => readDigits (10 * value + d) rest
    | none => none

/-- The number that a nonempty run of digits denotes. -/
def natural? (cs : List Char) : Option Nat :=
  if cs.isEmpty then none else readDigits 0 cs

/-- The number that a nonempty run of digits denotes, if it lies below the bound. -/
def naturalBelow? (bound : Nat) (cs : List Char) : Option Nat :=
  (natural? cs).filter (· < bound)

/-- Why a text is no number of a signed word. -/
inductive SignedFault
  | invalidDigit
  | tooLarge
  | tooSmall
  deriving DecidableEq, Repr

/-- The words of a fault. -/
def SignedFault.message : SignedFault → String
  | .invalidDigit => "invalid digit found in string"
  | .tooLarge => "number too large to fit in target type"
  | .tooSmall => "number too small to fit in target type"

/-- The value of digits that follow digits of the value `value`, while it stays within `bound`. -/
def readBounded (bound : Nat) (beyond : SignedFault) (value : Nat) :
    List Char → Except SignedFault Nat
  | [] => .ok value
  | c :: rest =>
    match digitValue? c with
    | none => .error .invalidDigit
    | some d =>
      if bound < 10 * value + d then .error beyond
      else readBounded bound beyond (10 * value + d) rest

/-- The number that an optional sign and a nonempty run of digits denote, if it fits a signed word
of the given number of bits. -/
def signed? (bits : Nat) : List Char → Except SignedFault Int
  | '-' :: rest =>
    if rest.isEmpty then .error .invalidDigit
    else (readBounded (Nat.pow 2 (bits - 1)) .tooSmall 0 rest).map fun n => -Int.ofNat n
  | '+' :: rest =>
    if rest.isEmpty then .error .invalidDigit
    else (readBounded (Nat.pow 2 (bits - 1) - 1) .tooLarge 0 rest).map Int.ofNat
  | cs =>
    if cs.isEmpty then .error .invalidDigit
    else (readBounded (Nat.pow 2 (bits - 1) - 1) .tooLarge 0 cs).map Int.ofNat

end Depot.Number
