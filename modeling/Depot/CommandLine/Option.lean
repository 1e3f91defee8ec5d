import Depot.Number.Decimal
import Depot.Text.Blank

/-!
# Options of a command line

A command has options, which may take a value, operands, and perhaps further commands. Options have
a long name behind two hyphens and may have a letter behind one. A value is read as its option asks
for.

## Main definitions

* `OptionSpec`, `OperandSpec`, `CommandSpec` : what a command line may hold.
* `OptionValue`, `ValueKind.read` : values, and reading them.
* `UsageFault` : what can be wrong with a command line.
-/

namespace Depot.CommandLine

/-- Why a command line is not carried out. Asking for help or for the version is among the
reasons. -/
inductive UsageFault
  | unknownArgument
  | invalidValue
  | valueValidation
  | missingRequiredArgument
  | argumentConflict
  | invalidSubcommand
  | missingSubcommand
  | tooManyValues
  | displayHelp
  | displayVersion
  | helpForMissingArguments
  deriving DecidableEq, Repr

/-- The values of options and operands. -/
inductive OptionValue
  | text (s : String)
  | number (n : Nat)
  | digest (algorithm digits : String)
  deriving DecidableEq, Repr

/-- What kind of value an option or an operand takes. -/
inductive ValueKind
  | text
  | path
  /-- A number between two bounds. -/
  | number (least greatest : Nat)
  | digest
  deriving DecidableEq, Repr

/-- What an option does. -/
inductive OptionAction
  /-- Takes a value, once. -/
  | set (kind : ValueKind)
  /-- Takes a value, as often as it is given. -/
  | append (kind : ValueKind)
  /-- Is on when it is given, once. -/
  | flag
  /-- Counts how often it is given. -/
  | count
  | help
  | version
  deriving DecidableEq, Repr

/-- An option: its long name, its letter, and what it does. -/
structure OptionSpec where
  name : String
  letter : Option Char
  action : OptionAction
  deriving DecidableEq, Repr

/-- An operand: its name and the kind of its value. -/
structure OperandSpec where
  name : String
  kind : ValueKind
  deriving DecidableEq, Repr

/-- What may follow a command: options, operands, which all must be there, and further commands. -/
structure CommandSpec where
  options : List OptionSpec
  operands : List OperandSpec
  commands : List String
  deriving DecidableEq, Repr

/-- A digest behind the name of its algorithm and an equals sign; without a name it has the empty
one. -/
def readDigest (s : String) : Option (String × String) :=
  let (algorithm, digits) := (Text.splitOnce '=' s.toList).getD ([], s.toList)
  let digits := Text.trimChars digits
  if digits.isEmpty then none
  else some (Text.asciiLower (String.ofList (Text.trimChars algorithm)), String.ofList digits)

/-- The number that an optional plus sign and digits denote. -/
def readNumber (s : String) : Option Nat :=
  match s.toList with
  | '+' :: ds => Number.natural? ds
  | ds => Number.natural? ds

/-- The value of a kind that a text denotes. A path is never empty. -/
def ValueKind.read (s : String) : ValueKind → Except UsageFault OptionValue
  | text => .ok (.text s)
  | path => if s.isEmpty then .error .invalidValue else .ok (.text s)
  | number least greatest =>
    match readNumber s with
    | some n =>
      if least ≤ n ∧ n ≤ greatest then .ok (.number n) else .error .valueValidation
    | none => .error .valueValidation
  | digest =>
    match readDigest s with
    | some (algorithm, digits) => .ok (.digest algorithm digits)
    | none => .error .valueValidation

/-- The kind of value that an option takes. -/
def OptionAction.kind? : OptionAction → Option ValueKind
  | set kind | append kind => some kind
  | flag | count | help | version => none

end Depot.CommandLine
