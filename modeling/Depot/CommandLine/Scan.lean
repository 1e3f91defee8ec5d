import Depot.Assoc
import Depot.CommandLine.Option

/-!
# Scanning a command line

The arguments of a command are taken from left to right. An option whose value is the next argument
stays *pending*, and so does an operand, until the next option, the next operand or the end of the
command settles it: only then its value is read. Two hyphens end the options. The name of a further
command ends the arguments of this one.

## Main definitions

* `Scan` : what has been taken so far.
* `Scan.run` : the arguments of a command, up to a further command.
* `Scan.settle` : what has been taken with the pending value read.
-/

namespace Depot.CommandLine

/-- An option or an operand whose value has not been read yet. -/
structure Pending where
  name : String
  action : OptionAction
  value : Option String
  deriving DecidableEq, Repr

/-- What has been taken so far: the values by name, what is pending, whether its value comes next,
the operands that may follow, and whether the options have ended. -/
structure Scan where
  taken : Assoc String (List OptionValue)
  pending : Option Pending
  awaiting : Bool
  operands : List OperandSpec
  literal : Bool
  deriving DecidableEq, Repr

/-- The shapes of an argument. -/
inductive Shape
  | endOfOptions
  | long (name : String) (value : Option String)
  | letters (cs : List Char)
  | plain
  deriving DecidableEq, Repr

/-- The shape of an argument. A lone hyphen is plain. -/
def Shape.of (arg : String) : Shape :=
  match arg.toList with
  | ['-', '-'] => endOfOptions
  | '-' :: '-' :: rest =>
    match Text.splitOnce '=' rest with
    | some (name, value) => long (String.ofList name) (some (String.ofList value))
    | none => long (String.ofList rest) none
  | '-' :: c :: rest => letters (c :: rest)
  | _ => plain

namespace Scan

/-- Nothing has been taken yet. -/
def start (spec : CommandSpec) : Scan :=
  ⟨[], none, false, spec.operands, false⟩

/-- The values of a name. -/
def values (s : Scan) (name : String) : List OptionValue :=
  (s.taken.get? name).getD []

/-- Whether a name has been taken. -/
def has (s : Scan) (name : String) : Bool :=
  s.taken.contains name

/-- What has been taken with more values of a name. -/
def add (s : Scan) (name : String) (values : List OptionValue) : Scan :=
  { s with taken := s.taken.insert name (s.values name ++ values) }

/-- What has been taken with an option or an operand, which comes with a value if it takes one. -/
def take (s : Scan) (name : String) (action : OptionAction) (value : Option String) :
    Except UsageFault Scan :=
  match action, value with
  | .help, _ => .error .displayHelp
  | .version, _ => .error .displayVersion
  | .flag, _ => if s.has name then .error .argumentConflict else .ok (s.add name [])
  | .count, _ => .ok (s.add name [.number 1])
  | .set _, none | .append _, none => .error .invalidValue
  | .set kind, some value =>
    if s.has name then .error .argumentConflict
    else (kind.read value).map fun v => s.add name [v]
  | .append kind, some value => (kind.read value).map fun v => s.add name [v]

/-- What has been taken with the pending value read. -/
def settle (s : Scan) : Except UsageFault Scan :=
  match s.pending with
  | none => .ok { s with awaiting := false }
  | some p => { s with pending := none, awaiting := false }.take p.name p.action p.value

/-- An option, with its value if it is part of the argument. -/
def takeOption (s : Scan) (o : OptionSpec) (attached : Option String) :
    Except UsageFault Scan := do
  let s ← s.settle
  if o.action.kind?.isSome ∧ attached.isNone then
    .ok { s with pending := some ⟨o.name, o.action, none⟩, awaiting := true }
  else s.take o.name o.action attached

/-- An option by its long name. -/
def takeLong (s : Scan) (spec : CommandSpec) (name : String) (attached : Option String) :
    Except UsageFault Scan :=
  match spec.options.find? fun o => o.name = name with
  | none => .error .unknownArgument
  | some o =>
    if o.action.kind?.isNone ∧ attached.isSome then .error .tooManyValues
    else s.takeOption o attached

/-- Options by their letters. What follows the letter of an option with a value is the value, an
equals sign in front left out. -/
def takeLetters (s : Scan) (spec : CommandSpec) : List Char → Except UsageFault Scan
  | [] => .ok s
  | c :: rest =>
    match spec.options.find? fun o => o.letter = some c with
    | none => .error .unknownArgument
    | some o =>
      if o.action.kind?.isNone then do takeLetters (← s.takeOption o none) spec rest
      else
        match rest with
        | [] => s.takeOption o none
        | '=' :: value => s.takeOption o (some (String.ofList value))
        | value => s.takeOption o (some (String.ofList value))

/-- An operand. One too many is taken for a further command where there are such. -/
def takeOperand (s : Scan) (spec : CommandSpec) (arg : String) : Except UsageFault Scan :=
  match s.operands with
  | o :: rest => do
    let s ← s.settle
    .ok { s with pending := some ⟨o.name, .set o.kind, some arg⟩, operands := rest }
  | [] =>
    if spec.commands.isEmpty ∨ (s.literal ∧ arg ∈ spec.commands) then .error .unknownArgument
    else .error .invalidSubcommand

/-- A plain argument: the value that comes next, or an operand. -/
def takePlain (s : Scan) (spec : CommandSpec) (arg : String) : Except UsageFault Scan :=
  match s.awaiting, s.pending with
  | true, some p =>
    .ok { s with pending := some { p with value := some arg }, awaiting := false }
  | _, _ => s.takeOperand spec arg

/-- An argument that is no further command. -/
def takeArgument (s : Scan) (spec : CommandSpec) (arg : String) : Except UsageFault Scan :=
  if s.literal then s.takeOperand spec arg
  else
    match Shape.of arg with
    | .endOfOptions => .ok { s with literal := true }
    | .long name value => s.takeLong spec name value
    | .letters cs => s.takeLetters spec cs
    | .plain => s.takePlain spec arg

/-- Whether an argument is the name of a further command. -/
def endsAt (s : Scan) (spec : CommandSpec) (arg : String) : Bool :=
  !s.literal && !s.awaiting && arg ∈ spec.commands

/-- The arguments of a command, and the further command with its arguments if there is one. -/
def run (spec : CommandSpec) (s : Scan) :
    List String → Except UsageFault (Scan × Option (String × List String))
  | [] => .ok (s, none)
  | arg :: rest =>
    if s.endsAt spec arg then .ok (s, some (arg, rest))
    else do run spec (← s.takeArgument spec arg) rest

/-- The first value of a name that is a text. -/
def text? (s : Scan) (name : String) : Option String :=
  (s.values name).findSome? fun
    | .text v => some v
    | _ => none

/-- The first value of a name that is a number. -/
def number? (s : Scan) (name : String) : Option Nat :=
  (s.values name).findSome? fun
    | .number n => some n
    | _ => none

/-- The digests of a name. -/
def digests (s : Scan) (name : String) : List (String × String) :=
  (s.values name).filterMap fun
    | .digest algorithm digits => some (algorithm, digits)
    | _ => none

end Scan

end Depot.CommandLine
