import Depot.Files.Store
import Depot.Number.Decimal

/-!
# Settings

A settings file may set directories, times, the retries and how much is logged. Every number has a
range.

## Main definitions

* `Settings` : the settings of a file, each of them optional.
* `Settings.outOfRange?` : the first number that lies outside its range.
* `Verbosity`, `logLevel` : how much is logged.
* `SettingsFault`, `SettingsFault.messages` : what can be wrong with a file.
-/

namespace Depot

/-- How much is logged. -/
inductive Verbosity
  | default
  | verbose
  | quiet
  | debug
  deriving DecidableEq, Repr

namespace Verbosity

/-- The verbosity that a word names. -/
def ofName? : String → Option Verbosity
  | "default" => some default
  | "verbose" => some verbose
  | "quiet" => some quiet
  | "debug" => some debug
  | _ => none

/-- The level of the log under a verbosity. -/
def logLevel : Verbosity → String
  | default => "info"
  | verbose => "debug"
  | quiet => "error"
  | debug => "trace"

end Verbosity

/-- The level of the log: asking for quiet comes first, then the number of times that more was asked
for, then the settings. -/
def logLevel (more : Nat) (quiet : Bool) (verbosity : Option Verbosity) : String :=
  if quiet then "error"
  else
    match more with
    | 0 => (verbosity.map Verbosity.logLevel).getD "info"
    | 1 => "debug"
    | _ => "trace"

/-- The settings of a file. -/
structure Settings where
  downloadRoot : Option Path
  packageRoot : Option Path
  connectTimeoutSecs : Option Nat
  readTimeoutSecs : Option Nat
  retryInitialIntervalMs : Option Nat
  maxRetries : Option Nat
  verbosity : Option Verbosity
  deriving DecidableEq, Repr

/-- The settings of a file that sets nothing. -/
def Settings.none : Settings :=
  ⟨Option.none, Option.none, Option.none, Option.none, Option.none, Option.none, Option.none⟩

/-! ### Faults -/

/-- Why a text is no value of the kind that its key asks for. -/
inductive ValueFault
  | notQuoted
  | noInteger
  | integer (fault : Number.SignedFault)
  | negative
  | tooLarge
  | unknownVerbosity
  deriving DecidableEq, Repr

/-- The words for a fault. -/
def ValueFault.message : ValueFault → String
  | notQuoted => "Expected double-quoted string"
  | noInteger => "Expected integer value"
  | integer fault => fault.message
  | negative => "Expected non-negative integer"
  | tooLarge => "Integer value out of range for u64"
  | unknownVerbosity => "Expected one of: default, verbose, quiet, debug"

/-- A number outside its range. -/
structure RangeFault where
  key : String
  value : Nat
  least : Nat
  greatest : Nat
  deriving DecidableEq, Repr

/-- What is wrong with a settings file. Lines are counted from one. -/
inductive SettingsFault
  | noEquals (line : Nat)
  | unknownKey (key : String) (line : Nat)
  | value (key : String) (line : Nat) (fault : ValueFault)
  | verbosity (word : String) (line : Nat)
  | tooManyRetries
  | range (fault : RangeFault)
  deriving DecidableEq, Repr

/-- The words for a fault, the outermost first. -/
def SettingsFault.messages : SettingsFault → List String
  | noEquals line =>
    ["Invalid config syntax on line " ++ Number.text line ++ ": expected key = value"]
  | unknownKey key line =>
    ["Unknown configuration key: '" ++ key ++ "' on line " ++ Number.text line]
  | value key line fault =>
    ["Invalid \x60" ++ key ++ "\x60 value on line " ++ Number.text line, fault.message]
  | verbosity word line =>
    ["Invalid \x60verbosity\x60 value '" ++ word ++ "' on line " ++ Number.text line,
      ValueFault.message .unknownVerbosity]
  | tooManyRetries => ["max_retries out of range for u32"]
  | range fault =>
    ["Invalid config value for \x60" ++ fault.key ++ "\x60: " ++ Number.text fault.value ++
      ". Expected range: " ++ Number.text fault.least ++ "..=" ++ Number.text fault.greatest]

namespace Settings

/-- A number outside a range. -/
def checkRange (key : String) (least greatest : Nat) (value : Option Nat) : Option RangeFault :=
  value.bind fun n =>
    if least ≤ n ∧ n ≤ greatest then Option.none else some ⟨key, n, least, greatest⟩

/-- The first number that lies outside its range. -/
def outOfRange? (s : Settings) : Option RangeFault :=
  (checkRange "connect_timeout_secs" 1 3600 s.connectTimeoutSecs).or <|
    (checkRange "read_timeout_secs" 1 3600 s.readTimeoutSecs).or <|
      (checkRange "retry_initial_interval_ms" 1 10000 s.retryInitialIntervalMs).or <|
        checkRange "max_retries" 1 100 s.maxRetries

end Settings

end Depot
