import Depot.Settings.Basic

/-!
# Reading settings

A settings file has lines `key = value`. A number sign begins a comment unless it stands between
double quotes; blank lines do not count. A later line of a key replaces an earlier one.

## Main definitions

* `Settings.parse?` : the settings that a text holds.
-/

namespace Depot.Settings

/-- A line up to its comment. Inside a pair of quotes there is no comment. -/
def beforeComment (quoted : Bool) : List Char → List Char
  | [] => []
  | c :: rest =>
    if c = '#' ∧ !quoted then []
    else c :: beforeComment (if c = '"' then !quoted else quoted) rest

/-- The text between the quotes of a value. -/
def readQuoted : List Char → Except ValueFault String
  | '"' :: rest =>
    if rest.getLast? = some '"' then .ok (String.ofList rest.dropLast) else .error .notQuoted
  | _ => .error .notQuoted

/-- The number that a value denotes. -/
def readNatural (value : List Char) : Except ValueFault Nat :=
  if value.isEmpty then .error .noInteger
  else
    match Number.signed? 128 value with
    | .error fault => .error (.integer fault)
    | .ok n =>
      if n < 0 then .error .negative
      else if Nat.pow 2 64 ≤ n.toNat then .error .tooLarge
      else .ok n.toNat

/-- A fault of the value of a key, with its line. -/
def atLine {α : Type} (key : String) (line : Nat) :
    Except ValueFault α → Except SettingsFault α
  | .ok a => .ok a
  | .error fault => .error (.value key line fault)

/-- The settings with the value of a key. -/
def set (s : Settings) (line : Nat) (key : String) (value : List Char) :
    Except SettingsFault Settings := do
  match key with
  | "download_root" =>
    .ok { s with downloadRoot := some ⟨← atLine key line (readQuoted value)⟩ }
  | "package_root" =>
    .ok { s with packageRoot := some ⟨← atLine key line (readQuoted value)⟩ }
  | "connect_timeout_secs" =>
    .ok { s with connectTimeoutSecs := some (← atLine key line (readNatural value)) }
  | "read_timeout_secs" =>
    .ok { s with readTimeoutSecs := some (← atLine key line (readNatural value)) }
  | "retry_initial_interval_ms" =>
    .ok { s with retryInitialIntervalMs := some (← atLine key line (readNatural value)) }
  | "max_retries" =>
    let n ← atLine key line (readNatural value)
    if Nat.pow 2 32 ≤ n then .error .tooManyRetries else .ok { s with maxRetries := some n }
  | "verbosity" =>
    let word ← atLine key line (readQuoted value)
    match Verbosity.ofName? word with
    | some verbosity => .ok { s with verbosity := some verbosity }
    | Option.none => .error (.verbosity word line)
  | _ => .error (.unknownKey key line)

/-- The settings after a line. -/
def readLine (s : Settings) (line : Nat) (text : List Char) : Except SettingsFault Settings :=
  let text := Text.trimChars (beforeComment false text)
  if text.isEmpty then .ok s
  else
    match Text.splitOnce '=' text with
    | Option.none => .error (.noEquals line)
    | some (key, value) =>
      s.set line (String.ofList (Text.trimChars key)) (Text.trimChars value)

/-- The settings after some lines, the first of which has the given number. -/
def readLines (s : Settings) (line : Nat) : List (List Char) → Except SettingsFault Settings
  | [] => .ok s
  | text :: rest => do readLines (← s.readLine line text) (line + 1) rest

/-- The settings that a text holds, if all numbers are in their ranges. -/
def parse? (text : String) : Except SettingsFault Settings := do
  let s ← readLines Settings.none 1 (Text.lines text.toList)
  match s.outOfRange? with
  | some fault => .error (.range fault)
  | Option.none => .ok s

end Depot.Settings
