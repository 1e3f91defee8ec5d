import Depot.CommandLine.Scan
import Depot.ObjectStore.Location
import Depot.Settings.Load

/-!
# The command line of the program

The program has a command for each of its tasks, and a few options that may stand before or after
the name of the command. An option that stands in both places counts as it stands after it.

## Main definitions

* `Command`, `Invocation` : the commands, and a command with the options for all commands.
* `Invocation.parse?` : the invocation that a command line denotes.
-/

namespace Depot

open CommandLine

/-- What the command line says about the host. -/
structure HostOptions where
  platform : Option String
  osVersion : Option String
  arch : Option String
  deriving DecidableEq, Repr

/-- The commands. -/
inductive Command
  | download (url : String) (checksums : List (String × String)) (transfer : TransferOptions)
  | parseUrl (url : String)
  | selectVariant (manifest : Path) (host : HostOptions)
  | latestVersion (component : String) (excluded : Option String) (packageRoot : Option Path)
  | fetchPackage (manifest : Path) (action : String) (base : Option String) (region : String)
      (host : HostOptions) (transfer : TransferOptions)
  deriving DecidableEq, Repr

/-- A command with the options for all commands. -/
structure Invocation where
  /-- How often more logging was asked for. -/
  verbose : Nat
  quiet : Bool
  config : Option Path
  command : Command
  deriving DecidableEq, Repr

namespace CommandLine

/-- The options for all commands. -/
def commonOptions : List OptionSpec := [
  ⟨"verbose", some 'v', .count⟩,
  ⟨"quiet", some 'q', .flag⟩,
  ⟨"config", none, .set .path⟩,
  ⟨"help", some 'h', .help⟩]

/-- The options for transfers. -/
def transferOptions : List OptionSpec := [
  ⟨"output-dir", some 'o', .set .path⟩,
  ⟨"max-retries", some 'r', .set (.number 1 100)⟩,
  ⟨"retry-interval-ms", none, .set (.number 1 10000)⟩]

/-- The options for the host. -/
def hostOptions : List OptionSpec := [
  ⟨"platform", none, .set .text⟩,
  ⟨"os-version", none, .set .text⟩,
  ⟨"arch", none, .set .text⟩]

/-- What stands before the name of a command. -/
def rootSpec : CommandSpec :=
  ⟨commonOptions ++ [⟨"version", some 'V', .version⟩], [],
    ["download", "parse-url", "select-variant", "latest-version", "fetch-package", "help"]⟩

/-- What may follow the name of a command. -/
def specOf (command : String) : CommandSpec :=
  let (options, operand) : List OptionSpec × OperandSpec :=
    match command with
    | "download" =>
      (⟨"checksum", none, .append .digest⟩ :: transferOptions, ⟨"url", .text⟩)
    | "parse-url" => ([], ⟨"url", .text⟩)
    | "select-variant" => (hostOptions, ⟨"manifest", .path⟩)
    | "latest-version" =>
      ([⟨"exclude", none, .set .text⟩, ⟨"package-root", none, .set .path⟩], ⟨"component", .text⟩)
    | _ =>
      ([⟨"action", none, .set .text⟩, ⟨"base-location", none, .set .text⟩,
          ⟨"region", none, .set .text⟩] ++ hostOptions ++ transferOptions,
        ⟨"manifest", .path⟩)
  ⟨options ++ commonOptions, [operand], []⟩

namespace Scan

/-- The options for transfers that have been taken. -/
def transfer (s : Scan) : TransferOptions :=
  ⟨(s.text? "output-dir").map Path.mk, s.number? "max-retries", s.number? "retry-interval-ms"⟩

/-- The options for the host that have been taken. -/
def host (s : Scan) : HostOptions :=
  ⟨s.text? "platform", s.text? "os-version", s.text? "arch"⟩

/-- The command that has been taken; `operand` is its operand. -/
def command (s : Scan) (name operand : String) : Command :=
  match name with
  | "download" => .download operand (s.digests "checksum") s.transfer
  | "parse-url" => .parseUrl operand
  | "select-variant" => .selectVariant ⟨operand⟩ s.host
  | "latest-version" =>
    .latestVersion operand (s.text? "exclude") ((s.text? "package-root").map Path.mk)
  | _ =>
    .fetchPackage ⟨operand⟩ ((s.text? "action").getD "install") (s.text? "base-location")
      ((s.text? "region").getD ObjectStore.defaultRegion) s.host s.transfer

end Scan

/-- How often more logging was asked for. The count is that of a byte. -/
def verboseCount (s : Scan) : Nat :=
  min 255 (s.values "verbose").length

/-- What asking for help on some commands comes to. -/
def helpOutcome : List String → UsageFault
  | [] => .displayHelp
  | [name] => if name ∈ rootSpec.commands then .displayHelp else .invalidSubcommand
  | _ => .invalidSubcommand

/-- The arguments of a command, with its operand. -/
def scanCommand (name : String) (args : List String) : Except UsageFault (Scan × Command) := do
  let spec := specOf name
  let (s, _) ← Scan.run spec (Scan.start spec) args
  let s ← s.settle
  match spec.operands.findSome? fun o => s.text? o.name with
  | some operand => .ok (s, s.command name operand)
  | none => .error .missingRequiredArgument

end CommandLine

/-- The invocation that a command line denotes. The faults of a command come before those of a value
in front of its name. -/
def Invocation.parse? (args : List String) : Except UsageFault Invocation := do
  let (outer, further) ← Scan.run rootSpec (Scan.start rootSpec) args
  match further with
  | none =>
    let outer ← outer.settle
    .error (if outer.taken.isEmpty then .helpForMissingArguments else .missingSubcommand)
  | some ("help", names) => .error (helpOutcome names)
  | some (name, rest) =>
    let (inner, command) ← scanCommand name rest
    let outer ← outer.settle
    .ok {
      verbose := verboseCount (if inner.has "verbose" then inner else outer)
      quiet := inner.has "quiet" || outer.has "quiet"
      config := ((inner.text? "config").or (outer.text? "config")).map Path.mk
      command }

end Depot
