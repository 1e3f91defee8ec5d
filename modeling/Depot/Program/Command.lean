import Depot.CommandLine.Invocation
import Depot.Fetch.Download
import Depot.Json.Printer
import Depot.Package.Component
import Depot.Package.HostPlatform
import Depot.Program.Fault

/-!
# Carrying out commands

A run loads the settings and carries out one command. The command either comes to a text, which is
all that the program prints, or fails and prints nothing. What it needs of the machine it reaches
through the file store, the clock and the transports that it is run with.

## Main definitions

* `Surroundings` : what a run is told of its surroundings.
* `Command.run` : one command under given settings.
* `Invocation.run` : a run.
-/

namespace Depot

/-- What a run is told of its surroundings. -/
structure Surroundings where
  /-- The settings file where the command line names none. -/
  settingsFile : Option Path
  /-- The directory for temporary files. -/
  tempDir : Path
  /-- The name of the architecture of the machine. -/
  archName : String
  deriving DecidableEq, Repr

/-! ### Texts -/

/-- Lines of text, each with its line break. -/
def textOfLines (lines : List String) : String :=
  String.join (lines.map (· ++ "\n"))

/-- The word for a verification. -/
def Verification.text : Verification → String
  | skipped => "skipped"
  | matched algorithms => ",".intercalate (algorithms.map HashAlgorithm.name)

/-- The lines that tell what a download has come to. -/
def FetchResult.lines (r : FetchResult) : List String := [
  "path = " ++ r.path.text,
  "updated = " ++ (if r.updated then "true" else "false"),
  "verification = " ++ r.verification.text]

/-- What a URL names, as an object. Without a location all is empty. -/
def ObjectLocation.toJson (location : Option ObjectLocation) : Json :=
  let l := location.getD ⟨false, "", "", ""⟩
  .object [
    ("is_valid_s3_uri", .bool location.isSome),
    ("is_path_style", .bool l.isPathStyle),
    ("bucket", .text l.bucket),
    ("key", .text l.key),
    ("region", .text l.region)]

/-- The keys that stand for a host, as an object. -/
def hostKeysJson (platform osVersion arch : String) : Json :=
  .object [("arch", .text arch), ("os_version", .text osVersion), ("platform", .text platform)]

/-- A selection for a host, as an object. -/
def VariantSelection.toJson (s : VariantSelection) (host : HostPlatform) : Json :=
  .object [
    ("host", hostKeysJson host.platform host.osVersion host.arch),
    ("matched", hostKeysJson s.platform s.osVersion s.arch),
    ("variant", s.variant.toJson)]

/-! ### Steps -/

namespace Program

variable {m : Type → Type} [Monad m]

/-- A step of a run, with its faults told as those of the run. -/
def step {ε α : Type} (tell : ε → RunFault) (action : m (Except ε α)) : ExceptT RunFault m α :=
  ExceptT.mk (Except.mapError tell <$> action)

/-- A step that needs nothing of the machine. -/
def settle {ε α : Type} (tell : ε → RunFault) (outcome : Except ε α) : ExceptT RunFault m α :=
  step tell (pure outcome)

variable [FileStore m]

/-- The package manifest in a file. -/
def loadManifest (path : Path) : ExceptT RunFault m PackageManifest :=
  step (.manifest path) (PackageManifest.load path)

/-- The host: what the command line says of it, and the rest as it is found. -/
def resolveHost (around : Surroundings) (options : HostOptions) :
    ExceptT RunFault m HostPlatform :=
  match options with
  | ⟨some platform, some osVersion, some arch⟩ => return ⟨platform, osVersion, arch⟩
  | ⟨platform, osVersion, arch⟩ => do
    let found ← step .host (HostPlatform.detect around.archName)
    return ⟨platform.getD found.platform, osVersion.getD found.osVersion, arch.getD found.arch⟩

/-- The variant of a package for a host. -/
def selectVariant (manifest : PackageManifest) (host : HostPlatform) :
    ExceptT RunFault m VariantSelection :=
  settle (.variant manifest.name) (manifest.select host.platform host.osVersion host.arch)

variable [Clock m] [Transports m]

/-- A download under the settings and what the command line says. -/
def fetch (settings : Settings) (around : Surroundings) (transfer : TransferOptions)
    (request : FetchRequest) : ExceptT RunFault m FetchResult :=
  step (.download request.source) <|
    download (settings.fetchSettings transfer around.tempDir) request

end Program

open Program

/-! ### Commands -/

variable {m : Type → Type} [Monad m] [FileStore m] [Clock m] [Transports m]

/-- Carries out a command and comes to the text that it prints. -/
def Command.run (settings : Settings) (around : Surroundings) :
    Command → ExceptT RunFault m String
  | .download url checksums transfer => do
    let request : FetchRequest := ⟨url, transfer.outputDir, Dict.ofList checksums⟩
    return textOfLines (← fetch settings around transfer request).lines
  | .parseUrl url =>
    return textOfLines [(ObjectLocation.toJson (ObjectLocation.ofUrl? url)).pretty]
  | .selectVariant path options => do
    let manifest ← loadManifest path
    let host ← resolveHost around options
    let selection ← Program.selectVariant manifest host
    return textOfLines [(selection.toJson host).pretty]
  | .latestVersion component excluded root => do
    let root := root.getD (settings.packages around.tempDir)
    let latest ← step (.versions component)
      (latestInstalled root component (excluded.getD ""))
    return textOfLines latest.toList
  | .fetchPackage path action base region options transfer => do
    let manifest ← loadManifest path
    let _ ← settle .locked (LockRegistry.empty.acquire manifest.name action)
    let host ← resolveHost around options
    let selection ← Program.selectVariant manifest host
    let request ← settle .request
      (manifest.request selection.variant transfer.outputDir base region)
    let result ← fetch settings around transfer request
    return textOfLines <|
      ["package = " ++ manifest.name ++ "@" ++ manifest.version,
        "file = " ++ selection.variant.file] ++ result.lines

/-- Loads the settings and carries out a command. -/
def Invocation.run (inv : Invocation) (around : Surroundings) : ExceptT RunFault m String := do
  let loaded ← step .settings (Settings.load inv.config around.settingsFile)
  inv.command.run (loaded.settings.getD Settings.none) around

end Depot
