import Depot.Fetch.Download
import Depot.Settings.Reader

/-!
# Finding and applying settings

The settings file is the one that the user names, which must be there, or else the one in the
directory for settings, which need not be. What the command line says comes before the settings,
and the settings before the defaults.

## Main definitions

* `defaultSettingsPath?` : where the settings are kept.
* `Settings.load` : the settings in effect.
* `Settings.fetchSettings`, `Settings.packages` : the settings of downloads, and the directory of
  installed components.
-/

namespace Depot

/-- A directory that is given and not empty. -/
def givenDir? (dir : Option String) : Option Path :=
  (dir.filter (· ≠ "")).map Path.mk

/-- Where the settings are kept: in the directory for settings, or else below the home directory. -/
def defaultSettingsPath? (settingsHome home : Option String) : Option Path :=
  ((givenDir? settingsHome).or ((givenDir? home).map (·.join ".config"))).map fun dir =>
    (dir.join "artifact-fetch").join "config.toml"

/-- Why the settings cannot be loaded. -/
inductive LoadFault
  | unreadable (path : Path) (fault : IoFault)
  | invalid (path : Path) (fault : SettingsFault)
  deriving DecidableEq, Repr

/-- The words for a fault, the outermost first. -/
def LoadFault.messages : LoadFault → List String
  | unreadable path fault => ["Failed to read config file '" ++ path.text ++ "'", fault.text]
  | invalid path fault => ("Failed to parse config file '" ++ path.text ++ "'") :: fault.messages

/-- The settings in effect, and the file that they come from or would come from. -/
structure LoadedSettings where
  path : Option Path
  settings : Option Settings
  deriving DecidableEq, Repr

namespace Settings

variable {m : Type → Type} [Monad m] [FileStore m]

/-- The settings in a file. -/
def loadFile (path : Path) : m (Except LoadFault Settings) := do
  match ← FileStore.readText path with
  | .error fault => return .error (.unreadable path fault)
  | .ok text =>
    match parse? text with
    | .error fault => return .error (.invalid path fault)
    | .ok settings => return .ok settings

/-- The settings in the file that the user names, or else in the default file if it is there. -/
def load (named default : Option Path) : m (Except LoadFault LoadedSettings) := do
  match named, default with
  | some path, _ => return (← loadFile path).map fun s => ⟨some path, some s⟩
  | Option.none, Option.none => return .ok ⟨Option.none, Option.none⟩
  | Option.none, some path =>
    if ← FileStore.has path then return (← loadFile path).map fun s => ⟨some path, some s⟩
    else return .ok ⟨some path, Option.none⟩

end Settings

/-- What the command line says about transfers. -/
structure TransferOptions where
  outputDir : Option Path
  maxRetries : Option Nat
  retryIntervalMs : Option Nat
  deriving DecidableEq, Repr

namespace Settings

/-- The retries of a transport where nobody says otherwise. -/
abbrev defaultMaxRetries : Nat := 5

/-- The first interval of a transport in milliseconds where nobody says otherwise. -/
abbrev defaultIntervalMs : Nat := 200

/-- The directory for our files among temporary files. -/
def temporary (tempDir : Path) (name : String) : Path :=
  (tempDir.join "artifact-fetch").join name

/-- The settings of downloads. -/
def fetchSettings (s : Settings) (options : TransferOptions) (tempDir : Path) : FetchSettings where
  downloadRoot := s.downloadRoot.getD (temporary tempDir "downloads")
  initialInterval := milliseconds
    ((options.retryIntervalMs.or s.retryInitialIntervalMs).getD defaultIntervalMs)
  maxRetries := (options.maxRetries.or s.maxRetries).getD defaultMaxRetries
  connectTimeout := seconds (s.connectTimeoutSecs.getD 30)
  readTimeout := seconds (s.readTimeoutSecs.getD 300)

/-- The directory of installed components. -/
def packages (s : Settings) (tempDir : Path) : Path :=
  s.packageRoot.getD (temporary tempDir "packages")

end Settings

end Depot
