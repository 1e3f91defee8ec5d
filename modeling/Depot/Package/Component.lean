import Depot.Json.Reader
import Depot.Package.Fault
import Depot.Package.Version

/-!
# Installed components

Every installed version of a component has a directory of its own, with a manifest that says how to
install, uninstall and launch it. The manifest in a directory must describe the component and the
version that the directory is named for.

## Main definitions

* `ComponentManifest`, `ComponentManifest.parse?` : component manifests.
* `ComponentManifest.load` : the manifest of an installed version.
* `latestInstalled` : the latest installed version of a component.
-/

namespace Depot

/-- The manifest of one version of a component. -/
structure ComponentManifest where
  name : String
  version : String
  install : Option String
  uninstall : Option String
  launch : Option String
  /-- Whether to reboot, in words. -/
  reboot : String
  deriving DecidableEq, Repr

namespace ComponentManifest

/-- What a manifest that says nothing of a reboot says. -/
abbrev defaultReboot : String := "false"

/-- The truth value that a word stands for, in any case and with blanks about it. -/
def flag? (word : String) : Option Bool :=
  match Text.asciiLower (Text.trim word) with
  | "true" => some true
  | "false" => some false
  | _ => none

/-- What is wrong with a manifest, if anything is. -/
def flaw? (m : ComponentManifest) : Option ComponentFlaw :=
  if Text.trim m.name = "" then some .emptyName
  else if (Version.parse? m.version).isNone then some (.version m.version)
  else if (flag? m.reboot).isNone then some (.reboot m.reboot)
  else none

/-- Whether installing asks for a reboot. -/
def requiresReboot (m : ComponentManifest) : Bool :=
  (flag? m.reboot).getD false

/-! ### Reading -/

/-- The fields of a manifest as far as they have been read. -/
structure Fields where
  name : Option String
  version : Option String
  install : Option (Option String)
  uninstall : Option (Option String)
  launch : Option (Option String)
  reboot : Option String

/-- The manifest of some fields, if those that it must have are there. -/
def ofFields (f : Fields) : Except Json.Fault ComponentManifest := do
  .ok {
    name := ← Json.required f.name
    version := ← Json.required f.version
    install := f.install.join
    uninstall := f.uninstall.join
    launch := f.launch.join
    reboot := f.reboot.getD defaultReboot }

/-- The value of one field. -/
def readFieldOf (key : String) (f : Fields) : Json.Reader Fields := fun ts =>
  match key with
  | "name" => do
    let (name, rest) ← Json.readField f.name Json.readText ts
    .ok ({ f with name }, rest)
  | "version" => do
    let (version, rest) ← Json.readField f.version Json.readText ts
    .ok ({ f with version }, rest)
  | "install" => do
    let (install, rest) ← Json.readField f.install (Json.readOptional Json.readText) ts
    .ok ({ f with install }, rest)
  | "uninstall" => do
    let (uninstall, rest) ← Json.readField f.uninstall (Json.readOptional Json.readText) ts
    .ok ({ f with uninstall }, rest)
  | "launch" => do
    let (launch, rest) ← Json.readField f.launch (Json.readOptional Json.readText) ts
    .ok ({ f with launch }, rest)
  | "reboot" => do
    let (reboot, rest) ← Json.readField f.reboot Json.readText ts
    .ok ({ f with reboot }, rest)
  | _ => do
    let ((), rest) ← Json.afterColon Json.skipValue ts
    .ok (f, rest)

/-- The fields of a manifest as an object. -/
def readObject (_ : Nat) : Json.Reader ComponentManifest := fun ts => do
  let (fields, ts) ← Json.readMembers readFieldOf ⟨none, none, none, none, none, none⟩ ts
  .ok (← ofFields fields, ts)

/-- The fields of a manifest as an array. -/
def readArray (_ : Nat) : Json.Reader ComponentManifest := fun ts => do
  let (name, ts) ← Json.readElement Json.readText true ts
  let name ← Json.required name
  let (version, ts) ← Json.readElement Json.readText false ts
  let version ← Json.required version
  let (install, ts) ← Json.readElement (Json.readOptional Json.readText) false ts
  let (uninstall, ts) ← Json.readElement (Json.readOptional Json.readText) false ts
  let (launch, ts) ← Json.readElement (Json.readOptional Json.readText) false ts
  let (reboot, ts) ← Json.readElement Json.readText false ts
  .ok (← ofFields ⟨some name, some version, install, uninstall, launch, reboot⟩, ts)

/-- The manifest that a text holds, if nothing is wrong with it. -/
def parse? (text : String) : Except ManifestFault ComponentManifest :=
  match Json.readAll (Json.readRecord readArray readObject Json.maxDepth) (Json.tokens text) with
  | .error fault => .error (.invalidJson fault)
  | .ok manifest =>
    match manifest.flaw? with
    | some flaw => .error (.invalidComponent flaw)
    | none => .ok manifest

/-- A manifest as an object. Optional fields that are not there are left out. -/
def toJson (m : ComponentManifest) : Json :=
  .object ([("name", Json.text m.name), ("version", Json.text m.version)] ++
    (m.install.map fun v => ("install", Json.text v)).toList ++
    (m.uninstall.map fun v => ("uninstall", Json.text v)).toList ++
    (m.launch.map fun v => ("launch", Json.text v)).toList ++ [("reboot", Json.text m.reboot)])

/-! ### Installed versions -/

/-- The file that holds the manifest of a version of a component. -/
def path (root : Path) (name version : String) : Path :=
  ((root.join name).join version).join "manifest.json"

/-- The manifest of an installed version. It must describe that version. -/
def load {m : Type → Type} [Monad m] [FileStore m] (root : Path) (name version : String) :
    m (Except ManifestFault ComponentManifest) := do
  let file := path root name version
  match ← FileStore.readText file with
  | .error fault => return .error (.io file fault)
  | .ok text =>
    match parse? text with
    | .error fault => return .error fault
    | .ok manifest =>
      if manifest.name = name ∧ manifest.version = version then return .ok manifest
      else return .error (.invalidComponent (.describes file manifest.name manifest.version))

end ComponentManifest

/-- The latest installed version of a component other than the excluded text. A component without a
directory has none. -/
def latestInstalled {m : Type → Type} [Monad m] [FileStore m] (root : Path)
    (component excluded : String) : m (Except ManifestFault (Option String)) := do
  let dir := root.join component
  if !(← FileStore.has dir) then return .ok none
  else
    match ← FileStore.listDirs dir with
    | .error fault => return .error (.io dir fault)
    | .ok names => return .ok (latestVersion? names excluded)

end Depot
