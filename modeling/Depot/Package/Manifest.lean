import Depot.Json.Reader
import Depot.ObjectStore.Location
import Depot.Package.Fault

/-!
# Package manifests

A manifest lists the variants of a package by platform, version of the operating system and
architecture, and the files that the variants name. A variant is found level by level: the exact
key if it is there, else the key that stands for any, and no way back.

## Main definitions

* `PackageManifest`, `PackageManifest.parse?`, `PackageManifest.toJson` : manifests and their texts.
* `PackageManifest.select` : the variant for a host.
* `PackageManifest.request` : what to fetch for a variant.
* `FetchRequest` : what to fetch, and how to verify it.
-/

namespace Depot

/-- A variant of a package: the file that it names, and other data. -/
structure PackageVariant where
  file : String
  extra : Dict Json

/-- Where a file is found, and its digests by the names of their algorithms. -/
structure FileEntry where
  location : Option String
  checksums : Dict String
  deriving DecidableEq

/-- The variants by platform, version of the operating system and architecture. -/
abbrev PackageTable := Dict (Dict (Dict PackageVariant))

/-- A package manifest. -/
structure PackageManifest where
  name : String
  version : String
  schemaVersion : Option String
  publisher : Option String
  packages : PackageTable
  files : Dict FileEntry

/-- What to fetch: a source, a directory for it unless the default will do, and the digests that it
must have. -/
structure FetchRequest where
  source : String
  destination : Option Path
  checksums : Dict String
  deriving DecidableEq

/-! ### Reading -/

namespace PackageVariant

/-- The members of a variant: the file, and everything else as it is. -/
def read (depth : Nat) : Json.Reader PackageVariant
  | .openObject :: rest =>
    match depth with
    | 0 => .error .notJson
    | depth + 1 => do
      let ((file, extra), rest) ←
        Json.readMembers (fun key ((file, extra) : Option String × Dict Json) ts =>
          if key = "file" then do
            let (file, rest) ← Json.readField file Json.readText ts
            .ok ((file, extra), rest)
          else do
            let (value, rest) ← Json.afterColon (Json.readValue depth) ts
            .ok ((file, extra.insert key value), rest)) (none, Dict.empty) rest
      .ok (⟨← Json.required file, extra⟩, rest)
  | ts => .error (Json.unexpected ts)

/-- A variant as an object. -/
def toJson (v : PackageVariant) : Json :=
  .object (v.extra.insert "file" (.text v.file)).pairs

end PackageVariant

/-- The strings of a dictionary. -/
def readTexts (depth : Nat) : Json.Reader (Dict String) :=
  Json.readDict (fun _ => Json.readText) depth

/-- A dictionary as an object, with the values written by a function. -/
def Dict.toJson {α : Type} (write : α → Json) (d : Dict α) : Json :=
  .object (d.pairs.map fun (key, value) => (key, write value))

namespace FileEntry

/-- The fields of an entry as an array. -/
def readArray (depth : Nat) : Json.Reader FileEntry := fun ts => do
  let (location, ts) ← Json.readElement (Json.readOptional Json.readText) true ts
  let (checksums, ts) ← Json.readElement (readTexts depth) false ts
  .ok (⟨location.join, checksums.getD Dict.empty⟩, ts)

/-- The fields of an entry as an object. -/
def readObject (depth : Nat) : Json.Reader FileEntry := fun ts => do
  let ((location, checksums), ts) ←
    Json.readMembers (fun key ((location, checksums) : Option (Option String) × Option (Dict String))
        ts =>
      match key with
      | "downloadLocation" => do
        let (location, rest) ← Json.readField location (Json.readOptional Json.readText) ts
        .ok ((location, checksums), rest)
      | "checksums" => do
        let (checksums, rest) ← Json.readField checksums (readTexts depth) ts
        .ok ((location, checksums), rest)
      | _ => do
        let ((), rest) ← Json.afterColon Json.skipValue ts
        .ok ((location, checksums), rest)) (none, none) ts
  .ok (⟨location.join, checksums.getD Dict.empty⟩, ts)

/-- An entry. -/
def read (depth : Nat) : Json.Reader FileEntry :=
  Json.readRecord readArray readObject depth

/-- An entry as an object. A location that is not there is left out. -/
def toJson (e : FileEntry) : Json :=
  .object ((e.location.map fun l => ("downloadLocation", Json.text l)).toList ++
    [("checksums", e.checksums.toJson .text)])

end FileEntry

/-- The table of variants. -/
def readTable (depth : Nat) : Json.Reader PackageTable :=
  Json.readDict (Json.readDict (Json.readDict PackageVariant.read)) depth

namespace PackageManifest

/-- The fields of a manifest as far as they have been read. -/
structure Fields where
  name : Option String
  version : Option String
  schemaVersion : Option (Option String)
  publisher : Option (Option String)
  packages : Option PackageTable
  files : Option (Dict FileEntry)

/-- The manifest of some fields, if those that it must have are there. -/
def ofFields (f : Fields) : Except Json.Fault PackageManifest := do
  .ok {
    name := ← Json.required f.name
    version := ← Json.required f.version
    schemaVersion := f.schemaVersion.join
    publisher := f.publisher.join
    packages := f.packages.getD Dict.empty
    files := f.files.getD Dict.empty }

/-- The value of one field. -/
def readFieldOf (depth : Nat) (key : String) (f : Fields) : Json.Reader Fields := fun ts =>
  match key with
  | "name" => do
    let (name, rest) ← Json.readField f.name Json.readText ts
    .ok ({ f with name }, rest)
  | "version" => do
    let (version, rest) ← Json.readField f.version Json.readText ts
    .ok ({ f with version }, rest)
  | "schemaVersion" => do
    let (schemaVersion, rest) ←
      Json.readField f.schemaVersion (Json.readOptional Json.readText) ts
    .ok ({ f with schemaVersion }, rest)
  | "publisher" => do
    let (publisher, rest) ← Json.readField f.publisher (Json.readOptional Json.readText) ts
    .ok ({ f with publisher }, rest)
  | "packages" => do
    let (packages, rest) ← Json.readField f.packages (readTable depth) ts
    .ok ({ f with packages }, rest)
  | "files" => do
    let (files, rest) ← Json.readField f.files (Json.readDict FileEntry.read depth) ts
    .ok ({ f with files }, rest)
  | _ => do
    let ((), rest) ← Json.afterColon Json.skipValue ts
    .ok (f, rest)

/-- The fields of a manifest as an object. -/
def readObject (depth : Nat) : Json.Reader PackageManifest := fun ts => do
  let (fields, ts) ←
    Json.readMembers (readFieldOf depth) ⟨none, none, none, none, none, none⟩ ts
  .ok (← ofFields fields, ts)

/-- The fields of a manifest as an array. -/
def readArray (depth : Nat) : Json.Reader PackageManifest := fun ts => do
  let (name, ts) ← Json.readElement Json.readText true ts
  let name ← Json.required name
  let (version, ts) ← Json.readElement Json.readText false ts
  let version ← Json.required version
  let (schemaVersion, ts) ← Json.readElement (Json.readOptional Json.readText) false ts
  let (publisher, ts) ← Json.readElement (Json.readOptional Json.readText) false ts
  let (packages, ts) ← Json.readElement (readTable depth) false ts
  let (files, ts) ← Json.readElement (Json.readDict FileEntry.read depth) false ts
  let manifest ← ofFields ⟨some name, some version, schemaVersion, publisher, packages, files⟩
  .ok (manifest, ts)

/-- The manifest that a text holds. -/
def parse? (text : String) : Except ManifestFault PackageManifest :=
  let read := Json.readRecord readArray readObject Json.maxDepth
  match Json.readAll read (Json.tokens text) with
  | .ok manifest => .ok manifest
  | .error fault => .error (.invalidJson fault)

/-- The manifest in a file. -/
def load {m : Type → Type} [Monad m] [FileStore m] (path : Path) :
    m (Except ManifestFault PackageManifest) := do
  match ← FileStore.readText path with
  | .ok text => return parse? text
  | .error fault => return .error (.io path fault)

/-- A manifest as an object. Optional fields that are not there are left out. -/
def toJson (m : PackageManifest) : Json :=
  .object ([("name", Json.text m.name), ("version", Json.text m.version)] ++
    (m.schemaVersion.map fun v => ("schemaVersion", Json.text v)).toList ++
    (m.publisher.map fun v => ("publisher", Json.text v)).toList ++
    [("packages", m.packages.toJson fun d => d.toJson fun d => d.toJson PackageVariant.toJson),
      ("files", m.files.toJson FileEntry.toJson)])

end PackageManifest

/-! ### Selection -/

/-- The key that stands for any value at its level. -/
abbrev anyKey : String := "_any"

/-- The value of a key, or else of the key that stands for any, with the key that was taken. -/
def Dict.resolve? {α : Type} (d : Dict α) (key : String) : Option (String × α) :=
  ((d.get? key).map fun value => (key, value)).or
    ((d.get? anyKey).map fun value => (anyKey, value))

/-- The value at a level, or the fault of finding none. -/
def Dict.resolve {α : Type} (d : Dict α) (dimension : Dimension) (key : String) :
    Except ManifestFault (String × α) :=
  match d.resolve? key with
  | some found => .ok found
  | none => .error (.noMatch dimension key)

/-- A variant and the keys that led to it. -/
structure VariantSelection where
  platform : String
  osVersion : String
  arch : String
  variant : PackageVariant

namespace PackageManifest

/-- The variant for a host. -/
def select (m : PackageManifest) (platform osVersion arch : String) :
    Except ManifestFault VariantSelection := do
  let (platform, versions) ← m.packages.resolve .platform platform
  let (osVersion, arches) ← versions.resolve .osVersion osVersion
  let (arch, variant) ← arches.resolve .arch arch
  .ok ⟨platform, osVersion, arch, variant⟩

/-- The location of a file: its own, or else its name below a base. Blank ones do not count. -/
def locationOf? (file : String) (own base : Option String) : Option String :=
  match own.filter fun l => Text.trim l ≠ "", base.filter fun b => Text.trim b ≠ "" with
  | some location, _ => some (Text.trim location)
  | none, some base => some (Text.trimEndOf '/' (Text.trim base) ++ "/" ++ file)
  | none, none => none

/-- What to fetch for a variant. Locations in the object store are taken in the given region. -/
def request (m : PackageManifest) (variant : PackageVariant) (destination : Option Path)
    (base : Option String) (region : String) : Except ManifestFault FetchRequest :=
  match m.files.get? variant.file with
  | none => .error (.missingFile variant.file)
  | some entry =>
    match locationOf? variant.file entry.location base with
    | none => .error (.missingLocation variant.file)
    | some location => .ok ⟨resolveLocation location region, destination, entry.checksums⟩

end PackageManifest

end Depot
