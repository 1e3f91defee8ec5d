import Depot.Dict
import Depot.Package.Fault
import Depot.Unicode.Lowercase

/-!
# The host platform

A host is told by the name of its platform, the version of its operating system and its
architecture. The first two stand in a file of lines `KEY=value`, where a value may be between
quotes, and lines that begin with a number sign are comments.

## Main definitions

* `HostPlatform`, `HostPlatform.detect` : hosts, and the one that runs the program.
* `OsRelease.parse` : the fields of the file.
* `manifestArch?` : the word of the manifests for an architecture.
-/

namespace Depot

/-- A host. -/
structure HostPlatform where
  platform : String
  osVersion : String
  arch : String
  deriving DecidableEq, Repr

/-- The word of the manifests for an architecture. -/
def manifestArch? : String → Option String
  | "x86_64" => some "x86_64"
  | "x86" => some "i386"
  | "aarch64" => some "arm64"
  | "arm" => some "arm"
  | _ => none

namespace OsRelease

/-- A text between two marks. -/
def between? (mark : Char) : List Char → Option (List Char)
  | [] => none
  | c :: rest =>
    if c = mark ∧ rest.getLast? = some mark then some rest.dropLast else none

/-- A value without the quotes about it. -/
def unquoted (value : List Char) : List Char :=
  ((between? '"' value).or (between? '\'' value)).getD value

/-- The key and the value of a line, if it has them. -/
def field? (line : List Char) : Option (String × String) :=
  let line := Text.trimChars line
  if line.isEmpty ∨ line.head? = some '#' then none
  else
    (Text.splitOnce '=' line).map fun (key, value) =>
      (String.ofList (Text.trimChars key), String.ofList (unquoted (Text.trimChars value)))

/-- The fields of a text. A later value of a key replaces an earlier one. -/
def parse (text : String) : Dict String :=
  Dict.ofList ((Text.lines text.toList).filterMap field?)

/-- The file that tells the platform. -/
def path : Path := ⟨"/etc/os-release"⟩

/-- A field that must not be empty. -/
def field (fields : Dict String) (dimension : Dimension) (name : String) :
    Except ManifestFault String :=
  match (fields.get? name).filter (· ≠ "") with
  | some value => .ok value
  | none => .error (.detection dimension (.missingField name))

/-- The platform and the version of its operating system. -/
def platform (text : String) : Except ManifestFault (String × String) := do
  let fields := parse text
  let platform ← field fields .platform "ID"
  let version ← field fields .osVersion "VERSION_ID"
  .ok (Unicode.lowercase platform, version)

end OsRelease

/-- The host that runs the program, whose architecture has the given name. -/
def HostPlatform.detect {m : Type → Type} [Monad m] [FileStore m] (archName : String) :
    m (Except ManifestFault HostPlatform) := do
  match manifestArch? archName with
  | none => return .error (.detection .arch (.unsupportedArch archName))
  | some arch =>
    match ← FileStore.readText OsRelease.path with
    | .error fault => return .error (.detection .platform (.unreadable OsRelease.path fault))
    | .ok text => return (OsRelease.platform text).map fun (p, v) => ⟨p, v, arch⟩

end Depot
