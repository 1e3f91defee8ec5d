import Depot.Files.Store
import Depot.Json.Token
import Depot.Text.Quoted

/-!
# Faults of manifests and hosts

Reading a manifest, choosing from it and telling the host can fail in the ways listed here. Every
fault has a message; a text that the message quotes is shown between quotes.

## Main definitions

* `ManifestFault`, `ManifestFault.message` : the faults and their messages.
* `Dimension` : the levels at which a package is looked up.
-/

namespace Depot

/-- The levels at which a package is looked up. -/
inductive Dimension
  | platform
  | osVersion
  | arch
  deriving DecidableEq, Repr

/-- The word for a level. -/
def Dimension.text : Dimension → String
  | platform => "platform"
  | osVersion => "OS version"
  | arch => "architecture"

/-- What is wrong with a component manifest. -/
inductive ComponentFlaw
  | emptyName
  | version (text : String)
  | reboot (text : String)
  /-- The manifest at a path describes another component or version. -/
  | describes (path : Path) (name version : String)
  deriving DecidableEq, Repr

/-- The words for a flaw. -/
def ComponentFlaw.text : ComponentFlaw → String
  | emptyName => "name is empty"
  | version v => "version " ++ Text.quoted v ++ " is not major.minor.build"
  | reboot r => "reboot " ++ Text.quoted r ++ " is not \"true\" or \"false\""
  | describes path name v => path.text ++ " describes " ++ name ++ "@" ++ v

/-- Why a property of the host is not known. -/
inductive DetectionFlaw
  | unsupportedArch (name : String)
  | unreadable (path : Path) (fault : IoFault)
  | missingField (name : String)
  deriving DecidableEq, Repr

/-- The words for a flaw. -/
def DetectionFlaw.text : DetectionFlaw → String
  | unsupportedArch name => "unsupported architecture " ++ name
  | unreadable path fault => "cannot read " ++ path.text ++ ": " ++ fault.text
  | missingField name => "os-release has no " ++ name

/-- A fault of reading a manifest, choosing from it, or telling the host. -/
inductive ManifestFault
  | invalidJson (fault : Json.Fault)
  | noMatch (dimension : Dimension) (value : String)
  | detection (dimension : Dimension) (flaw : DetectionFlaw)
  | invalidVersion (value : String)
  | missingFile (file : String)
  | missingLocation (file : String)
  | invalidComponent (flaw : ComponentFlaw)
  | io (path : Path) (fault : IoFault)
  deriving DecidableEq, Repr

/-- The message of a fault. -/
def ManifestFault.message : ManifestFault → String
  | invalidJson _ => "invalid manifest JSON"
  | noMatch dimension value => "no package matches " ++ dimension.text ++ " " ++ Text.quoted value
  | detection dimension flaw => "could not detect host " ++ dimension.text ++ ": " ++ flaw.text
  | invalidVersion value =>
    "invalid version string " ++ Text.quoted value ++ ": expected major.minor.build"
  | missingFile file => "file " ++ Text.quoted file ++ " is not listed in the manifest"
  | missingLocation file => "no download location for " ++ Text.quoted file
  | invalidComponent flaw => "invalid component manifest: " ++ flaw.text
  | io path fault => "IO error at " ++ path.text ++ ": " ++ fault.text

/-- The message of a fault, and after it those of what lies behind it. -/
def ManifestFault.messages (e : ManifestFault) : List String :=
  match e with
  | io _ fault => [e.message, fault.text]
  | _ => [e.message]

end Depot
