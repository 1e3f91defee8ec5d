import Depot.Text.Blank

/-!
# File paths

A path is the text that names a file. Reading it cuts the text at slashes. An empty first part is
the root; empty parts and dots after the first part say nothing; a first dot and every double dot
stay. The components that remain, the *key* of the path, are what the spellings of one path have in
common, while the text keeps the spelling that it was given.

## Main definitions

* `Path.key` : the components of a path.
* `Path.join` : a path below a directory; an absolute path stands for itself.
* `Path.parent?` : the path without its last component.
* `Path.fileName?`, `Path.withFileName` : the last component, and a path with another one.
-/

namespace Depot

/-- The text that names a file. -/
structure Path where
  text : String
  deriving DecidableEq, Repr, Inhabited

/-- The components of a path in their order. The root is the component of a single slash. -/
abbrev PathKey := List String

namespace PathKey

/-- The root component. -/
abbrev root : String := "/"

/-- The text of a key. -/
def render : PathKey → String
  | [] => ""
  | [c] => c
  | c :: rest => if c = root then c ++ "/".intercalate rest else "/".intercalate (c :: rest)

/-- The nonempty proper beginnings of a key: the directories above it, the outermost one first. -/
def ancestors : PathKey → List PathKey
  | [] => []
  | [_] => []
  | c :: rest => [c] :: (ancestors rest).map (c :: ·)

end PathKey

namespace Path

/-- The parts of a path between its slashes. -/
def parts (p : Path) : List (List Char) :=
  Text.splitAll '/' p.text.toList

/-- A part that names nothing unless it is the first one. -/
def isVoid (part : List Char) : Bool :=
  part == [] || part == ['.']

/-- The components of the parts after the first one. -/
def laterComponents (parts : List (List Char)) : List String :=
  (parts.filter fun part => !isVoid part).map String.ofList

/-- The components that a list of parts names. -/
def keyOfParts : List (List Char) → PathKey
  | [] => []
  | [[]] => []
  | [] :: rest => PathKey.root :: laterComponents rest
  | first :: rest => String.ofList first :: laterComponents rest

/-- The components of a path. -/
def key (p : Path) : PathKey :=
  keyOfParts p.parts

/-- Whether a path begins at the root. -/
def isAbsolute (p : Path) : Bool :=
  p.text.toList.head? == some '/'

/-- The path `p` below the directory `dir`. An absolute path stands for itself. -/
def join (dir : Path) (p : String) : Path :=
  if (Path.mk p).isAbsolute then ⟨p⟩
  else if dir.text.isEmpty || dir.text.toList.getLast? == some '/' then ⟨dir.text ++ p⟩
  else ⟨dir.text ++ "/" ++ p⟩

/-- Parts in reverse order without the void ones in front, the very first part of the path
excepted. -/
def dropVoid : List (List Char) → List (List Char)
  | [] => []
  | [first] => [first]
  | part :: parts => if isVoid part then dropVoid parts else part :: parts

/-- The path that a list of parts spells; a lone empty part is the root. -/
def ofParts : List (List Char) → Path
  | [[]] => ⟨PathKey.root⟩
  | parts => ⟨"/".intercalate (parts.map String.ofList)⟩

/-- The path without its last component, if it has one that is not the root. -/
def parent? (p : Path) : Option Path :=
  match dropVoid p.parts.reverse with
  | [] => none
  | [[]] => none
  | _ :: above => some (ofParts (dropVoid above).reverse)

/-- The last component, unless it is the root, a dot or a double dot. -/
def fileName? (p : Path) : Option String :=
  p.key.getLast?.filter fun c => c != PathKey.root && c != "." && c != ".."

/-- The path with its file name replaced, or with a file name below it when it has none. -/
def withFileName (p : Path) (name : String) : Path :=
  match p.fileName?, p.parent? with
  | some _, some dir => dir.join name
  | _, _ => p.join name

end Path

end Depot
