import Depot.Url.Basic

/-!
# Reading URLs

A URL is read from a text on its own, or relative to another URL. Blanks at the ends and tabs and
line breaks anywhere do not count. Under a known scheme a backslash is read as a slash, and the
number of slashes before the host is free.

Segments of a path that are a single dot are left out, and a double dot takes the segment before it
away. A letter with a colon or a bar names a drive; a double dot does not take it away, and in front
of the path of a file it takes the place of the host.

## Main definitions

* `Url.parse?` : the URL that a text denotes.
* `Url.join?` : the URL that a text denotes relative to another one.
-/

namespace Depot.Url

/-! ### Parts -/

/-- Whether a character does not count at the ends of a text. -/
def isEdge (c : Char) : Bool :=
  c.toNat ≤ 0x20

/-- The characters of a text that count. -/
def counted (cs : List Char) : List Char :=
  let cs := cs.dropWhile isEdge
  let cs := (cs.reverse.dropWhile isEdge).reverse
  cs.filter fun c => c != '\t' && c != '\n' && c != '\r'

/-- A text before its query and fragment, the query and the fragment, as they are written. -/
structure Pieces where
  body : List Char
  query : Option (List Char)
  fragment : Option (List Char)

/-- The pieces of a text. -/
def pieces (cs : List Char) : Pieces :=
  let (front, fragment) :=
    match Text.splitOnce '#' cs with
    | some (front, fragment) => (front, some fragment)
    | none => (cs, none)
  match Text.splitOnce '?' front with
  | some (body, query) => ⟨body, some query, fragment⟩
  | none => ⟨front, none, fragment⟩

/-- The scheme in small letters, and what follows its colon. -/
def splitScheme (cs : List Char) : Option (String × List Char) :=
  match Text.splitOnce ':' cs with
  | none => none
  | some (scheme, rest) =>
    if (scheme.head?.map Char.isAlpha).getD false &&
        scheme.all (fun c => c.isAlphanum || c == '+' || c == '-' || c == '.') then
      some (String.ofList (scheme.map Char.toLower), rest)
    else none

/-- Whether a character ends a segment. -/
def isSlash (special : Bool) (c : Char) : Bool :=
  c == '/' || (special && c == '\\')

/-- The URL with the query and the fragment of a text. -/
def withPieces (u : Url) (p : Pieces) : Url :=
  let set := if isSpecial u.scheme then Percent.specialQuerySet else Percent.querySet
  { u with
    query := p.query.map fun cs => String.ofList (Percent.encode set cs)
    fragment := p.fragment.map fun cs => String.ofList (Percent.encode Percent.fragmentSet cs) }

/-! ### Paths -/

/-- Whether a text is a letter with a colon or a bar. -/
def isDrive : List Char → Bool
  | [c, mark] => c.isAlpha && (mark == ':' || mark == '|')
  | _ => false

/-- Whether a text begins with a segment that is a drive. -/
def beginsWithDrive (cs : List Char) : Bool :=
  isDrive (cs.takeWhile fun c => c != '/' && c != '\\')

/-- Whether a segment is a single dot, which may be encoded. -/
def isDot (segment : List Char) : Bool :=
  segment.map Char.toLower ∈ [".".toList, "%2e".toList]

/-- Whether a segment is a double dot, in which a dot may be encoded. -/
def isDoubleDot (segment : List Char) : Bool :=
  segment.map Char.toLower ∈ ["..".toList, "%2e.".toList, ".%2e".toList, "%2e%2e".toList]

/-- The segments without the last one, unless that is a drive. The last segment comes first. -/
def dropSegment : List (List Char) → List (List Char)
  | [] => []
  | last :: before => if isDrive last then last :: before else before

/-- The segments after one more has been read. The last segment comes first. A dot at the end of the
path leaves an empty segment. -/
def addSegment (segments : List (List Char)) (last : Bool) (segment : List Char) :
    List (List Char) :=
  let ending : List (List Char) := if last then [[]] else []
  if isDoubleDot segment then ending ++ dropSegment segments
  else if isDot segment then ending ++ segments
  else segment :: segments

/-- The segments after those between the slashes of a text have been read. The last segment comes
first. -/
def addSegments (segments : List (List Char)) : List (List Char) → List (List Char)
  | [] => segments
  | part :: rest => addSegments (addSegment segments rest.isEmpty part) rest

/-- A drive with a colon. -/
def withColon : List Char → List Char
  | c :: _ => [c, ':']
  | [] => []

/-- The segments of the path of a file, read like those of other paths, and whether a drive came in
front. It is written with a colon where a slash follows. -/
def addFileSegments (segments : List (List Char)) :
    List (List Char) → List (List Char) × Bool
  | [] => (segments, false)
  | part :: rest =>
    let drive := segments.isEmpty && isDrive part
    let segment := if drive && !rest.isEmpty then withColon part else part
    let (read, found) := addFileSegments (addSegment segments rest.isEmpty segment) rest
    (read, drive || found)

/-- The parts between slashes. -/
def splitSlashes (special : Bool) (cs : List Char) : List (List Char) :=
  Text.splitAll '/' (cs.map fun c => if isSlash special c then '/' else c)

/-- The segments of a path after others, under a scheme other than `file`. -/
def readPath (scheme : String) (segments : List String) (cs : List Char) : UrlPath :=
  let parts := splitSlashes (isSpecial scheme) (Percent.encode Percent.pathSet cs)
  .segments ((addSegments (segments.map String.toList).reverse parts).reverse.map String.ofList)

/-- The segments of the path of a file after others, without empty ones in front, and whether a drive
came in front. -/
def readFilePath (segments : List String) (cs : List Char) : UrlPath × Bool :=
  let parts := splitSlashes true (Percent.encode Percent.pathSet cs)
  let (read, drive) := addFileSegments (segments.map String.toList).reverse parts
  let trimmed := read.reverse.dropWhile List.isEmpty
  (.segments ((if trimmed.isEmpty then [[]] else trimmed).map String.ofList), drive)

/-- A text without a slash in front. -/
def dropSlash (special : Bool) : List Char → List Char
  | [] => []
  | c :: rest => if isSlash special c then rest else c :: rest

/-! ### Authorities -/

/-- A user and a password, each encoded. An empty password is none. -/
def readUser (cs : List Char) : String × Option String :=
  let encoded (cs : List Char) := String.ofList (Percent.encode Percent.userinfoSet cs)
  match Text.splitOnce ':' cs with
  | none => (encoded cs, none)
  | some (name, []) => (encoded name, none)
  | some (name, password) => (encoded name, some (encoded password))

/-- The parts before and after the last occurrence of a sign. -/
def splitLast (sign : Char) (cs : List Char) : Option (List Char × List Char) :=
  (Text.splitOnce sign cs.reverse).map fun (after, before) => (before.reverse, after.reverse)

/-- The host at the front of a text, up to a colon that is not between brackets. -/
def splitHost (inside : Bool) : List Char → List Char × List Char
  | [] => ([], [])
  | c :: rest =>
    if c == ':' && !inside then ([], c :: rest)
    else
      let inside := if c == '[' then true else if c == ']' then false else inside
      let (host, more) := splitHost inside rest
      (c :: host, more)

/-- A port after a colon, if there is one, and what follows it. The port that the scheme goes by is
not kept. -/
def readPort (scheme : String) : List Char → Option (Option Nat × List Char)
  | ':' :: rest =>
    let (ds, more) := rest.span Char.isDigit
    if !(more.isEmpty || more.head? == some '\\') then none
    else if ds.isEmpty then some (none, more)
    else
      (Number.naturalBelow? 65536 ds).map fun n =>
        (if defaultPort? scheme = some n then none else some n, more)
  | cs => some (none, cs)

/-- The URL that follows the slashes after a scheme: a user, a host, a port and a path. -/
def afterSlashes (scheme : String) (p : Pieces) (cs : List Char) : Option Url := do
  let special := isSpecial scheme
  let authority := cs.takeWhile fun c => !isSlash special c
  let path := cs.dropWhile fun c => !isSlash special c
  let ends := path.isEmpty && p.query.isNone && p.fragment.isNone
  let (user, place) :=
    match splitLast '@' authority with
    | some (user, place) => (some user, place)
    | none => (none, authority)
  let (username, password) := (user.map readUser).getD ("", none)
  if user = some [] ∧ place.isEmpty ∧ !ends then none
  else
    let (hostText, more) := splitHost false place
    let host ← if special then Host.parse? hostText else Host.opaque? hostText
    let (port, rest) ← readPort scheme more
    if host = .domain "" ∧ (username ≠ "" ∨ password.isSome ∨ !more.isEmpty) then none
    else
      let tail := rest ++ path
      let path :=
        if special || !tail.isEmpty then readPath scheme [] (dropSlash special tail)
        else .segments []
      some (withPieces ⟨scheme, username, password, some host, port, path, none, none⟩ p)

/-! ### Files -/

/-- A URL of the scheme `file`. -/
def ofFile (host : Option Host) (path : UrlPath) (p : Pieces) : Url :=
  withPieces ⟨"file", "", none, some (host.getD (.domain "")), none, path, none, none⟩ p

/-- The URL of a file after two slashes: a host and a path. The host of this machine is left out,
and so is any host before a drive. -/
def fileAfterHost (p : Pieces) (cs : List Char) : Option Url :=
  let hostText := cs.takeWhile fun c => !isSlash true c
  let rest := cs.dropWhile fun c => !isSlash true c
  if isDrive hostText then some (ofFile none (readFilePath [] cs).1 p)
  else
    let (path, drive) := readFilePath [] (dropSlash true rest)
    if hostText.isEmpty then some (ofFile none path p)
    else
      (Host.parse? hostText).map fun host =>
        if host = .domain "localhost" ∨ drive then ofFile none path p
        else ofFile (some host) path p

/-- The segments of a URL. -/
def pathSegments (u : Url) : List String :=
  match u.path with
  | .segments parts => parts
  | .opaqueText _ => []

/-- The segments of a URL without the last one, unless that is a drive. -/
def parentSegments (u : Url) : List String :=
  (dropSegment (u.pathSegments.map String.toList).reverse).reverse.map String.ofList

/-- The URL of a file, relative to another one if there is one. -/
def readFile (base : Option Url) (p : Pieces) (cs : List Char) : Option Url :=
  match cs with
  | first :: rest =>
    if isSlash true first then
      match rest with
      | second :: more =>
        if isSlash true second then fileAfterHost p more else some (fromRoot rest)
      | [] => some (fromRoot rest)
    else
      match base with
      | some base =>
        if beginsWithDrive cs then some (ofFile none (readFilePath [] cs).1 p)
        else some (ofFile base.host (readFilePath base.parentSegments cs).1 p)
      | none => some (ofFile none (readFilePath [] cs).1 p)
  | [] =>
    match base with
    | some base =>
      let query := if p.query.isSome then none else base.query
      some { withPieces base p with query := (withPieces base p).query.or query }
    | none => some (ofFile none (readFilePath [] cs).1 p)
where
  /-- The URL after a single slash, which keeps the host or the drive of the other one. -/
  fromRoot (rest : List Char) : Url :=
    match base with
    | some base =>
      if beginsWithDrive rest then ofFile none (readFilePath [] rest).1 p
      else
        match base.pathSegments with
        | drive :: _ =>
          if isDrive drive.toList then ofFile none (readFilePath [drive] rest).1 p
          else ofFile base.host (readFilePath [] rest).1 p
        | [] => ofFile base.host (readFilePath [] rest).1 p
    | none => ofFile none (readFilePath [] rest).1 p

/-! ### URLs -/

/-- The URL that a text without scheme denotes relative to another one that is no file. -/
def readRelative (base : Url) (p : Pieces) (cs : List Char) : Option Url :=
  let special := isSpecial base.scheme
  match cs with
  | [] =>
    let query := if p.query.isSome then none else base.query
    let u := withPieces base p
    some { u with query := u.query.or query }
  | first :: rest =>
    if isSlash special first then
      match rest with
      | second :: more =>
        if second == '/' || second == '\\' then
          let slashes := cs.dropWhile fun c => c == '/' || c == '\\'
          afterSlashes base.scheme p (if first == '/' && second == '/' then more else slashes)
        else some (withPieces { base with path := readPath base.scheme [] rest } p)
      | [] => some (withPieces { base with path := readPath base.scheme [] rest } p)
    else
      some (withPieces { base with path := readPath base.scheme base.parentSegments cs } p)

/-- The URL that a text with a scheme denotes. -/
def readAbsolute (base : Option Url) (p : Pieces) (scheme : String) (cs : List Char) :
    Option Url :=
  let bare (path : UrlPath) := withPieces ⟨scheme, "", none, none, none, path, none, none⟩ p
  if scheme = "file" then readFile (base.filter fun b => b.scheme = "file") p cs
  else if isSpecial scheme then
    let slashes := (cs.takeWhile (isSlash true)).length
    match base.filter fun b => b.scheme = scheme && slashes < 2 with
    | some base => readRelative base p cs
    | none => afterSlashes scheme p (cs.dropWhile (isSlash true))
  else
    match cs with
    | '/' :: '/' :: rest => afterSlashes scheme p rest
    | '/' :: rest => some (bare (readPath scheme [] rest))
    | cs => some (bare (.opaqueText (String.ofList (Percent.encode Percent.controlSet cs))))

/-- The URL that a text denotes, relative to another one if there is one. -/
def readFrom (base : Option Url) (text : String) : Option Url :=
  let p := pieces (counted text.toList)
  match splitScheme p.body, base with
  | some (scheme, rest), _ => readAbsolute base p scheme rest
  | none, none => none
  | none, some base =>
    match base.path with
    | .opaqueText _ =>
      if p.body.isEmpty && p.query.isNone && p.fragment.isSome then
        some { withPieces base p with query := base.query }
      else none
    | .segments _ =>
      if base.scheme = "file" then readFile (some base) p p.body else readRelative base p p.body

/-- The URL that a text denotes. -/
def parse? (text : String) : Option Url :=
  readFrom none text

/-- The URL that a text denotes relative to another one. -/
def join? (base : Url) (text : String) : Option Url :=
  readFrom (some base) text

end Depot.Url
