import Depot.Text.Utf8
import Depot.Url.Host

/-!
# URLs

A URL has a scheme, may have an authority with a user, a host and a port, and has a path, and
perhaps a query and a fragment. All parts are kept in the encoded form in which they are written.

## Main definitions

* `Url`, `Url.text` : URLs and their texts.
* `Url.withoutFragment`, `Url.withoutUser` : a URL less one of its parts.
* `Url.filePath?` : the file that a URL of the scheme `file` names.
-/

namespace Depot

/-- The path of a URL: segments that a slash stands before, or a text without structure. -/
inductive UrlPath
  | segments (parts : List String)
  | opaqueText (text : String)
  deriving DecidableEq, Repr

/-- A URL. The host of no characters is not the same as no host. -/
structure Url where
  scheme : String
  username : String
  password : Option String
  host : Option Host
  port : Option Nat
  path : UrlPath
  query : Option String
  fragment : Option String
  deriving DecidableEq, Repr

namespace UrlPath

/-- The text of a path. -/
def text : UrlPath → String
  | segments [] => ""
  | segments parts => "/" ++ "/".intercalate parts
  | opaqueText text => text

end UrlPath

namespace Url

/-- The schemes other than `file` of which this library knows the rules, with their ports. -/
def defaultPort? : String → Option Nat
  | "http" | "ws" => some 80
  | "https" | "wss" => some 443
  | "ftp" => some 21
  | _ => none

/-- Whether the rules of a scheme are known. -/
def isSpecial (scheme : String) : Bool :=
  scheme = "file" || (defaultPort? scheme).isSome

/-- The user in front of the host. -/
def userText (u : Url) : String :=
  match u.username, u.password with
  | "", none => ""
  | name, none => name ++ "@"
  | name, some password => name ++ ":" ++ password ++ "@"

/-- The port after the host. -/
def portText (u : Url) : String :=
  match u.port with
  | some n => ":" ++ Number.text n
  | none => ""

/-- Whether the path without a host would be taken for one. -/
def looksLikeHost : UrlPath → Bool
  | .segments ("" :: _ :: _) => true
  | _ => false

/-- What stands between the scheme and the path. -/
def authorityText (u : Url) : String :=
  match u.host with
  | some host => "//" ++ u.userText ++ host.text ++ u.portText
  | none => if looksLikeHost u.path then "/." else ""

/-- The text of a URL. -/
def text (u : Url) : String :=
  u.scheme ++ ":" ++ u.authorityText ++ u.path.text ++
    (u.query.map ("?" ++ ·)).getD "" ++ (u.fragment.map ("#" ++ ·)).getD ""

/-- The text of the host, unless it is empty. -/
def hostText? (u : Url) : Option String :=
  (u.host.map Host.text).filter fun s => !s.isEmpty

/-- The port, or the one that the scheme goes by. -/
def effectivePort? (u : Url) : Option Nat :=
  u.port.or (defaultPort? u.scheme)

/-- The URL without its fragment. -/
def withoutFragment (u : Url) : Url :=
  { u with fragment := none }

/-- The URL without the user and the password. -/
def withoutUser (u : Url) : Url :=
  { u with username := "", password := none }

/-- A slash after the bytes of a path that end like the name of a drive. -/
def driveSlash (bytes : Bytes) : Bytes :=
  match bytes.reverse with
  | mark :: letter :: _ :: _ =>
    if (Char.ofNat letter.toNat).isAlpha && (mark == 0x3A || mark == 0x7C) then [0x2F] else []
  | _ => []

/-- The path of the file that a URL names on this machine. Bytes that are no text stand for the
replacement character. -/
def filePath? (u : Url) : Option String :=
  match u.path, u.hostText? with
  | .segments parts, none =>
    let bytes := parts.flatMap fun s => 0x2F :: Percent.decode (Bytes.ofText s)
    some (Utf8.nearestText (bytes ++ driveSlash bytes))
  | _, _ => none

end Url

end Depot
