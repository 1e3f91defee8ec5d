import Depot.Number.Decimal
import Depot.Package.Fault
import Depot.Text.Blank

/-!
# Versions

A version is three numbers below `2 ^ 64`, written in decimal digits with dots between them, and
ordered by the first number in which two versions differ. Among candidates the latest is chosen;
a candidate that is no version, or that is to be left out, does not count.

## Main definitions

* `Version`, `Version.parse?`, `Version.text` : versions, and their texts.
* `Version.read` : the version of a text, or the fault that it has none.
* `latestVersion?` : the latest of some candidates.
-/

namespace Depot

/-- A version: three numbers. -/
structure Version where
  major : Nat
  minor : Nat
  build : Nat
  deriving DecidableEq, Repr

namespace Version

/-- The version that a text denotes. -/
def parse? (s : String) : Option Version :=
  match Text.splitAll '.' s.toList with
  | [major, minor, build] => do
    let bound := Nat.pow 2 64
    some ⟨← Number.naturalBelow? bound major, ← Number.naturalBelow? bound minor,
      ← Number.naturalBelow? bound build⟩
  | _ => none

/-- The version that a text denotes, or the fault that it denotes none. -/
def read (s : String) : Except ManifestFault Version :=
  match parse? s with
  | some v => .ok v
  | none => .error (.invalidVersion s)

/-- The text of a version. -/
def text (v : Version) : String :=
  String.ofList (Number.digits v.major ++ '.' :: Number.digits v.minor ++ '.' ::
    Number.digits v.build)

/-- Whether a version comes before another one. -/
def before (v w : Version) : Bool :=
  v.major < w.major ||
    (v.major == w.major && (v.minor < w.minor || (v.minor == w.minor && v.build < w.build)))

/-- Versions in ascending order; equal ones stay in their order. -/
def sorted (vs : List Version) : List Version :=
  vs.mergeSort fun v w => !w.before v

end Version

/-- The better of the best version so far and a candidate. -/
def betterVersion (excluded : String) (best : Option (Version × String)) (candidate : String) :
    Option (Version × String) :=
  if candidate = excluded then best
  else
    match Version.parse? candidate, best with
    | none, _ => best
    | some v, none => some (v, candidate)
    | some v, some (w, raw) => if w.before v then some (v, candidate) else some (w, raw)

/-- The latest of some candidates other than the excluded text; of equal versions the first one. -/
def latestVersion? (candidates : List String) (excluded : String) : Option String :=
  (candidates.foldl (betterVersion excluded) none).map Prod.snd

end Depot
