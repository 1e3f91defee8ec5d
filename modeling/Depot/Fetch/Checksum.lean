import Depot.Dict
import Depot.Digest.Md5
import Depot.Digest.Sha256
import Depot.Fetch.Fault

/-!
# Verifying files

A file is verified against digests by the names of their algorithms. Every digest of an algorithm
that is known must be the file's own; the others do not count, but one must be known. No digest at
all, or a single one without a name or without digits, asks for no verification.

## Main definitions

* `HashAlgorithm.ofName?` : the algorithm that a name stands for.
* `computeDigest` : the digest of a file.
* `verifyChecksums` : the verification of a file.
-/

namespace Depot

/-- The algorithms that are known. -/
inductive HashAlgorithm
  | sha256
  | md5
  deriving DecidableEq, Repr

namespace HashAlgorithm

/-- The algorithm that a name stands for, in any case and with blanks about it. No name stands for
the first one. -/
def ofName? (name : String) : Option HashAlgorithm :=
  match Text.asciiLower (Text.trim name) with
  | "" | "sha256" => some sha256
  | "md5" => some md5
  | _ => none

/-- The name of an algorithm. -/
def name : HashAlgorithm → String
  | sha256 => "sha256"
  | md5 => "md5"

/-- The digest of a message in hexadecimal digits. -/
def hexDigest (a : HashAlgorithm) (message : Bytes) : String :=
  Digest.hexText <|
    match a with
    | sha256 => Digest.Sha256.digest message
    | md5 => Digest.Md5.digest message

end HashAlgorithm

/-- The outcome of a verification that a file has passed. -/
inductive Verification
  | skipped
  | matched (algorithms : List HashAlgorithm)
  deriving DecidableEq, Repr

/-- Whether some digests ask for no verification. -/
def asksNothing (checksums : Dict String) : Bool :=
  match checksums.pairs with
  | [] => true
  | [(name, digest)] => name.isEmpty || digest.isEmpty
  | _ => false

/-- Whether a computed digest is the expected one, up to case and blanks about it. -/
def digestMatches (actual expected : String) : Bool :=
  Text.eqIgnoringAsciiCase actual (Text.trim expected)

variable {m : Type → Type} [Monad m] [FileStore m]

/-- The digest of a file in hexadecimal digits. -/
def computeDigest (a : HashAlgorithm) (path : Path) : m (Except ChecksumFault String) := do
  match ← FileStore.readBytes path with
  | .ok bytes => return .ok (a.hexDigest bytes)
  | .error fault => return .error (.io path fault)

/-- The algorithms of the digests that match, up to the first one that does not. -/
def matchAll (path : Path) : List (String × String) → m (Except ChecksumFault (List HashAlgorithm))
  | [] => return .ok []
  | (name, expected) :: rest =>
    match HashAlgorithm.ofName? name with
    | none => matchAll path rest
    | some a => do
      match ← computeDigest a path with
      | .error fault => return .error fault
      | .ok actual =>
        if digestMatches actual expected then
          return (← matchAll path rest).map (a :: ·)
        else return .error (.mismatch a.name expected actual)

/-- The verification of a file. -/
def verifyChecksums (checksums : Dict String) (path : Path) :
    m (Except ChecksumFault Verification) := do
  if asksNothing checksums then return .ok .skipped
  else
    match ← matchAll path checksums.pairs with
    | .error fault => return .error fault
    | .ok [] => return .error .noSupportedAlgorithm
    | .ok algorithms => return .ok (.matched algorithms)

end Depot
