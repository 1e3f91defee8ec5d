import Depot.Files.Store
import Depot.Schedule
import Depot.Unicode.Lowercase

/-!
# Faults of a download

A download fails for a cause that is told apart here. A cause is either worth another attempt or
not: a refusal, a certificate that does not hold, and everything that happens on this machine are
there to stay.

## Main definitions

* `FetchFault`, `FetchFault.message` : the causes and their messages.
* `FetchFault.failureClass` : whether another attempt may succeed.
* `ChecksumFault` : the causes of a failed verification.
-/

namespace Depot

/-- Why a file does not pass its verification. -/
inductive ChecksumFault
  | mismatch (algorithm expected actual : String)
  | noSupportedAlgorithm
  | io (path : Path) (fault : IoFault)
  deriving DecidableEq, Repr

/-- The message of a fault. -/
def ChecksumFault.message : ChecksumFault → String
  | mismatch algorithm expected actual =>
    algorithm ++ " mismatch: expected " ++ expected ++ ", computed " ++ actual
  | noSupportedAlgorithm => "no supported checksum algorithm provided"
  | io path fault => "failed to read " ++ path.text ++ ": " ++ fault.text

/-- Why a download fails. The causes of a fault of the network are texts, the outermost first. -/
inductive FetchFault
  | network (url : String) (causes : List String)
  | timeout (url : String)
  | httpStatus (url : String) (status : Nat)
  | io (path : Path) (fault : IoFault)
  | invalidUrl (url : String)
  | clientBuild (causes : List String)
  | schedule (fault : ScheduleFault)
  | verification (path : Path) (fault : ChecksumFault)
  deriving DecidableEq, Repr

/-- Whether another attempt may succeed. -/
inductive FailureClass
  | retryable
  | terminal
  deriving DecidableEq, Repr

namespace FetchFault

/-- The message of a fault. -/
def message : FetchFault → String
  | network url causes => "network error downloading " ++ url ++ ": " ++ causes.headD ""
  | timeout url => "timeout downloading " ++ url
  | httpStatus url status => "HTTP " ++ Number.text status ++ " downloading " ++ url
  | io path fault => "IO error at " ++ path.text ++ ": " ++ fault.text
  | invalidUrl url => "invalid URL: " ++ url
  | clientBuild causes => "failed to build HTTP client: " ++ causes.headD ""
  | schedule fault => "invalid retry configuration: " ++ fault.message
  | verification path fault =>
    "checksum verification failed for " ++ path.text ++ ": " ++ fault.message

/-- The messages of what lies behind a fault, the outermost first. -/
def causes : FetchFault → List String
  | network _ causes | clientBuild causes => causes
  | io _ fault => [fault.text]
  | schedule fault => [fault.message]
  | verification _ (.io path fault) => [(ChecksumFault.io path fault).message, fault.text]
  | verification _ fault => [fault.message]
  | _ => []

/-- The message of a fault, and after it those of what lies behind it. -/
def messages (e : FetchFault) : List String :=
  e.message :: e.causes

/-- Whether a message speaks of a certificate. -/
def mentionsCertificate (message : String) : Bool :=
  let small := (Unicode.lowercase message).toList
  ["certificate", "x509", "tls handshake"].any fun word => Text.occursIn word.toList small

/-- Whether another attempt may succeed after a fault. -/
def failureClass : FetchFault → FailureClass
  | httpStatus _ status => if status = 403 then .terminal else .retryable
  | timeout _ => .retryable
  | network _ causes => if causes.any mentionsCertificate then .terminal else .retryable
  | io .. | invalidUrl _ | clientBuild _ | schedule _ | verification .. => .terminal

/-- The status of the server's answer, if the fault is one. -/
def status? : FetchFault → Option Nat
  | httpStatus _ status => some status
  | _ => none

end FetchFault

end Depot
