import Depot.Fetch.Fault

/-!
# Retry sessions

A session makes attempts until one succeeds, fails for good, or the retries of its schedule are used
up; between two attempts it waits. The outcome of the last attempt is the outcome of the session.

## Main definitions

* `Clock` : where the draws of a session come from, and how it waits.
* `retrying` : a session.
-/

namespace Depot

/-- Draws and waits. -/
class Clock (m : Type → Type) where
  /-- A number between `-1/5` and `1/5`. -/
  draw : m Rat
  /-- Lets a number of nanoseconds pass. -/
  wait : Nat → m Unit

variable {m : Type → Type} [Monad m] [Clock m]

/-- The attempts of a session from retry `retry` on, with `left` retries left and `waited`
nanoseconds waited so far. -/
def retryFrom {α : Type} (s : Schedule) (attempt : m (Except FetchFault α)) (retry waited : Nat) :
    Nat → m (Except FetchFault α)
  | 0 => attempt
  | left + 1 => do
    match ← attempt with
    | .ok a => return .ok a
    | .error fault =>
      match fault.failureClass with
      | .terminal => return .error fault
      | .retryable =>
        let delay := s.delayFor (← Clock.draw) retry
        if s.maxElapsed < waited + delay then return .error fault
        else
          Clock.wait delay
          retryFrom s attempt (retry + 1) (waited + delay) left

/-- A session under a schedule. -/
def retrying {α : Type} (s : Schedule) (attempt : m (Except FetchFault α)) :
    m (Except FetchFault α) :=
  retryFrom s attempt 0 0 s.maxRetries

end Depot
