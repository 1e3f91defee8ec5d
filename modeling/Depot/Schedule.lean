import Depot.Number.Binary64

/-!
# Retry schedules

A schedule says how long to wait before each retry of a failed attempt. Times are whole numbers of
nanoseconds. The first interval is given, each later one is twice the one before it, up to a cap,
and after the last configured retry the interval stays the same. The wait itself is the interval
changed by a random part of it, the *draw*, which lies between `-1/5` and `1/5`.

The bound on the total wait is the sum of the intervals with the largest draw in every one of them.

## Main definitions

* `Schedule`, `Schedule.make?` : the schedules, and the one for a first interval and a retry count.
* `Schedule.intervalFor`, `Schedule.delayFor` : the interval before a retry, and the wait that a draw
  makes of it.
* `Schedule.maxElapsed` : the bound on the total wait.
* `ScheduleFault` : why there is no schedule.
-/

namespace Depot

/-! ### Durations -/

/-- Nanoseconds of a number of seconds. -/
abbrev seconds (n : Nat) : Nat := n * 1000000000

/-- Nanoseconds of a number of milliseconds. -/
abbrev milliseconds (n : Nat) : Nat := n * 1000000

/-- A count of units with the rest below the next unit as a decimal fraction of `places` digits,
without zeros at its end. -/
def durationPart (whole rest places : Nat) (unit : String) : String :=
  let ds := Number.digits rest
  let fraction := List.replicate (places - ds.length) '0' ++ ds
  let fraction := (fraction.reverse.dropWhile (· == '0')).reverse
  let dotted := if fraction.isEmpty then [] else '.' :: fraction
  Number.text whole ++ String.ofList dotted ++ unit

/-- The text of a duration in the largest unit that it reaches. -/
def durationText (ns : Nat) : String :=
  if seconds 1 ≤ ns then durationPart (ns / seconds 1) (ns % seconds 1) 9 "s"
  else if milliseconds 1 ≤ ns then durationPart (ns / milliseconds 1) (ns % milliseconds 1) 6 "ms"
  else if 1000 ≤ ns then durationPart (ns / 1000) (ns % 1000) 3 "µs"
  else durationPart ns 0 0 "ns"

/-! ### Faults -/

/-- Why there is no schedule: the parameter that lies outside its range. -/
inductive ScheduleFault
  | maxRetries (count : Nat)
  | initialInterval (ns : Nat)
  | multiplier (factor : Number.Binary64)
  | jitter (part : Number.Binary64)
  deriving DecidableEq, Repr

/-- The message of a fault. -/
def ScheduleFault.message : ScheduleFault → String
  | maxRetries count =>
    "invalid max retries " ++ Number.text count ++ ": must be between 1 and 100"
  | initialInterval ns =>
    "invalid initial interval " ++ durationText ns ++
      ": must be greater than zero and at most 10s"
  | multiplier factor =>
    "invalid backoff multiplier " ++ factor.positional ++
      ": must be greater than 1.0 and at most 10.0"
  | jitter part =>
    "invalid jitter factor " ++ part.positional ++ ": must be at least 0.0 and below 1.0"

/-! ### Schedules -/

/-- A retry schedule: the first interval and the number of retries. -/
structure Schedule where
  initial : Nat
  maxRetries : Nat
  initial_pos : 0 < initial
  initial_le : initial ≤ seconds 10
  one_le_maxRetries : 1 ≤ maxRetries
  maxRetries_le : maxRetries ≤ 100
  deriving DecidableEq, Repr

namespace Schedule

/-- The first interval where none is given. -/
abbrev defaultInitial : Nat := milliseconds 500

/-- The cap on the intervals. -/
abbrev maxInterval : Nat := seconds 30

/-- By how much an interval grows, in hundredths. -/
abbrev multiplierPercent : Nat := 200

/-- The largest draw, in hundredths. -/
abbrev jitterPercent : Nat := 20

/-- No session waits longer than twelve hours. -/
abbrev elapsedCeiling : Nat := seconds (12 * 60 * 60)

/-- The schedule for a first interval and a retry count. The count is brought into its range, and
an interval of zero stands for the default. -/
def make? (initial count : Nat) : Except ScheduleFault Schedule :=
  let start := if initial = 0 then defaultInitial else initial
  if h : start ≤ seconds 10 then
    .ok {
      initial := start
      maxRetries := max 1 (min count 100)
      initial_pos := by simp only [start]; split; decide; omega
      initial_le := h
      one_le_maxRetries := by omega
      maxRetries_le := by omega }
  else .error (.initialInterval start)

/-- The interval after a given one. -/
def nextInterval (interval : Nat) : Nat :=
  min (interval * multiplierPercent / 100) maxInterval

/-- The interval after `n` steps from a first one. -/
def intervalAfter (initial : Nat) : Nat → Nat
  | 0 => initial
  | n + 1 => nextInterval (intervalAfter initial n)

/-- The interval before retry `retry`, counted from zero. -/
def intervalFor (s : Schedule) (retry : Nat) : Nat :=
  intervalAfter s.initial (min retry s.maxRetries)

/-- A nonnegative fraction rounded to the nearest whole number, a half upwards. -/
def nearestNat (num den : Nat) : Nat :=
  (2 * num + den) / (2 * den)

/-- A rational number rounded to the nearest whole number, a half away from zero; nothing below
zero. -/
def nearestOfRat (q : Rat) : Nat :=
  nearestNat q.num.toNat q.den

/-- The wait before a retry for a draw. -/
def delayFor (s : Schedule) (draw : Rat) (retry : Nat) : Nat :=
  nearestOfRat ((s.intervalFor retry : Rat) * (1 + draw))

/-- A sum of intervals with the `n` intervals after a given one added to it. -/
def addIntervals (interval sum : Nat) : Nat → Nat
  | 0 => sum
  | n + 1 => addIntervals (nextInterval interval) (sum + nextInterval interval) n

/-- The sum of the intervals before all retries. -/
def intervalSum (s : Schedule) : Nat :=
  addIntervals s.initial s.initial (s.maxRetries - 1)

/-- The bound on the total wait of a session. -/
def maxElapsed (s : Schedule) : Nat :=
  min (nearestNat (s.intervalSum * (100 + jitterPercent)) 100) elapsedCeiling

end Schedule

end Depot
