import Mathlib.Algebra.Order.Field.Basic
import Mathlib.Tactic.Linarith
import Depot.Schedule

/-!
# Waits within the bound of a schedule

The bound on the total wait of a session counts every interval with the largest draw. A wait is
rounded to whole nanoseconds, and rounding each of many waits upwards could leave less room than
rounding their sum. It does not when the intervals are multiples of five nanoseconds, since the
largest wait of each is a whole number then; in particular not when they are milliseconds. A session
under such a schedule is never cut short by the bound.

## Main definitions

* `Schedule.intervalsBefore` : the sum of the intervals before some retry.
* `Schedule.IsJittered` : a wait is an interval changed by a draw.
* `Schedule.waits` : the waits before some retry, for a sequence of draws.

## Main results

* `Schedule.intervalFor_eq` : the intervals double up to the cap.
* `Schedule.isJittered_delayFor` : a wait is its interval changed by its draw.
* `Schedule.add_delayFor_le`, `Schedule.sum_waits_le` : a further wait keeps within the bound, and so
  do all waits of a session.
-/

namespace Depot

namespace Schedule

/-! ### Rounding -/

/-- Rounding does not exceed a whole number that the fraction does not exceed. -/
theorem nearestOfRat_le {q : Rat} {n : Nat} (h : q ≤ n) : nearestOfRat q ≤ n := by
  have hden : (0 : Rat) < q.den := by exact_mod_cast q.den_pos
  have hle : q.num ≤ (n * q.den : Nat) := by
    have hrat : (q.num : Rat) ≤ n * q.den := by
      rw [← div_le_iff₀ hden, Rat.num_div_den]
      exact h
    exact_mod_cast hrat
  have hnum : q.num.toNat ≤ n * q.den := by omega
  rw [nearestOfRat, nearestNat, ← Nat.lt_succ_iff,
    Nat.div_lt_iff_lt_mul (by have := q.den_pos; omega)]
  calc 2 * q.num.toNat + q.den ≤ 2 * (n * q.den) + q.den := by omega
    _ < (n + 1) * (2 * q.den) := by have := q.den_pos; nlinarith

/-- Rounding goes to the nearest whole number, and from the middle upwards. -/
theorem nearestOfRat_spec {q : Rat} (h : 0 ≤ q) :
    q - 1 / 2 < nearestOfRat q ∧ (nearestOfRat q : Rat) ≤ q + 1 / 2 := by
  have hden : (0 : Rat) < q.den := by exact_mod_cast q.den_pos
  have hq : (q.num.toNat : Rat) = q * q.den := by
    rw [← Int.cast_natCast, Int.toNat_of_nonneg (Rat.num_nonneg.2 h), Rat.mul_den_eq_num]
  have hlow : nearestOfRat q * (2 * q.den) ≤ 2 * q.num.toNat + q.den := Nat.div_mul_le_self _ _
  have hhigh : 2 * q.num.toNat + q.den < (nearestOfRat q + 1) * (2 * q.den) :=
    (Nat.div_lt_iff_lt_mul (by have := q.den_pos; omega)).1 (Nat.lt_succ_self _)
  have hlow' : (nearestOfRat q : Rat) * (2 * q.den) ≤ 2 * (q * q.den) + q.den := by
    rw [← hq]
    exact_mod_cast hlow
  have hhigh' : 2 * (q * q.den) + q.den < ((nearestOfRat q : Rat) + 1) * (2 * q.den) := by
    rw [← hq]
    exact_mod_cast hhigh
  constructor
  · nlinarith
  · nlinarith

/-- Rounding does not fall below a whole number that the fraction does not fall below. -/
theorem le_nearestOfRat {q : Rat} {n : Nat} (h : (n : Rat) ≤ q) : n ≤ nearestOfRat q := by
  have hlt := (nearestOfRat_spec ((Nat.cast_nonneg n).trans h)).1
  have hlt' : (n : Rat) < (nearestOfRat q + 1 : Nat) := by
    push_cast
    linarith
  exact Nat.lt_succ_iff.1 (by exact_mod_cast hlt')

/-! ### Intervals -/

variable {s : Schedule}

theorem dvd_intervalAfter {initial : Nat} (h : 5 ∣ initial) (n : Nat) :
    5 ∣ intervalAfter initial n := by
  induction n with
  | zero => exact h
  | succ n ih =>
    simp only [intervalAfter, nextInterval, multiplierPercent, maxInterval, seconds]
    omega

theorem intervalAfter_le {initial : Nat} (h : initial ≤ maxInterval) (n : Nat) :
    intervalAfter initial n ≤ maxInterval := by
  cases n with
  | zero => exact h
  | succ n => exact Nat.min_le_right ..

theorem intervalFor_le (s : Schedule) (retry : Nat) : s.intervalFor retry ≤ maxInterval :=
  intervalAfter_le (s.initial_le.trans (by decide)) _

/-- The intervals double up to the cap. -/
theorem intervalAfter_eq {initial : Nat} (h : initial ≤ maxInterval) (n : Nat) :
    intervalAfter initial n = min (2 ^ n * initial) maxInterval := by
  induction n with
  | zero => simpa [intervalAfter] using h
  | succ n ih =>
    rw [intervalAfter, ih, nextInterval, Nat.pow_succ, Nat.mul_right_comm, multiplierPercent]
    omega

theorem intervalFor_eq {retry : Nat} (h : retry ≤ s.maxRetries) :
    s.intervalFor retry = min (2 ^ retry * s.initial) maxInterval := by
  rw [intervalFor, Nat.min_eq_left h, intervalAfter_eq (s.initial_le.trans (by decide))]

/-- The sum of the intervals before retry `retry`. -/
def intervalsBefore (s : Schedule) (retry : Nat) : Nat :=
  ((List.range retry).map s.intervalFor).sum

theorem intervalsBefore_succ (s : Schedule) (retry : Nat) :
    s.intervalsBefore (retry + 1) = s.intervalsBefore retry + s.intervalFor retry := by
  simp [intervalsBefore, List.range_succ]

theorem intervalFor_succ {retry : Nat} (h : retry < s.maxRetries) :
    s.intervalFor (retry + 1) = nextInterval (s.intervalFor retry) := by
  rw [intervalFor, intervalFor, Nat.min_eq_left h, Nat.min_eq_left h.le, intervalAfter]

/-- Going on from the interval before some retry adds up the intervals up to a later one. -/
theorem addIntervals_eq (n : Nat) {retry : Nat} (h : retry + n < s.maxRetries) :
    addIntervals (s.intervalFor retry) (s.intervalsBefore (retry + 1)) n =
      s.intervalsBefore (retry + 1 + n) := by
  induction n generalizing retry with
  | zero => rfl
  | succ n ih =>
    rw [addIntervals, ← intervalFor_succ (by omega), ← intervalsBefore_succ, ih (by omega)]
    congr 1
    omega

/-- The intervals that are summed up are those before all retries. -/
theorem intervalSum_eq (s : Schedule) : s.intervalSum = s.intervalsBefore s.maxRetries := by
  have hpos := s.one_le_maxRetries
  have hfirst : s.intervalFor 0 = s.initial := by simp [intervalFor, intervalAfter]
  have hsum : s.intervalsBefore 1 = s.initial := by simp [intervalsBefore, hfirst]
  calc addIntervals s.initial s.initial (s.maxRetries - 1)
    _ = addIntervals (s.intervalFor 0) (s.intervalsBefore 1) (s.maxRetries - 1) := by
        rw [hfirst, hsum]
    _ = s.intervalsBefore (1 + (s.maxRetries - 1)) := addIntervals_eq _ (by omega)
    _ = s.intervalsBefore s.maxRetries := by rw [Nat.add_sub_cancel' hpos]

theorem intervalsBefore_mono (s : Schedule) {m n : Nat} (h : m ≤ n) :
    s.intervalsBefore m ≤ s.intervalsBefore n := by
  induction h with
  | refl => exact Nat.le_refl _
  | step _ ih => exact ih.trans (by rw [intervalsBefore_succ]; omega)

/-- The sum of some intervals is at most what the cap allows. -/
theorem intervalsBefore_le (s : Schedule) (retry : Nat) :
    s.intervalsBefore retry ≤ retry * maxInterval := by
  induction retry with
  | zero => exact Nat.zero_le _
  | succ retry ih =>
    rw [intervalsBefore_succ, Nat.succ_mul]
    exact Nat.add_le_add ih (s.intervalFor_le retry)

theorem intervalSum_le (s : Schedule) : s.intervalSum ≤ 100 * maxInterval := by
  rw [intervalSum_eq]
  exact (s.intervalsBefore_le s.maxRetries).trans (Nat.mul_le_mul_right _ s.maxRetries_le)

/-! ### Waits -/

/-- The longest wait exceeds its interval by a fifth. -/
theorem delayFor_le {draw : Rat} (hdraw : draw ≤ 1 / 5) (hdvd : 5 ∣ s.initial) (retry : Nat) :
    5 * s.delayFor draw retry ≤ 6 * s.intervalFor retry := by
  obtain ⟨fifth, hfifth⟩ : 5 ∣ s.intervalFor retry := dvd_intervalAfter hdvd _
  have hle : s.delayFor draw retry ≤ 6 * fifth := by
    refine nearestOfRat_le ?_
    have hnonneg : (0 : Rat) ≤ fifth := Nat.cast_nonneg _
    rw [hfifth]
    push_cast
    nlinarith
  omega

/-- The shortest wait falls short of its interval by a fifth. -/
theorem le_delayFor {draw : Rat} (hdraw : -(1 / 5) ≤ draw) (hdvd : 5 ∣ s.initial) (retry : Nat) :
    4 * s.intervalFor retry ≤ 5 * s.delayFor draw retry := by
  obtain ⟨fifth, hfifth⟩ : 5 ∣ s.intervalFor retry := dvd_intervalAfter hdvd _
  have hle : 4 * fifth ≤ s.delayFor draw retry := by
    refine le_nearestOfRat ?_
    have hnonneg : (0 : Rat) ≤ fifth := Nat.cast_nonneg _
    rw [hfifth]
    push_cast
    nlinarith
  omega

/-- A wait is an interval changed by a draw and rounded to the nearest whole number, from the middle
upwards, and it differs from the interval by no more than a fifth of it. -/
structure IsJittered (interval : Nat) (draw : Rat) (delay : Nat) : Prop where
  lt_nearest : (interval : Rat) * (1 + draw) - 1 / 2 < delay
  nearest_le : (delay : Rat) ≤ interval * (1 + draw) + 1 / 2
  le_wait : 4 * interval ≤ 5 * delay
  wait_le : 5 * delay ≤ 6 * interval

/-- **A wait is its interval changed by the draw,** if the first interval is a multiple of five
nanoseconds. -/
theorem isJittered_delayFor {draw : Rat} (hdraw : -(1 / 5) ≤ draw ∧ draw ≤ 1 / 5)
    (hdvd : 5 ∣ s.initial) (retry : Nat) :
    IsJittered (s.intervalFor retry) draw (s.delayFor draw retry) := by
  have hnonneg : (0 : Rat) ≤ s.intervalFor retry * (1 + draw) :=
    mul_nonneg (Nat.cast_nonneg _) (by linarith [hdraw.1])
  obtain ⟨hlt, hle⟩ := nearestOfRat_spec hnonneg
  exact ⟨hlt, hle, le_delayFor hdraw.1 hdvd retry, delayFor_le hdraw.2 hdvd retry⟩

/-- The bound leaves room for all intervals, each with the largest draw. -/
theorem le_maxElapsed {total : Nat} (h : 5 * total ≤ 6 * s.intervalSum) : total ≤ s.maxElapsed := by
  have hsum : s.intervalSum ≤ 100 * maxInterval := s.intervalSum_le
  refine Nat.le_min.2 ⟨?_, ?_⟩
  · rw [nearestNat, jitterPercent, Nat.le_div_iff_mul_le (by decide)]
    omega
  · simp only [maxInterval, elapsedCeiling, seconds] at hsum ⊢
    omega

/-- **A further wait keeps within the bound** while there are retries left, if every wait before it
was at most a fifth longer than its interval. -/
theorem add_delayFor_le {draw : Rat} {retry waited : Nat} (hdraw : draw ≤ 1 / 5)
    (hdvd : 5 ∣ s.initial) (hretry : retry < s.maxRetries)
    (hwaited : 5 * waited ≤ 6 * s.intervalsBefore retry) :
    5 * (waited + s.delayFor draw retry) ≤ 6 * s.intervalsBefore (retry + 1) ∧
      waited + s.delayFor draw retry ≤ s.maxElapsed := by
  have hdelay := delayFor_le hdraw hdvd retry
  have hnext : 5 * (waited + s.delayFor draw retry) ≤ 6 * s.intervalsBefore (retry + 1) := by
    rw [intervalsBefore_succ]
    omega
  refine ⟨hnext, le_maxElapsed (hnext.trans ?_)⟩
  rw [intervalSum_eq]
  exact Nat.mul_le_mul_left 6 (s.intervalsBefore_mono hretry)

/-! ### Waits of a session -/

/-- The waits before the first `n` retries, for a sequence of draws. -/
def waits (s : Schedule) (draws : Nat → Rat) (n : Nat) : List Nat :=
  (List.range n).map fun retry => s.delayFor (draws retry) retry

theorem waits_succ (s : Schedule) (draws : Nat → Rat) (n : Nat) :
    s.waits draws (n + 1) = s.waits draws n ++ [s.delayFor (draws n) n] := by
  simp [waits, List.range_succ]

theorem sum_waits_succ (s : Schedule) (draws : Nat → Rat) (n : Nat) :
    (s.waits draws (n + 1)).sum = (s.waits draws n).sum + s.delayFor (draws n) n := by
  rw [waits_succ, List.sum_append, List.sum_singleton]

/-- **The waits of a session keep within the bound,** however many there are. -/
theorem sum_waits_le {draws : Nat → Rat} (hdraws : ∀ j, draws j ≤ 1 / 5) (hdvd : 5 ∣ s.initial)
    {n : Nat} (hn : n ≤ s.maxRetries) :
    5 * (s.waits draws n).sum ≤ 6 * s.intervalsBefore n ∧
      (s.waits draws n).sum ≤ s.maxElapsed := by
  induction n with
  | zero => exact ⟨Nat.zero_le _, Nat.zero_le _⟩
  | succ n ih =>
    rw [sum_waits_succ]
    exact add_delayFor_le (hdraws n) hdvd hn (ih (Nat.le_of_succ_le hn)).1

/-! ### Schedules that are accepted -/

/-- A schedule that is made has the given first interval, or the default one, and the retry count
brought into its range. -/
theorem make?_eq_ok {initial count : Nat} (h : make? initial count = .ok s) :
    s.initial = (if initial = 0 then defaultInitial else initial) ∧
      s.maxRetries = max 1 (min count 100) := by
  by_cases hle : (if initial = 0 then defaultInitial else initial) ≤ seconds 10
  · simp only [make?, dif_pos hle, Except.ok.injEq] at h
    subst h
    exact ⟨rfl, rfl⟩
  · simp only [make?, dif_neg hle] at h
    cases h

/-- There is a schedule for every first interval of up to ten seconds. -/
theorem exists_make? {initial : Nat} (h : initial ≤ seconds 10) (count : Nat) :
    ∃ s, make? initial count = .ok s := by
  have hstart : (if initial = 0 then defaultInitial else initial) ≤ seconds 10 := by
    split
    · decide
    · exact h
  exact ⟨_, dif_pos hstart⟩

/-- The first interval of a schedule for milliseconds is a multiple of five nanoseconds. -/
theorem dvd_initial_of_make? {ms count : Nat} (h : make? (milliseconds ms) count = .ok s) :
    5 ∣ s.initial := by
  rw [(make?_eq_ok h).1]
  simp only [defaultInitial, milliseconds]
  split <;> omega

end Schedule

end Depot
