import Mathlib.Algebra.BigOperators.Ring.Finset
import Mathlib.Algebra.Order.BigOperators.Group.Finset
import Mathlib.Tactic.Ring
import Depot.Proofs.Schedule

/-!
# The bound on the total wait

The bound of a schedule is the sum of its intervals with a fifth on top, rounded once. The loop that
adds the intervals up and the loop that finds the interval before a retry double and cap in the same
way, so the bound is a function of the first interval and of the number of retries. It grows with
both, and no schedule comes near the ceiling of twelve hours: a hundred intervals at the cap make
one hour.

## Main definitions

* `Schedule.IsNearest` : a fraction rounded to a whole number.
* `Schedule.withMargin` : a total with a fifth on top.

## Main results

* `Schedule.sum_intervals`, `Schedule.maxElapsed_eq` : the sum of the intervals, and the bound
  without the ceiling.
* `Schedule.intervals_and_bound` : the intervals and the bound of the schedule for a first interval
  and a retry count.
-/

namespace Depot

namespace Schedule

open Finset

/-! ### Nearest whole numbers -/

/-- A whole number is the one nearest to a fraction, and the greater one from the middle. -/
structure IsNearest (q : Rat) (n : Nat) : Prop where
  lt_nearest : q - 1 / 2 < n
  nearest_le : n ≤ q + 1 / 2

theorem IsNearest.le {p q : Rat} {m n : Nat} (hm : IsNearest p m) (hn : IsNearest q n)
    (h : p ≤ q) : m ≤ n := by
  have hlt : (m : Rat) < (n + 1 : Nat) := by
    push_cast
    linarith [hm.nearest_le, hn.lt_nearest]
  exact Nat.lt_succ_iff.1 (by exact_mod_cast hlt)

theorem IsNearest.unique {q : Rat} {m n : Nat} (hm : IsNearest q m) (hn : IsNearest q n) : m = n :=
  Nat.le_antisymm (hm.le hn le_rfl) (hn.le hm le_rfl)

/-- The quotient that is computed is the nearest one. -/
theorem isNearest_nearestNat (num : Nat) {den : Nat} (hden : 0 < den) :
    IsNearest (num / den) (nearestNat num den) := by
  have hpos : (0 : Rat) < den := by exact_mod_cast hden
  have hlow : nearestNat num den * (2 * den) ≤ 2 * num + den := Nat.div_mul_le_self _ _
  have hhigh : 2 * num + den < (nearestNat num den + 1) * (2 * den) :=
    (Nat.div_lt_iff_lt_mul (by omega)).1 (Nat.lt_succ_self _)
  have hlow' : (nearestNat num den : Rat) * (2 * den) ≤ 2 * num + den := by exact_mod_cast hlow
  have hhigh' : 2 * (num : Rat) + den < (nearestNat num den + 1) * (2 * den) := by
    exact_mod_cast hhigh
  constructor
  · rw [sub_lt_iff_lt_add, div_lt_iff₀ hpos]
    linarith
  · rw [← sub_le_iff_le_add, le_div_iff₀ hpos]
    linarith

theorem isNearest_nearestOfRat {q : Rat} (h : 0 ≤ q) : IsNearest q (nearestOfRat q) :=
  ⟨(nearestOfRat_spec h).1, (nearestOfRat_spec h).2⟩

/-! ### Totals with a margin -/

/-- A total with a fifth on top. -/
def withMargin (total : Nat) : Nat :=
  nearestNat (total * (100 + jitterPercent)) 100

theorem withMargin_eq (total : Nat) : withMargin total = (12 * total + 5) / 10 := by
  simp only [withMargin, nearestNat, jitterPercent]
  omega

theorem isNearest_withMargin (total : Nat) : IsNearest (6 / 5 * total) (withMargin total) := by
  have hnear : IsNearest _ (withMargin total) := isNearest_nearestNat _ (by decide)
  have hmargin : ((total * (100 + jitterPercent) : Nat) : Rat) / (100 : Nat) = 6 / 5 * total := by
    push_cast
    ring
  rwa [hmargin] at hnear

/-- A greater total stays greater by rounding, since the margin is more than the rounding can take
away. -/
theorem withMargin_strictMono : StrictMono withMargin := by
  intro a b h
  rw [withMargin_eq, withMargin_eq]
  omega

/-! ### The sum of the intervals -/

variable {s t : Schedule}

theorem intervalsBefore_eq_sum (s : Schedule) (retry : Nat) :
    s.intervalsBefore retry = ∑ k ∈ range retry, s.intervalFor k := by
  induction retry with
  | zero => rfl
  | succ retry ih => rw [intervalsBefore_succ, sum_range_succ, ih]

/-- The interval stays the same after the last retry. -/
theorem intervalFor_of_le {retry : Nat} (h : s.maxRetries ≤ retry) :
    s.intervalFor retry = s.intervalFor s.maxRetries := by
  rw [intervalFor, intervalFor, Nat.min_eq_right h, Nat.min_self]

/-- **The intervals that are summed up** are the doublings of the first one, each up to the cap. -/
theorem sum_intervals (s : Schedule) :
    s.intervalSum = ∑ k ∈ range s.maxRetries, min (2 ^ k * s.initial) maxInterval := by
  rw [intervalSum_eq, intervalsBefore_eq_sum]
  exact sum_congr rfl fun k hk => intervalFor_eq (mem_range.1 hk).le

/-- More retries make a greater sum. -/
theorem intervalSum_lt (hinitial : s.initial = t.initial) (hretries : s.maxRetries < t.maxRetries) :
    s.intervalSum < t.intervalSum := by
  rw [sum_intervals, sum_intervals, hinitial]
  refine sum_lt_sum_of_subset (range_subset_range.2 hretries.le) (mem_range.2 hretries) ?_ ?_
    fun _ _ _ => Nat.zero_le _
  · simp
  · exact Nat.lt_min.2 ⟨Nat.mul_pos (Nat.two_pow_pos _) t.initial_pos, by decide⟩

/-- A longer first interval makes no smaller sum. -/
theorem intervalSum_mono (hinitial : s.initial ≤ t.initial)
    (hretries : s.maxRetries = t.maxRetries) : s.intervalSum ≤ t.intervalSum := by
  rw [sum_intervals, sum_intervals, hretries]
  exact sum_le_sum fun k _ => min_le_min_right _ (Nat.mul_le_mul_left _ hinitial)

/-! ### The bound -/

/-- No total of intervals reaches the ceiling. -/
theorem withMargin_lt_elapsedCeiling (s : Schedule) : withMargin s.intervalSum < elapsedCeiling := by
  have hsum := s.intervalSum_le
  rw [withMargin_eq]
  simp only [maxInterval, elapsedCeiling, seconds] at hsum ⊢
  omega

/-- **The bound is the sum of the intervals with a fifth on top:** the ceiling never counts. -/
theorem maxElapsed_eq (s : Schedule) : s.maxElapsed = withMargin s.intervalSum :=
  Nat.min_eq_left s.withMargin_lt_elapsedCeiling.le

/-- A schedule has the first interval and the retry count that it is made for, if they are in their
ranges. -/
theorem eq_of_make? {i n : Nat} (hi : 1 ≤ i) (hn : 1 ≤ n ∧ n ≤ 100) (h : make? i n = .ok s) :
    s.initial = i ∧ s.maxRetries = n := by
  obtain ⟨hinitial, hretries⟩ := make?_eq_ok h
  exact ⟨hinitial.trans (if_neg (by omega)), hretries.trans (by omega)⟩

/-- **The intervals and the bound** of the schedule for a first interval of one nanosecond to ten
seconds and a retry count of one to a hundred. The intervals double up to the cap, until the last
retry. The bound is their sum with a fifth on top, rounded to the nearest nanosecond. It is less than
the ceiling, grows with the retry count, and does not fall with the first interval. -/
theorem intervals_and_bound {i n : Nat} (hi : 1 ≤ i ∧ i ≤ seconds 10) (hn : 1 ≤ n ∧ n ≤ 100) :
    ∃ s, make? i n = .ok s ∧
      (∀ k ≤ n, s.intervalFor k = min (2 ^ k * i) (seconds 30)) ∧
      (∀ k > n, s.intervalFor k = s.intervalFor n) ∧
      IsNearest (6 / 5 * ∑ k ∈ range n, (s.intervalFor k : Rat)) s.maxElapsed ∧
      s.maxElapsed < elapsedCeiling ∧
      (∀ m t, n < m → m ≤ 100 → make? i m = .ok t → s.maxElapsed < t.maxElapsed) ∧
      ∀ j t, i ≤ j → make? j n = .ok t → s.maxElapsed ≤ t.maxElapsed := by
  obtain ⟨s, hs⟩ := exists_make? hi.2 n
  obtain ⟨hinitial, hretries⟩ := eq_of_make? hi.1 hn hs
  refine ⟨s, hs, fun k hk => ?_, fun k hk => ?_, ?_, ?_, fun m t hnm hm ht => ?_,
    fun j t hij ht => ?_⟩
  · rw [intervalFor_eq (by omega), hinitial]
  · rw [intervalFor_of_le (by omega), hretries]
  · rw [maxElapsed_eq, intervalSum_eq, intervalsBefore_eq_sum, hretries, ← Nat.cast_sum]
    exact isNearest_withMargin _
  · rw [maxElapsed_eq]
    exact s.withMargin_lt_elapsedCeiling
  · obtain ⟨hinitial', hretries'⟩ := eq_of_make? hi.1 ⟨by omega, hm⟩ ht
    rw [maxElapsed_eq, maxElapsed_eq]
    exact withMargin_strictMono (intervalSum_lt (by omega) (by omega))
  · obtain ⟨hinitial', hretries'⟩ := eq_of_make? (by omega) hn ht
    rw [maxElapsed_eq, maxElapsed_eq]
    exact withMargin_strictMono.monotone (intervalSum_mono (by omega) (by omega))

/-- Ten retries from the longest first interval on: all intervals but two are at the cap. -/
theorem intervals_and_bound_longest :
    (1 ≤ seconds 10 ∧ seconds 10 ≤ seconds 10) ∧ (1 ≤ 10 ∧ 10 ≤ 100) ∧
      ∃ s, make? (seconds 10) 10 = .ok s ∧ s.intervalFor 1 = seconds 20 ∧
        s.intervalFor 5 = seconds 30 ∧ s.maxElapsed = seconds 324 := by
  have hi : 1 ≤ seconds 10 ∧ seconds 10 ≤ seconds 10 := by decide
  have hn : 1 ≤ 10 ∧ 10 ≤ 100 := by decide
  obtain ⟨s, hs, hintervals, -, hbound, -⟩ := intervals_and_bound hi hn
  refine ⟨hi, hn, s, hs, hintervals 1 (by decide), hintervals 5 (by decide), hbound.unique ?_⟩
  have hsum : ∑ k ∈ range 10, (s.intervalFor k : Rat) = (seconds 270 : Nat) := by
    rw [← Nat.cast_sum, sum_congr rfl fun k hk => hintervals k (mem_range.1 hk).le]
    rfl
  rw [hsum]
  constructor <;> norm_num

end Schedule

end Depot
