import Mathlib.Data.Nat.Count
import Mathlib.Tactic.IntervalCases
import Depot.Proofs.Schedule.Elapsed

/-!
# Rounded waits under a rounded bound

The bound of a schedule is rounded once, and each of the longest waits on its own. What the rounding
of a wait adds is a matter of the interval's distance to a multiple of five nanoseconds: a fifth of
it. Intervals double, and the distances of an interval and of the next three doublings of it cancel
out, so the sum of the distances is that of at most three intervals, whatever their number; intervals
at the cap have none. The longest waits come to more than the bound exactly if the first interval is
one less than a multiple of five and the number of intervals below the cap is two more than a
multiple of four, and then to one nanosecond more.

## Main definitions

* `Schedule.imbalance` : the distance to the nearest multiple of five.
* `Schedule.belowCap` : the number of intervals below the cap.
* `Schedule.Exceeds` : the schedules whose longest waits exceed the bound.

## Main results

* `Schedule.imbalance_sum_lt_iff` : when the distances of the first intervals come to less than minus
  two.
* `Schedule.waits_le_iff` : when all waits of all sessions keep within the bound.
* `Schedule.waits_le_succ`, `Schedule.waits_pred_le` : by how much they can miss it, and when.
-/

namespace Depot

namespace Schedule

open Finset

/-! ### Distances to multiples of five -/

/-- The distance of a number to the nearest multiple of five, with its sign. -/
def imbalance (n : Nat) : Int :=
  ((n + 2) % 5 : Nat) - 2

theorem imbalance_bounds (n : Nat) : -2 ≤ imbalance n ∧ imbalance n ≤ 2 := by
  simp only [imbalance]
  omega

/-- The rounding of a total with its margin is a fifth of the distance. -/
theorem five_mul_withMargin (n : Nat) : 5 * (withMargin n : Int) = 6 * n - imbalance n := by
  rw [withMargin_eq, imbalance]
  omega

/-- The distances of a number and of the next three doublings of it cancel out. -/
theorem imbalance_doublings (n : Nat) :
    imbalance n + imbalance (2 * n) + imbalance (4 * n) + imbalance (8 * n) = 0 := by
  have hlt : n % 5 < 5 := Nat.mod_lt _ (by decide)
  simp only [imbalance]
  generalize hr : n % 5 = r at hlt
  interval_cases r <;> omega

/-- The distances of the first doublings of a number repeat after four of them. -/
theorem imbalance_sum_add_four (i n : Nat) :
    ∑ k ∈ range (n + 4), imbalance (2 ^ k * i) = ∑ k ∈ range n, imbalance (2 ^ k * i) := by
  have hcancel := imbalance_doublings (2 ^ n * i)
  have hpow : ∀ m, 2 ^ (n + m) * i = 2 ^ m * (2 ^ n * i) := fun m => by
    rw [Nat.pow_add, Nat.mul_comm (2 ^ n), Nat.mul_assoc]
  have h1 : 2 ^ (n + 1) * i = 2 * (2 ^ n * i) := hpow 1
  have h2 : 2 ^ (n + 2) * i = 4 * (2 ^ n * i) := hpow 2
  have h3 : 2 ^ (n + 3) * i = 8 * (2 ^ n * i) := hpow 3
  rw [sum_range_succ, sum_range_succ, sum_range_succ, sum_range_succ, h1, h2, h3]
  omega

theorem imbalance_sum_mod (i n : Nat) :
    ∑ k ∈ range n, imbalance (2 ^ k * i) = ∑ k ∈ range (n % 4), imbalance (2 ^ k * i) := by
  induction n using Nat.strongRecOn with
  | ind n ih =>
    by_cases hn : n < 4
    · rw [Nat.mod_eq_of_lt hn]
    · obtain ⟨m, rfl⟩ := Nat.exists_eq_add_of_le' (Nat.not_lt.1 hn)
      rw [imbalance_sum_add_four, ih m (by omega), Nat.add_mod_right]

/-- The distances of some first doublings come to no less than minus three, and to that for one kind
of number and of counts only. -/
theorem imbalance_sum_lt_iff (i n : Nat) :
    -3 ≤ ∑ k ∈ range n, imbalance (2 ^ k * i) ∧
      (∑ k ∈ range n, imbalance (2 ^ k * i) < -2 ↔ i % 5 = 4 ∧ n % 4 = 2) := by
  rw [imbalance_sum_mod]
  have hcount : n % 4 < 4 := Nat.mod_lt _ (by decide)
  have hrest : i % 5 < 5 := Nat.mod_lt _ (by decide)
  generalize n % 4 = count at hcount
  generalize hi : i % 5 = rest at hrest
  interval_cases count <;> simp only [sum_range_succ, sum_range_zero, imbalance, and_true] <;>
    interval_cases rest <;> omega

/-! ### The longest waits -/

variable {s : Schedule} {draws : Nat → Rat}

/-- The number of intervals below the cap before some retry. -/
def belowCap (s : Schedule) (retry : Nat) : Nat :=
  Nat.count (fun k => 2 ^ k * s.initial < maxInterval) retry

/-- The intervals at the cap have no distance to a multiple of five. -/
theorem imbalance_sum_capped (s : Schedule) (retry : Nat) :
    ∑ k ∈ range retry, imbalance (min (2 ^ k * s.initial) maxInterval) =
      ∑ k ∈ range (s.belowCap retry), imbalance (2 ^ k * s.initial) := by
  induction retry with
  | zero => rfl
  | succ retry ih =>
    rw [sum_range_succ, ih, belowCap, belowCap, Nat.count_succ]
    by_cases hbelow : 2 ^ retry * s.initial < maxInterval
    · -- All intervals before this one are below the cap, too.
      have hall : Nat.count (fun k => 2 ^ k * s.initial < maxInterval) retry = retry :=
        Nat.count_iff_forall.2 fun k hk => lt_of_le_of_lt
          (Nat.mul_le_mul_right _ (Nat.pow_le_pow_right (by decide) hk.le)) hbelow
      rw [if_pos hbelow, hall, sum_range_succ, min_eq_left hbelow.le]
    · rw [if_neg hbelow, min_eq_right (Nat.not_lt.1 hbelow)]
      exact add_zero _

/-- The longest waits before some retry, five times over, fall short of six times their intervals by
the distances of those below the cap. -/
theorem five_mul_sum_withMargin {retry : Nat} (h : retry ≤ s.maxRetries) :
    5 * ((∑ k ∈ range retry, withMargin (s.intervalFor k) : Nat) : Int) =
      6 * s.intervalsBefore retry -
        ∑ k ∈ range (s.belowCap retry), imbalance (2 ^ k * s.initial) := by
  rw [← imbalance_sum_capped, intervalsBefore_eq_sum, Nat.cast_sum, Nat.cast_sum, mul_sum, mul_sum,
    ← sum_sub_distrib]
  refine sum_congr rfl fun k hk => ?_
  rw [five_mul_withMargin, intervalFor_eq ((mem_range.1 hk).le.trans h)]

theorem five_mul_maxElapsed (s : Schedule) :
    5 * (s.maxElapsed : Int) = 6 * s.intervalSum - imbalance s.intervalSum := by
  rw [maxElapsed_eq, five_mul_withMargin]

/-- A schedule whose longest waits come to more than its bound. -/
def Exceeds (s : Schedule) : Prop :=
  s.initial % 5 = 4 ∧ s.belowCap s.maxRetries % 4 = 2

instance (s : Schedule) : Decidable s.Exceeds :=
  inferInstanceAs (Decidable (_ ∧ _))

theorem sum_withMargin_le_iff (s : Schedule) :
    (∑ k ∈ range s.maxRetries, withMargin (s.intervalFor k) ≤ s.maxElapsed ↔ ¬ s.Exceeds) ∧
      ∑ k ∈ range s.maxRetries, withMargin (s.intervalFor k) ≤ s.maxElapsed + 1 := by
  obtain ⟨hlow, hlt⟩ := imbalance_sum_lt_iff s.initial (s.belowCap s.maxRetries)
  have hwaits := five_mul_sum_withMargin (s := s) le_rfl
  have hbound := s.five_mul_maxElapsed
  rw [← intervalSum_eq] at hwaits
  simp only [imbalance] at hbound
  rw [Exceeds, ← hlt]
  omega

/-! ### Waits of sessions -/

/-- Draws lie between minus a fifth and a fifth. -/
def AreDraws (draws : Nat → Rat) : Prop :=
  ∀ k, -(1 / 5) ≤ draws k ∧ draws k ≤ 1 / 5

/-- The draws that make the longest waits. -/
theorem areDraws_longest : AreDraws fun _ => 1 / 5 := by
  intro k
  norm_num

/-- The longest wait is the interval with a fifth on top. -/
theorem delayFor_longest (s : Schedule) (retry : Nat) :
    s.delayFor (1 / 5) retry = withMargin (s.intervalFor retry) := by
  have hq : (s.intervalFor retry : Rat) * (1 + 1 / 5) = 6 / 5 * s.intervalFor retry := by ring
  have hnonneg : (0 : Rat) ≤ 6 / 5 * s.intervalFor retry := by positivity
  rw [delayFor, hq]
  exact (isNearest_nearestOfRat hnonneg).unique (isNearest_withMargin _)

theorem delayFor_le_withMargin {draw : Rat} (hdraw : -(1 / 5) ≤ draw ∧ draw ≤ 1 / 5)
    (retry : Nat) : s.delayFor draw retry ≤ withMargin (s.intervalFor retry) := by
  have hinterval : (0 : Rat) ≤ s.intervalFor retry := Nat.cast_nonneg _
  have hnonneg : (0 : Rat) ≤ s.intervalFor retry * (1 + draw) :=
    mul_nonneg hinterval (by linarith [hdraw.1])
  refine (isNearest_nearestOfRat hnonneg).le (isNearest_withMargin _) ?_
  nlinarith [hdraw.2]

theorem sum_waits_eq (s : Schedule) (draws : Nat → Rat) (n : Nat) :
    (s.waits draws n).sum = ∑ k ∈ range n, s.delayFor (draws k) k := by
  induction n with
  | zero => rfl
  | succ n ih => rw [sum_waits_succ, sum_range_succ, ih]

theorem sum_waits_le_withMargin (hdraws : AreDraws draws) (n : Nat) :
    (s.waits draws n).sum ≤ ∑ k ∈ range n, withMargin (s.intervalFor k) := by
  rw [sum_waits_eq]
  exact sum_le_sum fun k _ => delayFor_le_withMargin (hdraws k) k

theorem sum_waits_longest (s : Schedule) (n : Nat) :
    (s.waits (fun _ => 1 / 5) n).sum = ∑ k ∈ range n, withMargin (s.intervalFor k) := by
  rw [sum_waits_eq]
  exact sum_congr rfl fun k _ => s.delayFor_longest k

/-- **All waits of all sessions keep within the bound** unless the longest ones exceed it. -/
theorem waits_le_iff (s : Schedule) :
    (∀ draws, AreDraws draws → (s.waits draws s.maxRetries).sum ≤ s.maxElapsed) ↔
      ¬ s.Exceeds := by
  rw [← s.sum_withMargin_le_iff.1, ← sum_waits_longest]
  constructor
  · exact fun h => h _ areDraws_longest
  · intro h draws hdraws
    exact (sum_waits_le_withMargin hdraws _).trans (s.sum_waits_longest _ ▸ h)

/-- The waits of a session exceed the bound by no more than a nanosecond. -/
theorem waits_le_succ (s : Schedule) (hdraws : AreDraws draws) :
    (s.waits draws s.maxRetries).sum ≤ s.maxElapsed + 1 :=
  (sum_waits_le_withMargin hdraws _).trans s.sum_withMargin_le_iff.2

/-- The waits before the last retry keep within the bound. -/
theorem waits_pred_le (s : Schedule) (hdraws : AreDraws draws) :
    (s.waits draws (s.maxRetries - 1)).sum ≤ s.maxElapsed := by
  refine (sum_waits_le_withMargin hdraws _).trans ?_
  obtain ⟨hlow, -⟩ := imbalance_sum_lt_iff s.initial (s.belowCap (s.maxRetries - 1))
  have hwaits := five_mul_sum_withMargin (s := s) (Nat.sub_le s.maxRetries 1)
  have hbound := s.five_mul_maxElapsed
  have himbalance := imbalance_bounds s.intervalSum
  have hlast : s.intervalsBefore (s.maxRetries - 1) < s.intervalSum := by
    have hpos := s.one_le_maxRetries
    have hinterval : 0 < s.intervalFor (s.maxRetries - 1) := by
      rw [intervalFor_eq (Nat.sub_le ..)]
      exact Nat.lt_min.2 ⟨Nat.mul_pos (Nat.two_pow_pos _) s.initial_pos, by decide⟩
    have hsucc := s.intervalsBefore_succ (s.maxRetries - 1)
    rw [Nat.sub_add_cancel hpos, ← intervalSum_eq] at hsucc
    omega
  omega

end Schedule

end Depot
