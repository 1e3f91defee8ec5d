import Depot.Proofs.Fetch.Retry
import Depot.Proofs.Schedule.Excess

/-!
# Sessions that are cut short

A session gives up before its last retry if the waits would come to more than the bound of its
schedule. The bound is meant to leave room for every retry. It does, for any draws, unless the
longest waits exceed it by the nanosecond that rounding can add; a session under such a schedule can
lose its last retry.

## Main definitions

* `Completes` : a session makes all its attempts.

## Main results

* `sum_waits_retryFrom_le` : no session waits longer than the bound.
* `completes_iff` : under which schedules every session makes all its attempts.
* `waits_fit_iff` : the room that the bound of a schedule leaves.
-/

namespace Depot

open Schedule

variable {α : Type} {s : Schedule} {outcomes : Nat → Except FetchFault α} {draws : Nat → Rat}

/-- A session makes attempts up to the first final outcome or the last retry, and is not cut short
before that. -/
def Completes (s : Schedule) (outcomes : Nat → Except FetchFault α) (draws : Nat → Rat) : Prop :=
  ∃ last : Nat, (last : ℕ∞) = min (firstFinal outcomes) s.maxRetries ∧
    (retrying s (Replay.attempt outcomes) : StateM (Replay draws) _) Replay.start =
      (outcomes last, ⟨last + 1, last, s.waits draws last⟩)

theorem sum_waits_mono (s : Schedule) (draws : Nat → Rat) {m n : Nat} (h : m ≤ n) :
    (s.waits draws m).sum ≤ (s.waits draws n).sum := by
  rw [sum_waits_eq, sum_waits_eq]
  exact Finset.sum_le_sum_of_subset (Finset.range_subset_range.2 h)

/-- A session whose waits all fit into the bound is not cut short. -/
theorem completes_of_fits (h : (s.waits draws s.maxRetries).sum ≤ s.maxElapsed) :
    Completes s outcomes draws := by
  have hfits : ∀ n ≤ s.maxRetries, (s.waits draws n).sum ≤ s.maxElapsed :=
    fun n hn => (sum_waits_mono s draws hn).trans h
  obtain ⟨last, hle, hbefore, hlast, hrun⟩ := retryFrom_replay_of_fits hfits
    (Nat.zero_add s.maxRetries) fun j hj => absurd hj (Nat.not_lt_zero j)
  exact ⟨last, eq_min_firstFinal hle hbefore hlast, hrun⟩

/-- A session ends after an outcome that is not final if there is no time for the wait. -/
theorem retryFrom_of_late {σ : Type} [Clock (StateM σ)] {attempt : StateM σ (Except FetchFault α)}
    {retry waited left : Nat} {x x₁ x₂ : σ} {r : Except FetchFault α} {draw : Rat}
    (hattempt : attempt x = (r, x₁)) (hretried : ¬ IsFinal r)
    (hdraw : (Clock.draw : StateM σ Rat) x₁ = (draw, x₂))
    (hlate : s.maxElapsed < waited + s.delayFor draw retry) :
    retryFrom s attempt retry waited (left + 1) x = (r, x₂) := by
  refine bind_eq_iff.2 ⟨r, x₁, hattempt, ?_⟩
  cases r with
  | ok a => exact absurd (isFinal_ok a) hretried
  | error fault =>
    cases hclass : fault.failureClass with
    | terminal => exact absurd (isFinal_error.2 hclass) hretried
    | retryable =>
      simp only [hclass]
      refine bind_eq_iff.2 ⟨draw, x₂, hdraw, ?_⟩
      rw [if_pos hlate]
      rfl

/-- **No session waits longer than the bound,** whatever its draws are. -/
theorem sum_waits_retryFrom_le {retry left : Nat} {x x' : Replay draws} {r : Except FetchFault α}
    (hfits : x.waits.sum ≤ s.maxElapsed)
    (h : (retryFrom s (Replay.attempt outcomes) retry x.waits.sum left : StateM (Replay draws) _) x =
      (r, x')) : x'.waits.sum ≤ s.maxElapsed := by
  induction left generalizing retry x with
  | zero =>
    obtain ⟨-, rfl⟩ := Prod.mk.inj h
    exact hfits
  | succ left ih =>
    by_cases hfinal : IsFinal (outcomes x.attempts)
    · rw [retryFrom_of_isFinal (Replay.attempt_eq x) hfinal] at h
      obtain ⟨-, rfl⟩ := Prod.mk.inj h
      exact hfits
    by_cases hlate : s.maxElapsed < x.waits.sum + s.delayFor (draws x.drawn) retry
    · rw [retryFrom_of_late (Replay.attempt_eq x) hfinal (Replay.draw_eq _) hlate] at h
      obtain ⟨-, rfl⟩ := Prod.mk.inj h
      exact hfits
    · have hnext := Nat.not_lt.1 hlate
      rw [retryFrom_of_not_isFinal (Replay.attempt_eq x) hfinal (Replay.draw_eq _) hnext
        (Replay.wait_eq _ _)] at h
      have hsum : (x.waits ++ [s.delayFor (draws x.drawn) retry]).sum =
          x.waits.sum + s.delayFor (draws x.drawn) retry := by simp
      rw [← hsum] at h hnext
      exact ih (x := ⟨x.attempts + 1, x.drawn + 1, _⟩) hnext h

theorem not_isFinal_busy : ¬ IsFinal (.error (.httpStatus "agent" 503) : Except FetchFault α) :=
  fun h => nomatch isFinal_error.1 h

/-- A server that is busy for ever. -/
def alwaysBusy : Nat → Except FetchFault α :=
  fun _ => .error (.httpStatus "agent" 503)

theorem firstFinal_alwaysBusy : firstFinal (alwaysBusy : Nat → Except FetchFault α) = ⊤ := by
  exact top_le_iff.1 (le_iInf₂ fun j hj => absurd hj not_isFinal_busy)

/-- A session that uses all its retries has waited no longer than the bound. -/
theorem fits_of_completes (h : Completes s (alwaysBusy : Nat → Except FetchFault α) draws) :
    (s.waits draws s.maxRetries).sum ≤ s.maxElapsed := by
  obtain ⟨last, hlast, hrun⟩ := h
  rw [firstFinal_alwaysBusy, top_inf_eq] at hlast
  obtain rfl : last = s.maxRetries := by exact_mod_cast hlast
  exact sum_waits_retryFrom_le (x := Replay.start) (Nat.zero_le _) hrun

/-- **Every session under a schedule makes all its attempts** unless the longest waits exceed the
bound. -/
theorem completes_iff (s : Schedule) :
    (∀ (outcomes : Nat → Except FetchFault α) draws, AreDraws draws → Completes s outcomes draws) ↔
      ¬ s.Exceeds := by
  rw [← waits_le_iff]
  constructor
  · exact fun h draws hdraws => fits_of_completes (h alwaysBusy draws hdraws)
  · exact fun h outcomes draws hdraws => completes_of_fits (h draws hdraws)

/-- **The room that the bound of a schedule leaves,** for a first interval of one nanosecond to ten
seconds and any retry count. All waits of every session fit into it, and no session is cut short,
unless the first interval is one less than a multiple of five nanoseconds and the number of
intervals below the cap is two more than a multiple of four. In that case the waits can come to one
nanosecond too much, and only the last retry can be lost. -/
theorem waits_fit_iff {i : Nat} (hi : 1 ≤ i ∧ i ≤ seconds 10) (count : Nat) :
    ∃ s, make? i count = .ok s ∧ s.initial = i ∧ s.maxRetries = max 1 (min count 100) ∧
      ((∀ draws, AreDraws draws → (s.waits draws s.maxRetries).sum ≤ s.maxElapsed) ↔
        ¬ (i % 5 = 4 ∧ s.belowCap s.maxRetries % 4 = 2)) ∧
      ((∀ (outcomes : Nat → Except FetchFault α) draws, AreDraws draws →
          Completes s outcomes draws) ↔
        ¬ (i % 5 = 4 ∧ s.belowCap s.maxRetries % 4 = 2)) ∧
      ∀ draws, AreDraws draws → (s.waits draws s.maxRetries).sum ≤ s.maxElapsed + 1 ∧
        (s.waits draws (s.maxRetries - 1)).sum ≤ s.maxElapsed := by
  obtain ⟨s, hs⟩ := exists_make? hi.2 count
  obtain ⟨hinitial, hretries⟩ := make?_eq_ok hs
  rw [if_neg (by omega)] at hinitial
  subst hinitial
  exact ⟨s, hs, rfl, hretries, s.waits_le_iff, completes_iff s,
    fun draws hdraws => ⟨s.waits_le_succ hdraws, s.waits_pred_le hdraws⟩⟩

/-- Three retries from four nanoseconds on: the third wait makes up for what rounding adds to the
first two. -/
theorem waits_fit_iff_threeRetries :
    (1 ≤ 4 ∧ 4 ≤ seconds 10) ∧ ∃ s, make? 4 3 = .ok s ∧ s.maxElapsed = 34 ∧
      ∀ draws, AreDraws draws → (s.waits draws 3).sum ≤ 34 := by
  have hi : 1 ≤ 4 ∧ 4 ≤ seconds 10 := by decide
  obtain ⟨s, hs, -, -, hfits, -⟩ := waits_fit_iff (α := Unit) hi 3
  cases hs
  exact ⟨hi, _, rfl, rfl, hfits.2 (by decide)⟩

/-- A server that is busy twice. -/
def busyTwice : Nat → Except FetchFault Bool
  | 0 | 1 => .error (.httpStatus "agent" 503)
  | _ => .ok true

/-- Two retries from four nanoseconds on, with the longest waits: these come to fifteen nanoseconds,
the bound is fourteen, and the attempt that would have succeeded is not made. -/
theorem not_waits_fit_twoRetries :
    ∃ s, make? 4 2 = .ok s ∧ AreDraws (fun _ => 1 / 5) ∧ s.maxElapsed = 14 ∧
      (s.waits (fun _ => 1 / 5) s.maxRetries).sum = 15 ∧
      (retrying s (Replay.attempt busyTwice) : StateM (Replay fun _ => 1 / 5) _) Replay.start =
        (.error (.httpStatus "agent" 503), ⟨2, 2, [5]⟩) := by
  refine ⟨_, rfl, areDraws_longest, rfl, by decide +kernel, ?_⟩
  -- The first wait fits, the second one does not.
  refine (retryFrom_of_not_isFinal (Replay.attempt_eq _) not_isFinal_busy (Replay.draw_eq _)
    (by decide +kernel) (Replay.wait_eq _ _)).trans ?_
  refine (retryFrom_of_late (Replay.attempt_eq _) not_isFinal_busy (Replay.draw_eq _)
    (by decide +kernel)).trans ?_
  exact Prod.ext rfl (by decide +kernel)

end Depot
