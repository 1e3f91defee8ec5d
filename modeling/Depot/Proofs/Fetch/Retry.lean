import Mathlib.Data.ENat.Lattice
import Depot.Fetch.Retry
import Depot.Proofs.Files
import Depot.Proofs.Schedule

/-!
# Retry sessions, attempt by attempt

A session is determined by what its attempts come to and by the draws of its waits. It ends with the
first attempt that succeeds or fails for good, or with the last retry of its schedule; no session
under a schedule for milliseconds ends for lack of time.

To tell what a session does, it is played from a *replay*: a sequence of outcomes and a sequence of
draws, both without end, and a count of what has been used of them. The waits are written down.

## Main definitions

* `Replay`, `Replay.attempt` : what is recorded of a session, and its attempts.
* `IsFinal`, `firstFinal` : the outcomes after which no attempt is made, and where the first one is.

## Main results

* `retryFrom_replay_of_fits`, `retryFrom_replay` : a session from some retry on.
* `retrying_replay` : the attempts, the outcome and the waits of a session.
-/

namespace Depot

variable {α : Type} {outcomes : Nat → Except FetchFault α} {draws : Nat → Rat}

/-! ### Outcomes that end a session -/

/-- An outcome after which a session makes no further attempt: a success, or a failure for good. -/
def IsFinal (r : Except FetchFault α) : Prop :=
  ∀ fault, r = .error fault → fault.failureClass = .terminal

/-- The place of the first final outcome; it is infinite if there is none. -/
noncomputable def firstFinal (outcomes : Nat → Except FetchFault α) : ℕ∞ :=
  ⨅ j ∈ {j | IsFinal (outcomes j)}, (j : ℕ∞)

theorem isFinal_ok (a : α) : IsFinal (.ok a : Except FetchFault α) :=
  fun _ h => nomatch h

theorem isFinal_error {fault : FetchFault} :
    IsFinal (.error fault : Except FetchFault α) ↔ fault.failureClass = .terminal := by
  constructor
  · exact fun h => h fault rfl
  · rintro h _ ⟨⟩
    exact h

/-- The last attempt comes to the first final outcome, or is the one after the last of `n`
retries. -/
theorem eq_min_firstFinal {last n : Nat} (hle : last ≤ n)
    (hbefore : ∀ j < last, ¬ IsFinal (outcomes j)) (hlast : last = n ∨ IsFinal (outcomes last)) :
    (last : ℕ∞) = min (firstFinal outcomes) n := by
  have hfirst : (last : ℕ∞) ≤ firstFinal outcomes := le_iInf₂ fun j hj => by
    exact_mod_cast Nat.not_lt.1 fun hlt => hbefore j hlt hj
  rcases hlast with rfl | hfinal
  · rw [min_eq_right hfirst]
  · have hthere : firstFinal outcomes ≤ last := iInf₂_le last hfinal
    rw [le_antisymm hthere hfirst, min_eq_left (by exact_mod_cast hle)]

/-! ### Replays -/

/-- What is recorded of a session that takes its draws from a sequence: how many attempts were made,
how many draws were taken, and the waits. -/
structure Replay (draws : Nat → Rat) where
  attempts : Nat
  drawn : Nat
  waits : List Nat
  deriving DecidableEq

namespace Replay

instance : Clock (StateM (Replay draws)) where
  draw := fun r => (draws r.drawn, { r with drawn := r.drawn + 1 })
  wait ns := fun r => ((), { r with waits := r.waits ++ [ns] })

/-- Nothing has happened yet. -/
def start : Replay draws := ⟨0, 0, []⟩

/-- An attempt that has the next outcome of a sequence. -/
def attempt (outcomes : Nat → Except FetchFault α) :
    StateM (Replay draws) (Except FetchFault α) :=
  fun r => (outcomes r.attempts, { r with attempts := r.attempts + 1 })

theorem attempt_eq (r : Replay draws) :
    attempt outcomes r = (outcomes r.attempts, { r with attempts := r.attempts + 1 }) :=
  rfl

theorem draw_eq (r : Replay draws) :
    (Clock.draw : StateM (Replay draws) Rat) r =
      (draws r.drawn, { r with drawn := r.drawn + 1 }) :=
  rfl

theorem wait_eq (ns : Nat) (r : Replay draws) :
    (Clock.wait ns : StateM (Replay draws) Unit) r = ((), { r with waits := r.waits ++ [ns] }) :=
  rfl

end Replay

/-! ### Sessions -/

section Steps

variable {σ : Type} [Clock (StateM σ)] {s : Schedule} {attempt : StateM σ (Except FetchFault α)}
  {retry waited left : Nat} {x x₁ x₂ x₃ : σ}

/-- A session ends with a final outcome. -/
theorem retryFrom_of_isFinal {r : Except FetchFault α} (hattempt : attempt x = (r, x₁))
    (hfinal : IsFinal r) : retryFrom s attempt retry waited left x = (r, x₁) := by
  cases left with
  | zero => exact hattempt
  | succ left =>
    refine bind_eq_iff.2 ⟨r, x₁, hattempt, ?_⟩
    cases r with
    | ok a => rfl
    | error fault =>
      simp only [hfinal fault rfl]
      rfl

/-- A session goes on after any other outcome, if there is a retry left and time for the wait. -/
theorem retryFrom_of_not_isFinal {r : Except FetchFault α} {draw : Rat}
    (hattempt : attempt x = (r, x₁)) (hretried : ¬ IsFinal r)
    (hdraw : (Clock.draw : StateM σ Rat) x₁ = (draw, x₂))
    (hfits : waited + s.delayFor draw retry ≤ s.maxElapsed)
    (hwait : (Clock.wait (s.delayFor draw retry) : StateM σ Unit) x₂ = ((), x₃)) :
    retryFrom s attempt retry waited (left + 1) x =
      retryFrom s attempt (retry + 1) (waited + s.delayFor draw retry) left x₃ := by
  refine bind_eq_iff.2 ⟨r, x₁, hattempt, ?_⟩
  cases r with
  | ok a => exact absurd (isFinal_ok a) hretried
  | error fault =>
    cases hclass : fault.failureClass with
    | terminal => exact absurd (isFinal_error.2 hclass) hretried
    | retryable =>
      simp only [hclass]
      refine bind_eq_iff.2 ⟨draw, x₂, hdraw, ?_⟩
      rw [if_neg (Nat.not_lt.2 hfits)]
      exact bind_eq_iff.2 ⟨(), x₃, hwait, rfl⟩

end Steps

variable {s : Schedule}

/-- The step from one attempt of a replayed session to the next. -/
theorem retryFrom_step {retry left : Nat} (hretried : ¬ IsFinal (outcomes retry))
    (hfits : (s.waits draws (retry + 1)).sum ≤ s.maxElapsed) :
    (retryFrom s (Replay.attempt outcomes) retry (s.waits draws retry).sum (left + 1) :
        StateM (Replay draws) _) ⟨retry, retry, s.waits draws retry⟩ =
      (retryFrom s (Replay.attempt outcomes) (retry + 1) (s.waits draws (retry + 1)).sum left :
        StateM (Replay draws) _) ⟨retry + 1, retry + 1, s.waits draws (retry + 1)⟩ := by
  rw [Schedule.sum_waits_succ] at hfits ⊢
  rw [Schedule.waits_succ]
  exact retryFrom_of_not_isFinal (Replay.attempt_eq _) hretried (Replay.draw_eq _) hfits
    (Replay.wait_eq _ _)

/-- **A session from some retry on,** after the waits before the retries so far, if all waits keep
within the bound. It makes attempts up to the first final outcome, or up to the last retry. -/
theorem retryFrom_replay_of_fits
    (hfits : ∀ n ≤ s.maxRetries, (s.waits draws n).sum ≤ s.maxElapsed) {left retry : Nat}
    (hleft : retry + left = s.maxRetries) (hbefore : ∀ j < retry, ¬ IsFinal (outcomes j)) :
    ∃ last ≤ s.maxRetries, (∀ j < last, ¬ IsFinal (outcomes j)) ∧
      (last = s.maxRetries ∨ IsFinal (outcomes last)) ∧
      (retryFrom s (Replay.attempt outcomes) retry (s.waits draws retry).sum left :
          StateM (Replay draws) _) ⟨retry, retry, s.waits draws retry⟩ =
        (outcomes last, ⟨last + 1, last, s.waits draws last⟩) := by
  induction left generalizing retry with
  | zero => exact ⟨retry, by omega, hbefore, .inl hleft, rfl⟩
  | succ left ih =>
    by_cases hfinal : IsFinal (outcomes retry)
    · exact ⟨retry, by omega, hbefore, .inr hfinal,
        retryFrom_of_isFinal (Replay.attempt_eq _) hfinal⟩
    have hnext : ∀ j < retry + 1, ¬ IsFinal (outcomes j) := fun j hj =>
      (Nat.lt_succ_iff_lt_or_eq.1 hj).elim (hbefore j) fun heq => heq ▸ hfinal
    obtain ⟨last, hlast, hothers, hend, hrun⟩ := ih (by omega) hnext
    exact ⟨last, hlast, hothers, hend,
      (retryFrom_step hfinal (hfits _ (by omega))).trans hrun⟩

/-- A session under a schedule for milliseconds, from some retry on. -/
theorem retryFrom_replay (hdraws : ∀ j, draws j ≤ 1 / 5) (hdvd : 5 ∣ s.initial) {left retry : Nat}
    (hleft : retry + left = s.maxRetries) (hbefore : ∀ j < retry, ¬ IsFinal (outcomes j)) :
    ∃ last ≤ s.maxRetries, (∀ j < last, ¬ IsFinal (outcomes j)) ∧
      (last = s.maxRetries ∨ IsFinal (outcomes last)) ∧
      (retryFrom s (Replay.attempt outcomes) retry (s.waits draws retry).sum left :
          StateM (Replay draws) _) ⟨retry, retry, s.waits draws retry⟩ =
        (outcomes last, ⟨last + 1, last, s.waits draws last⟩) :=
  retryFrom_replay_of_fits (fun _ hn => (Schedule.sum_waits_le hdraws hdvd hn).2) hleft hbefore

/-- **The attempts, the outcome and the waits of a session** under a schedule for milliseconds,
where none stands for five hundred. It makes one attempt more than it has retries, or fewer if one of
them is final before, and comes to what the last attempt comes to. Before each retry it waits for as
long as the interval, changed by the draw and rounded, and all waits together keep within the
bound. -/
theorem retrying_replay {ms : Nat} (hms : ms ≤ 10000) (count : Nat)
    (outcomes : Nat → Except FetchFault α) (hdraws : ∀ j, -(1 / 5) ≤ draws j ∧ draws j ≤ 1 / 5) :
    ∃ (s : Schedule) (last : Nat), Schedule.make? (milliseconds ms) count = .ok s ∧
      s.initial = milliseconds (if ms = 0 then 500 else ms) ∧
      s.maxRetries = max 1 (min count 100) ∧
      (last : ℕ∞) = min (firstFinal outcomes) s.maxRetries ∧
      (retrying s (Replay.attempt outcomes) : StateM (Replay draws) _) Replay.start =
        (outcomes last, ⟨last + 1, last, (List.range last).map fun j => s.delayFor (draws j) j⟩) ∧
      (∀ j < last, Schedule.IsJittered (min (2 ^ j * s.initial) (seconds 30)) (draws j)
        (s.delayFor (draws j) j)) ∧
      ((List.range last).map fun j => s.delayFor (draws j) j).sum ≤ s.maxElapsed := by
  have hstart : milliseconds ms ≤ seconds 10 := by
    simp only [milliseconds, seconds]
    omega
  obtain ⟨s, hs⟩ := Schedule.exists_make? hstart count
  obtain ⟨hinitial, hretries⟩ := Schedule.make?_eq_ok hs
  have hdvd := Schedule.dvd_initial_of_make? hs
  obtain ⟨last, hle, hbefore, hlast, hrun⟩ := retryFrom_replay (fun j => (hdraws j).2) hdvd
    (Nat.zero_add s.maxRetries) fun j hj => absurd hj (Nat.not_lt_zero j)
  refine ⟨s, last, hs, ?_, hretries, eq_min_firstFinal hle hbefore hlast, hrun, fun j hj => ?_,
    (Schedule.sum_waits_le (fun j => (hdraws j).2) hdvd hle).2⟩
  · rw [hinitial]
    by_cases hzero : ms = 0
    · simp [hzero]
    · have hne : milliseconds ms ≠ 0 := Nat.mul_ne_zero hzero (by decide)
      rw [if_neg hne, if_neg hzero]
  · rw [← Schedule.intervalFor_eq (hj.le.trans hle)]
    exact Schedule.isJittered_delayFor (hdraws j) hdvd j

/-- A server that is busy twice and then refuses. -/
def refusedThird : Nat → Except FetchFault Bool
  | 0 | 1 => .error (.httpStatus "agent" 503)
  | _ => .error (.httpStatus "agent" 403)

/-- Three attempts, with the longest waits between them. -/
theorem retrying_replay_refused :
    0 ≤ 10000 ∧ (∀ _ : Nat, -(1 / 5) ≤ (1 / 5 : Rat) ∧ (1 / 5 : Rat) ≤ 1 / 5) ∧
      ∃ s, Schedule.make? (milliseconds 0) 5 = .ok s ∧
        (retrying s (Replay.attempt refusedThird) : StateM (Replay fun _ => 1 / 5) _) Replay.start =
          (.error (.httpStatus "agent" 403), ⟨3, 2, [600000000, 1200000000]⟩) := by
  have hdraws : ∀ _ : Nat, -(1 / 5) ≤ (1 / 5 : Rat) ∧ (1 / 5 : Rat) ≤ 1 / 5 := by
    norm_num
  refine ⟨Nat.zero_le _, hdraws, ?_⟩
  obtain ⟨s, last, hs, -, hretries, hlast, hrun, -⟩ :=
    retrying_replay (Nat.zero_le _) 5 refusedThird hdraws
  have hbusy : ∀ j < 2, ¬ IsFinal (refusedThird j) := by
    rintro (_ | _ | j) hj hfinal
    · exact nomatch isFinal_error.1 hfinal
    · exact nomatch isFinal_error.1 hfinal
    · omega
  have hthird : (2 : ℕ) = min (firstFinal refusedThird) s.maxRetries :=
    eq_min_firstFinal (by rw [hretries]; decide) hbusy (.inr (isFinal_error.2 rfl))
  obtain rfl : last = 2 := by exact_mod_cast hlast.trans hthird.symm
  refine ⟨s, hs, ?_⟩
  rw [hrun]
  cases hs
  exact Prod.ext rfl (by decide +kernel)

end Depot
