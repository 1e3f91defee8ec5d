import Mathlib.Data.List.Basic
import Depot.Proofs.Schedule
import Depot.Proofs.Fetch.Faultless

/-!
# The requests of a download

A download that fetches makes attempts, each of them with one request. The attempts fall into two
sessions: one with the object store, if the URL names an object, and one over HTTP, if there was
none with the store or the last attempt there has failed. Within a session every attempt but the
last one fails for a cause that is worth another attempt, and with draws in their range the session
gives up only when its retries are used up: the bound on the total wait never cuts it short.

An attempt that fails removes the tag of the file where files can be removed. So all attempts but
the very first one, of both sessions together, are made without a tag.

## Main definitions

* `Trial`, `Trials` : an attempt that was made, and those that lead from one world to another.
* `IsSession` : the attempts of one session.
* `FetchSessions` : the sessions of a fetch.
* `DownloadTrials` : the attempts of a download.

## Main results

* `retryFrom_trials` : the attempts of a session.
* `Trials.untagged` : only the first of some attempts can have a tag.
* `download_trials` : the attempts of a download.
-/

namespace Depot

open World

variable {ε : Type} [Outside ε] {destination : Path} {w w' : World ε}

/-! ### Attempts -/

/-- An attempt that was made: its request, and its outcome. -/
structure Trial (ε : Type) where
  call : Call ε
  outcome : Except FetchFault Bool

/-- The attempt has failed, and another one may succeed. -/
def Trial.IsRetried (t : Trial ε) : Prop :=
  ∃ fault, t.outcome = .error fault ∧ fault.failureClass = .retryable

/-- Attempts that are made one after the other. What passes between them is outside. -/
inductive Trials (destination : Path) : World ε → List (Trial ε) → World ε → Prop
  | nil (w : World ε) : Trials destination w [] w
  | cons {w v w' : World ε} {t : Trial ε} {trials : List (Trial ε)} (outside : ε)
      (hattempt : conditionalFetch destination (ask t.call.asked) w = (t.outcome, v))
      (hcalls : v.calls = w.calls ++ [t.call])
      (hrest : Trials destination (v.withOutside outside) trials w') :
      Trials destination w (t :: trials) w'

namespace Trials

variable {trials later : List (Trial ε)}

theorem append {v : World ε} (h : Trials destination w trials v)
    (hlater : Trials destination v later w') : Trials destination w (trials ++ later) w' := by
  induction h with
  | nil _ => exact hlater
  | cons outside hattempt hcalls _ ih => exact .cons outside hattempt hcalls (ih hlater)

theorem calls_eq (h : Trials destination w trials w') :
    w'.calls = w.calls ++ trials.map Trial.call := by
  induction h with
  | nil _ => rw [List.map_nil, List.append_nil]
  | cons outside hattempt hcalls _ ih =>
    rw [ih, List.map_cons, List.append_cons, ← hcalls]
    rfl

end Trials

/-- An attempt is made by its one request. -/
theorem exists_trial (hne : destination.key ≠ (sidecar destination).key) {asked : Asked}
    {r : Except FetchFault Bool} (h : conditionalFetch destination (ask asked) w = (r, w')) :
    ∃ call : Call ε, call.asked = asked ∧ w'.calls = w.calls ++ [call] := by
  obtain ⟨call, hasked, -, hattempt⟩ := conditionalFetch_cases hne h
  exact ⟨call, hasked, hattempt.moves.calls_eq⟩

/-! ### Tags -/

/-- A text that is read is the one that stands there. -/
theorem World.readText_eq_ok {path : Path} {text : String}
    (h : (FileStore.readText path : StateM (World ε) _) w = (.ok text, w')) :
    w.textOf path = .ok text := by
  obtain ⟨hrun, -⟩ := onFiles_cases h
  obtain ⟨rules, ⟨hinjected, -⟩ | hread⟩ := MemoryFiles.guarded_cases hrun
  · cases hinjected
  · exact (Prod.ext_iff.1 hread).1

/-- The tag that is loaded is the one that is kept, unless an operation fails. -/
theorem EntityTag.load_eq_some {tag : String}
    (h : (EntityTag.load destination : StateM (World ε) _) w = (some tag, w')) :
    w.storedTag destination = some tag := by
  obtain ⟨found, w₁, hfound, h⟩ := bind_eq_iff.1 h
  obtain ⟨hmoves, hthere⟩ := has_cases hfound
  cases found with
  | false => exact nomatch (pure_eq_iff.1 h).1
  | true =>
    obtain ⟨beside, w₂, hbeside, h⟩ := bind_eq_iff.1 h
    obtain ⟨hmoves₂, -⟩ := has_cases hbeside
    cases beside with
    | false => exact nomatch (pure_eq_iff.1 h).1
    | true =>
      obtain ⟨read, w₃, hread, h⟩ := bind_eq_iff.1 h
      cases read with
      | error fault => exact nomatch (pure_eq_iff.1 h).1
      | ok text =>
        have htext := readText_eq_ok hread
        rw [textOf_congr ((hmoves.trans hmoves₂).bytesOf_eq _)] at htext
        rw [storedTag, if_pos (hthere.1 rfl), htext]
        exact (pure_eq_iff.1 h).1

/-- Where files can be removed, an attempt that fails leaves no tag behind. -/
theorem Attempt.storedTag_eq_none (hspared : SparesRemoval ε) {call : Call ε} {fault : FetchFault}
    (h : Attempt destination call w (.error fault) w') : w'.storedTag destination = none := by
  refine Option.eq_none_iff_forall_ne_some.2 fun tag htag => ?_
  have hdir := notMem_dirs_of_storedTag htag
  cases h with
  | failed fault moves hgone =>
    have hnone := (hgone hspared).2 (moves.dirs_eq ▸ hdir)
    unfold storedTag at htag
    split at htag
    · cases htext : w'.textOf (sidecar destination) with
      | error fault => simp [htext, Except.toOption] at htag
      | ok text =>
        obtain ⟨bytes, hbytes, -⟩ := MemoryFiles.textOf_eq_ok htext
        exact nomatch hnone.symm.trans hbytes
    · cases htag

namespace Trials

variable (hspared : SparesRemoval ε) (hne : destination.key ≠ (sidecar destination).key)
variable {trials : List (Trial ε)}

include hne in
/-- The request of an attempt is conditional only on the tag that is kept. -/
theorem tag_eq_none {t : Trial ε} (hnone : w.storedTag destination = none)
    (hattempt : conditionalFetch destination (ask t.call.asked) w = (t.outcome, w'))
    (hcalls : w'.calls = w.calls ++ [t.call]) : t.call.tag = none := by
  obtain ⟨tag, w₁, hload, hmade⟩ := conditionalFetch_attempt hne hattempt
  have hcall := List.append_cancel_left (hcalls.symm.trans hmade.moves.calls_eq)
  rw [List.singleton_inj.1 hcall]
  cases tag with
  | none => rfl
  | some tag => exact nomatch hnone.symm.trans (EntityTag.load_eq_some hload)

include hspared hne

/-- A failed attempt leaves no tag for the next one. -/
theorem storedTag_eq_none {t : Trial ε} {fault : FetchFault} {v : World ε}
    (hattempt : conditionalFetch destination (ask t.call.asked) w = (t.outcome, v))
    (hfailed : t.outcome = .error fault) (outside : ε) :
    (v.withOutside outside).storedTag destination = none := by
  rw [hfailed] at hattempt
  obtain ⟨call, -, -, hmade⟩ := conditionalFetch_cases hne hattempt
  exact ((Moves.withOutside v outside).storedTag_eq destination).trans
    (hmade.storedTag_eq_none hspared)

/-- Failed attempts, and the one after them, are made without a tag if there is none at first. -/
theorem untagged_of_none (h : Trials destination w trials w')
    (hnone : w.storedTag destination = none)
    (hfailed : ∀ t ∈ trials.dropLast, ∃ fault, t.outcome = .error fault) :
    ∀ t ∈ trials, t.call.tag = none := by
  induction h with
  | nil _ => exact fun t ht => absurd ht List.not_mem_nil
  | @cons w v w' t trials outside hattempt hcalls hrest ih =>
    rintro u (_ | ⟨_, hu⟩)
    · exact tag_eq_none hne hnone hattempt hcalls
    · have hmore : trials ≠ [] := List.ne_nil_of_mem hu
      rw [List.dropLast_cons_of_ne_nil hmore] at hfailed
      obtain ⟨fault, hfault⟩ := hfailed t List.mem_cons_self
      exact ih (storedTag_eq_none hspared hne hattempt hfault outside)
        (fun x hx => hfailed x (List.mem_cons_of_mem _ hx)) u hu

/-- **Only the first attempt can have a tag,** where all attempts but the last one fail and files
can be removed. -/
theorem untagged (h : Trials destination w trials w')
    (hfailed : ∀ t ∈ trials.dropLast, ∃ fault, t.outcome = .error fault) :
    ∀ t ∈ trials.tail, t.call.tag = none := by
  cases h with
  | nil _ => exact fun t ht => absurd ht List.not_mem_nil
  | @cons _ v _ t trials outside hattempt hcalls hrest =>
    intro u hu
    have hmore : trials ≠ [] := List.ne_nil_of_mem hu
    rw [List.dropLast_cons_of_ne_nil hmore] at hfailed
    obtain ⟨fault, hfault⟩ := hfailed t List.mem_cons_self
    exact hrest.untagged_of_none hspared hne
      (storedTag_eq_none hspared hne hattempt hfault outside)
      (fun x hx => hfailed x (List.mem_cons_of_mem _ hx)) u hu

end Trials

/-! ### Sessions -/

/-- The draws lie in their range. -/
def World.DrawsInRange (ε : Type) [Outside ε] : Prop :=
  ∀ outside : ε, -(1 / 5) ≤ (Outside.draw outside).1 ∧ (Outside.draw outside).1 ≤ 1 / 5

/-- The attempts of a session with `n` retries that asks for one thing and has the outcome `r`. Those
before the last one failed for a cause that is worth another attempt, and the last one did so only
if there was no retry left. -/
structure IsSession (asked : Asked) (n : Nat) (trials : List (Trial ε))
    (r : Except FetchFault Bool) : Prop where
  asked_eq : ∀ t ∈ trials, t.call.asked = asked
  length_le : trials.length ≤ n + 1
  retried : ∀ t ∈ trials.dropLast, t.IsRetried
  last : trials.getLast?.map Trial.outcome = some r
  exhausted : DrawsInRange ε → (∃ fault, r = .error fault ∧ fault.failureClass = .retryable) →
    trials.length = n + 1

namespace IsSession

variable {asked : Asked} {n : Nat} {trials : List (Trial ε)} {t : Trial ε}
  {r : Except FetchFault Bool}

theorem ne_nil (h : IsSession asked n trials r) : trials ≠ [] := by
  rintro rfl
  exact nomatch h.last

/-- A session of one attempt. -/
theorem single (hasked : t.call.asked = asked)
    (hexhausted : DrawsInRange ε → t.IsRetried → n = 0) :
    IsSession asked n [t] t.outcome where
  asked_eq u hu := List.mem_singleton.1 hu ▸ hasked
  length_le := by simp
  retried u hu := absurd hu List.not_mem_nil
  last := rfl
  exhausted hdraws hretried := by rw [hexhausted hdraws hretried, List.length_singleton]

/-- A session goes on after an attempt that is worth another one. -/
theorem cons (hasked : t.call.asked = asked) (hretried : t.IsRetried)
    (h : IsSession asked n trials r) : IsSession asked (n + 1) (t :: trials) r where
  asked_eq u hu := by
    rcases List.mem_cons.1 hu with rfl | hu
    · exact hasked
    · exact h.asked_eq u hu
  length_le := Nat.succ_le_succ h.length_le
  retried u hu := by
    rw [List.dropLast_cons_of_ne_nil h.ne_nil] at hu
    rcases List.mem_cons.1 hu with rfl | hu
    · exact hretried
    · exact h.retried u hu
  last := by
    rw [List.getLast?_cons, Option.map_some, ← h.last]
    obtain ⟨last, hlast, -⟩ := Option.map_eq_some_iff.1 h.last
    rw [hlast]
    rfl
  exhausted hdraws hr := congrArg Nat.succ (h.exhausted hdraws hr)

/-- All attempts of a session that fails have failed. -/
theorem failed {fault : FetchFault} (h : IsSession asked n trials (.error fault)) :
    ∀ t ∈ trials, ∃ fault, t.outcome = .error fault := by
  intro t ht
  obtain ⟨last, hlast, hfault⟩ := Option.map_eq_some_iff.1 h.last
  rw [← List.dropLast_append_getLast? last hlast] at ht
  rcases List.mem_append.1 ht with ht | ht
  · obtain ⟨fault, hfault, -⟩ := h.retried t ht
    exact ⟨fault, hfault⟩
  · rw [List.mem_singleton.1 ht]
    exact ⟨fault, hfault⟩

end IsSession

/-- **The attempts of a session.** The wait before each retry fits in the bound on the total wait,
if the draws lie in their range, so that only the number of retries ends a session. -/
theorem retryFrom_trials (hne : destination.key ≠ (sidecar destination).key) {asked : Asked}
    {s : Schedule} (hdvd : 5 ∣ s.initial) {left retry waited : Nat} {r : Except FetchFault Bool}
    (hleft : retry + left = s.maxRetries)
    (hwaited : DrawsInRange ε → 5 * waited ≤ 6 * s.intervalsBefore retry)
    (h : retryFrom s (conditionalFetch destination (ask asked)) retry waited left w = (r, w')) :
    ∃ trials, Trials destination w trials w' ∧ IsSession asked left trials r := by
  induction left generalizing w retry waited with
  | zero =>
    obtain ⟨call, hasked, hcalls⟩ := exists_trial hne h
    subst hasked
    exact ⟨[⟨call, r⟩], .cons w'.outside h hcalls (.nil _), .single rfl fun _ _ => rfl⟩
  | succ left ih =>
    obtain ⟨outcome, w₁, hattempt, h⟩ := bind_eq_iff.1 h
    obtain ⟨call, hasked, hcalls⟩ := exists_trial hne hattempt
    subst hasked
    cases outcome with
    | ok updated =>
      obtain ⟨rfl, rfl⟩ := pure_eq_iff.1 h
      exact ⟨[⟨call, .ok updated⟩], .cons w₁.outside hattempt hcalls (.nil _),
        .single rfl fun _ ⟨_, hfault, _⟩ => nomatch hfault⟩
    | error fault =>
      cases hclass : fault.failureClass with
      | terminal =>
        simp only [hclass] at h
        obtain ⟨rfl, rfl⟩ := pure_eq_iff.1 h
        refine ⟨[⟨call, .error fault⟩], .cons w₁.outside hattempt hcalls (.nil _), .single rfl ?_⟩
        rintro - ⟨_, ⟨⟩, hretryable⟩
        exact nomatch hclass.symm.trans hretryable
      | retryable =>
        simp only [hclass] at h
        obtain ⟨draw, w₂, hdraw, h⟩ := bind_eq_iff.1 h
        obtain ⟨rfl, rfl⟩ := Prod.ext_iff.1 hdraw
        have hfits := fun hdraws : DrawsInRange ε =>
          Schedule.add_delayFor_le (hdraws w₁.outside).2 hdvd (by omega) (hwaited hdraws)
        split at h
        · next hover =>
          obtain ⟨rfl, rfl⟩ := pure_eq_iff.1 h
          refine ⟨[⟨call, .error fault⟩], .cons _ hattempt hcalls (.nil _), .single rfl ?_⟩
          exact fun hdraws _ => absurd (hfits hdraws).2 (Nat.not_le_of_lt hover)
        · obtain ⟨u, w₃, hwait, h⟩ := bind_eq_iff.1 h
          obtain ⟨-, rfl⟩ := Prod.ext_iff.1 hwait
          obtain ⟨trials, htrials, hsession⟩ :=
            ih (by omega) (fun hdraws => (hfits hdraws).1) h
          exact ⟨⟨call, .error fault⟩ :: trials, .cons _ hattempt hcalls htrials,
            hsession.cons rfl ⟨fault, rfl, hclass⟩⟩

/-- The attempts of a whole session. -/
theorem retrying_trials (hne : destination.key ≠ (sidecar destination).key) {asked : Asked}
    {s : Schedule} (hdvd : 5 ∣ s.initial) {r : Except FetchFault Bool}
    (h : retrying s (conditionalFetch destination (ask asked)) w = (r, w')) :
    ∃ trials, Trials destination w trials w' ∧ IsSession asked s.maxRetries trials r :=
  retryFrom_trials hne hdvd (Nat.zero_add _) (fun _ => Nat.zero_le _) h

/-! ### Fetches -/

/-- The sessions of a fetch with `n` retries in each: the attempts at the object store, those over
HTTP, and the outcome. -/
inductive FetchSessions (url : String) (n : Nat) :
    List (Trial ε) → List (Trial ε) → Except FetchFault Bool → Prop
  | overHttp {urls : List (Trial ε)} {r : Except FetchFault Bool}
      (hlocation : storedObject? url = none) (hurls : IsSession (.url url) n urls r) :
      FetchSessions url n [] urls r
  | fromStore {location : ObjectLocation} {objects : List (Trial ε)} {updated : Bool}
      (hlocation : storedObject? url = some location)
      (hobjects : IsSession (.object location) n objects (.ok updated)) :
      FetchSessions url n objects [] (.ok updated)
  | fallback {location : ObjectLocation} {objects urls : List (Trial ε)} {fault : FetchFault}
      {r : Except FetchFault Bool} (hlocation : storedObject? url = some location)
      (hobjects : IsSession (.object location) n objects (.error fault))
      (hurls : IsSession (.url url) n urls r) : FetchSessions url n objects urls r

theorem fetchRemote_trials (hne : destination.key ≠ (sidecar destination).key)
    {settings : FetchSettings} {url : String} {s : Schedule}
    (hs : Schedule.make? settings.initialInterval settings.maxRetries = .ok s)
    (hdvd : 5 ∣ s.initial) {r : Except FetchFault Bool}
    (h : (fetchRemote settings url destination : StateM (World ε) _) w = (r, w')) :
    ∃ objects urls, Trials destination w (objects ++ urls) w' ∧
      FetchSessions url s.maxRetries objects urls r := by
  unfold fetchRemote at h
  simp only [hs] at h
  cases hlocation : storedObject? url with
  | none =>
    simp only [hlocation] at h
    obtain ⟨urls, htrials, hurls⟩ := retrying_trials hne hdvd h
    exact ⟨[], urls, htrials, .overHttp hlocation hurls⟩
  | some location =>
    simp only [hlocation] at h
    obtain ⟨fetched, w₁, hfetched, h⟩ := bind_eq_iff.1 h
    obtain ⟨objects, htrials, hobjects⟩ := retrying_trials hne hdvd hfetched
    cases fetched with
    | ok updated =>
      obtain ⟨rfl, rfl⟩ := pure_eq_iff.1 h
      exact ⟨objects, [], (List.append_nil objects).symm ▸ htrials, .fromStore hlocation hobjects⟩
    | error fault =>
      obtain ⟨urls, hmore, hurls⟩ := retrying_trials hne hdvd h
      exact ⟨objects, urls, htrials.append hmore, .fallback hlocation hobjects hurls⟩

namespace FetchSessions

variable {url : String} {n : Nat} {objects urls : List (Trial ε)} {r : Except FetchFault Bool}

theorem objects_iff (h : FetchSessions url n objects urls r) :
    objects ≠ [] ↔ (storedObject? url).isSome := by
  cases h with
  | overHttp hlocation hurls => simp [hlocation]
  | fromStore hlocation hobjects => simp [hlocation, hobjects.ne_nil]
  | fallback hlocation hobjects hurls => simp [hlocation, hobjects.ne_nil]

theorem urls_iff (h : FetchSessions url n objects urls r) :
    urls ≠ [] ↔
      objects = [] ∨ ∃ fault, objects.getLast?.map Trial.outcome = some (.error fault) := by
  cases h with
  | overHttp hlocation hurls => exact iff_of_true hurls.ne_nil (.inl rfl)
  | fromStore hlocation hobjects => simp [hobjects.ne_nil, hobjects.last]
  | fallback hlocation hobjects hurls => exact iff_of_true hurls.ne_nil (.inr ⟨_, hobjects.last⟩)

theorem objects_session (h : FetchSessions url n objects urls r) (hobjects : objects ≠ []) :
    ∃ location outcome, storedObject? url = some location ∧
      IsSession (.object location) n objects outcome := by
  cases h with
  | overHttp hlocation hurls => exact absurd rfl hobjects
  | fromStore hlocation hobjects => exact ⟨_, _, hlocation, hobjects⟩
  | fallback hlocation hobjects hurls => exact ⟨_, _, hlocation, hobjects⟩

theorem urls_session (h : FetchSessions url n objects urls r) (hurls : urls ≠ []) :
    ∃ outcome, IsSession (.url url) n urls outcome := by
  cases h with
  | overHttp hlocation hurls => exact ⟨_, hurls⟩
  | fromStore hlocation hobjects => exact absurd rfl hurls
  | fallback hlocation hobjects hurls => exact ⟨_, hurls⟩

/-- The last attempt of both sessions decides. -/
theorem last (h : FetchSessions url n objects urls r) :
    (objects ++ urls).getLast?.map Trial.outcome = some r := by
  cases h with
  | overHttp hlocation hurls => exact hurls.last
  | fromStore hlocation hobjects => rw [List.append_nil, hobjects.last]
  | fallback hlocation hobjects hurls =>
    rw [List.getLast?_append_of_ne_nil _ hurls.ne_nil, hurls.last]

/-- All attempts before the last one of both sessions have failed. -/
theorem failed (h : FetchSessions url n objects urls r) :
    ∀ t ∈ (objects ++ urls).dropLast, ∃ fault, t.outcome = .error fault := by
  have hretried : ∀ {t : Trial ε}, t.IsRetried → ∃ fault, t.outcome = .error fault :=
    fun ⟨fault, hfault, _⟩ => ⟨fault, hfault⟩
  intro t ht
  cases h with
  | overHttp hlocation hurls => exact hretried (hurls.retried t ht)
  | fromStore hlocation hobjects =>
    rw [List.append_nil] at ht
    exact hretried (hobjects.retried t ht)
  | fallback hlocation hobjects hurls =>
    rw [List.dropLast_append_of_ne_nil hurls.ne_nil] at ht
    rcases List.mem_append.1 ht with ht | ht
    · exact hobjects.failed t ht
    · exact hretried (hurls.retried t ht)

end FetchSessions

/-! ### Downloads -/

/-- The attempts of a download with `n` retries in each session, from the world `w` to the result
`r` in the world `w'`: first those at the object store, then those over HTTP. -/
structure DownloadTrials (settings : FetchSettings) (request : FetchRequest) (n : Nat)
    (objects urls : List (Trial ε)) (w : World ε) (r : Except FetchFault FetchResult)
    (w' : World ε) : Prop where
  /-- The requests are those of the attempts. -/
  calls_eq : w'.calls = w.calls ++ (objects ++ urls).map Trial.call
  /-- The store is asked exactly if the URL names an object. -/
  objects_iff : objects ≠ [] ↔ (storedObject? request.source).isSome
  /-- The URL is asked for exactly if the store is not asked, or fails at last. -/
  urls_iff : urls ≠ [] ↔
    objects = [] ∨ ∃ fault, objects.getLast?.map Trial.outcome = some (.error fault)
  objects_session : objects ≠ [] → ∃ location outcome,
    storedObject? request.source = some location ∧ IsSession (.object location) n objects outcome
  urls_session : urls ≠ [] → ∃ outcome, IsSession (.url request.source) n urls outcome
  /-- The outcome of the last attempt of all decides about the result. -/
  decided : ∃ v v' outcome, EntersFetch settings request w v ∧
    Trials (destinationFile settings request) v (objects ++ urls) v' ∧
    (objects ++ urls).getLast?.map Trial.outcome = some outcome ∧
    ((∃ fault, outcome = .error fault ∧ r = .error fault ∧ w' = v') ∨
      ∃ updated, outcome = .ok updated ∧
        (verified request.checksums (destinationFile settings request) updated :
          StateM (World ε) _) v' = (r, w'))
  untagged : ∀ t ∈ (objects ++ urls).tail, t.call.tag = none

/-- **The attempts of a download,** of a source that is not on this machine, with a schedule for
milliseconds and where files can be removed. If its directory cannot be made, nothing is asked. -/
theorem download_trials {settings : FetchSettings} {request : FetchRequest} {s : Schedule}
    {ms : Nat} {r : Except FetchFault FetchResult} (hspared : SparesRemoval ε)
    (hremote : ¬ w.HasSource request.source) (hms : settings.initialInterval = milliseconds ms)
    (hs : Schedule.make? settings.initialInterval settings.maxRetries = .ok s)
    (h : (download settings request : StateM (World ε) _) w = (r, w')) :
    (∃ fault, (FileStore.createDirs (destinationDir settings request) : StateM (World ε) _) w =
        (.error fault, w') ∧ r = .error (.io (destinationDir settings request) fault) ∧
        w'.calls = w.calls) ∨
      ∃ objects urls, DownloadTrials settings request (max 1 (min settings.maxRetries 100))
        objects urls w r w' := by
  have hne := destinationFile_ne_sidecar settings request
  have hdvd : 5 ∣ s.initial := Schedule.dvd_initial_of_make? (hms ▸ hs)
  have hfetches : ∀ {v v' : World ε} {outcome : Except FetchFault Bool},
      EntersFetch settings request w v →
      (fetchRemote settings request.source (destinationFile settings request) :
        StateM (World ε) _) v = (outcome, v') →
      w'.calls = v'.calls →
      ((∃ fault, outcome = .error fault ∧ r = .error fault ∧ w' = v') ∨
        ∃ updated, outcome = .ok updated ∧
          (verified request.checksums (destinationFile settings request) updated :
            StateM (World ε) _) v' = (r, w')) →
      ∃ objects urls, DownloadTrials settings request (max 1 (min settings.maxRetries 100))
        objects urls w r w' := by
    intro v v' outcome hfetch hdone hcalls hdecided
    obtain ⟨objects, urls, htrials, hsessions⟩ := fetchRemote_trials hne hs hdvd hdone
    rw [(Schedule.make?_eq_ok hs).2] at hsessions
    refine ⟨objects, urls, ⟨?_, hsessions.objects_iff, hsessions.urls_iff,
      hsessions.objects_session, hsessions.urls_session,
      ⟨v, v', outcome, hfetch, htrials, hsessions.last, hdecided⟩,
      htrials.untagged hspared hne hsessions.failed⟩⟩
    rw [hcalls, htrials.calls_eq, hfetch.cases.2.1]
  cases download_cases h with
  | noDirectory fault hdir => exact .inl ⟨fault, hdir, rfl, (createDirs_cases hdir).2.1⟩
  | atHand path hdir hlocal hverified => exact absurd (hasSource_of_atHand hdir hlocal) hremote
  | unfetched fault hfetch hfailed =>
    exact .inr (hfetches hfetch hfailed rfl (.inl ⟨fault, rfl, rfl, rfl⟩))
  | fetched updated hfetch hdone hverified =>
    have hquiet := (verified_cases hverified).1
    have hcalls := hquiet.calls_eq.trans (List.append_nil _)
    exact .inr (hfetches hfetch hdone hcalls (.inr ⟨updated, rfl, hverified⟩))

/-! ### An object that is refused by its store -/

/-- A request for an object of the store. -/
def objectRequest : FetchRequest :=
  ⟨"https://packages.s3.eu-west-1.amazonaws.com/agent.zip", some ⟨"out"⟩, .empty⟩

/-- Settings with one retry after half a second. -/
def halfSecondSettings : FetchSettings :=
  ⟨⟨"out"⟩, milliseconds 500, 1, 1, 1⟩

theorem make?_halfSecond :
    Schedule.make? halfSecondSettings.initialInterval halfSecondSettings.maxRetries =
      .ok ⟨milliseconds 500, 1, by decide, by decide, by decide, by decide⟩ :=
  rfl

theorem destinationFile_object :
    destinationFile halfSecondSettings objectRequest =
      ⟨"out/ff9662ad90ef22cde75142775a5f342906b768a1"⟩ := by
  have haddress : contentAddress "https://packages.s3.eu-west-1.amazonaws.com/agent.zip" =
      "ff9662ad90ef22cde75142775a5f342906b768a1" := by
    decide +kernel
  have hjoin : (Path.mk "out").join "ff9662ad90ef22cde75142775a5f342906b768a1" =
      ⟨"out/ff9662ad90ef22cde75142775a5f342906b768a1"⟩ := by
    decide +kernel
  rw [← hjoin, ← haddress]
  rfl

omit [Outside ε] in
theorem not_hasSource_object
    (h : w.file ["https:", "packages.s3.eu-west-1.amazonaws.com", "agent.zip"] = none) :
    ¬ w.HasSource objectRequest.source := by
  have hkey : (Path.mk objectRequest.source).key =
      ["https:", "packages.s3.eu-west-1.amazonaws.com", "agent.zip"] := by decide +kernel
  have hurl : fileOfUrl? objectRequest.source = none := by decide +kernel
  simp [HasSource, hkey, hurl, h]

/-- A world with the file of a download and its tag. The store refuses the object, the first request
over HTTP takes too long, and the second one is answered. -/
def World.refused : World Script :=
  ⟨⟨[(["out", "ff9662ad90ef22cde75142775a5f342906b768a1"], [1]),
      (["out", "ff9662ad90ef22cde75142775a5f342906b768a1.etag"], [116])], [["out"]], []⟩,
    ⟨[.error (.httpStatus objectRequest.source 403), .error (.timeout objectRequest.source),
      .ok (.modified none ⟨[[2]], none⟩)]⟩, []⟩

/-- The requests for an object that its store refuses: one of the store with the tag, and two over
HTTP without one. -/
theorem download_trials_refused :
    ∃ r w', (download halfSecondSettings objectRequest : StateM (World Script) _) refused =
        (r, w') ∧
      w'.calls.map (fun call => (call.asked, call.tag)) =
        [(.object ⟨false, "packages", "agent.zip", "eu-west-1"⟩, some "t"),
          (.url objectRequest.source, none), (.url objectRequest.source, none)] ∧
      ∃ objects urls,
        DownloadTrials halfSecondSettings objectRequest 1 objects urls refused r w' := by
  have hcalls : ((download halfSecondSettings objectRequest :
      StateM (World Script) _) refused).2.calls.map (fun call => (call.asked, call.tag)) =
        [(.object ⟨false, "packages", "agent.zip", "eu-west-1"⟩, some "t"),
          (.url objectRequest.source, none), (.url objectRequest.source, none)] := by
    unfold download
    rw [destinationFile_object]
    decide +kernel
  refine ⟨_, _, Prod.mk.eta.symm, hcalls, ?_⟩
  rcases download_trials sparesRemoval_script (not_hasSource_object (w := refused) (by decide))
    rfl make?_halfSecond Prod.mk.eta.symm with ⟨fault, -, -, hnone⟩ | htrials
  · rw [hnone] at hcalls
    cases hcalls
  · exact htrials

/-- A world with a file in the place of the directory. -/
def World.walled : World Script :=
  ⟨⟨[(["out"], [1])], [], []⟩, ⟨[]⟩, []⟩

/-- A download without its directory asks for nothing, although the store was not asked either. -/
theorem not_downloadTrials_walled :
    SparesRemoval Script ∧ ¬ walled.HasSource objectRequest.source ∧
      halfSecondSettings.initialInterval = milliseconds 500 ∧
      ∃ r w', (download halfSecondSettings objectRequest : StateM (World Script) _) walled =
          (r, w') ∧
        ¬ ∃ objects urls,
          DownloadTrials halfSecondSettings objectRequest 1 objects urls walled r w' := by
  refine ⟨sparesRemoval_script, not_hasSource_object (by decide), rfl, _, _,
    Prod.mk.eta.symm, ?_⟩
  rintro ⟨objects, urls, htrials⟩
  have hcalls : ((download halfSecondSettings objectRequest :
      StateM (World Script) _) walled).2.calls = [] := by decide +kernel
  have hnone : (objects ++ urls).map Trial.call = [] := htrials.calls_eq.symm.trans hcalls
  obtain ⟨hobjects, hurls⟩ := List.append_eq_nil_iff.1 (List.map_eq_nil_iff.1 hnone)
  exact htrials.urls_iff.2 (.inl hobjects) hurls

end Depot
