import Depot.Proofs.Fetch.Footprint

/-!
# What a failed download leaves

A download of a source that is not on this machine fails before it has begun to fetch, with the last
attempt of its last session, or with the verification of what it has fetched. Before the fetch
nothing has changed. After a failed attempt neither the file nor its sidecar is there, wherever the
attempt has failed: in the request, at the sidecar, at the file, or at any chunk of the body. A
verification leaves everything as the fetch has left it. All this is for stores that let files be
removed, while other operations may fail at will.

## Main definitions

* `World.Untouched` : no file differs, and nothing was asked for.
* `FailureLeaves` : the ways in which a download fails, and the worlds that they leave.

## Main results

* `fetchRemote_eq_error` : what a failed fetch leaves.
* `download_failureLeaves` : every failed download has failed in one of the ways.
-/

namespace Depot

open World

variable {ε : Type} {w w' : World ε}

/-- From one world to the next no file has changed and nothing has been asked for. -/
structure World.Untouched (w w' : World ε) : Prop where
  file_eq : ∀ key, w'.file key = w.file key
  calls_eq : w'.calls = w.calls

variable [Outside ε] {settings : FetchSettings} {request : FetchRequest}

theorem EntersFetch.untouched {v : World ε} (h : EntersFetch settings request w v) :
    Untouched w v := by
  obtain ⟨hfile, hcalls, -⟩ := h.cases
  exact ⟨hfile, hcalls⟩

/-- The ways in which a download of a source that is not on this machine fails, and what each of
them leaves behind. -/
inductive FailureLeaves (settings : FetchSettings) (request : FetchRequest) (w : World ε) :
    FetchFault → World ε → Prop
  /-- The directory of the download cannot be created. -/
  | noDirectory {w' : World ε} (cause : IoFault)
      (hdir : (FileStore.createDirs (destinationDir settings request) : StateM (World ε) _) w =
        (.error cause, w'))
      (huntouched : Untouched w w') :
      FailureLeaves settings request w (.io (destinationDir settings request) cause) w'
  /-- There is no schedule for the attempts. -/
  | unscheduled {w' : World ε} (cause : ScheduleFault)
      (hschedule : Schedule.make? settings.initialInterval settings.maxRetries = .error cause)
      (huntouched : Untouched w w') :
      FailureLeaves settings request w (.schedule cause) w'
  /-- The last attempt fails. -/
  | unfetched {v v' w' : World ε} {asked : Asked} {made : List (Call ε)} (fault : FetchFault)
      (hasked : Names request.source asked)
      (hattempt : conditionalFetch (destinationFile settings request) (ask asked) v =
        (.error fault, v'))
      (hlast : ∃ outside, w' = v'.withOutside outside)
      (hcalls : w'.calls = w.calls ++ made) (hmade : made ≠ [])
      (hfile : w'.Lacks (destinationFile settings request))
      (hsidecar : w'.Lacks (sidecar (destinationFile settings request))) :
      FailureLeaves settings request w fault w'
  /-- The file that was fetched does not pass its verification. -/
  | unverified {v v' w' : World ε} (updated : Bool) (cause : ChecksumFault)
      (hstart : Untouched w v)
      (hdone : (fetchRemote settings request.source (destinationFile settings request) :
        StateM (World ε) _) v = (.ok updated, v'))
      (huntouched : Untouched v' w') :
      FailureLeaves settings request w (.verification (destinationFile settings request) cause) w'

/-! ### Fetches -/

/-- **A fetch fails with its last attempt,** and leaves neither the file nor its sidecar, or it has
no schedule and does nothing. -/
theorem fetchRemote_eq_error {url : String} {destination : Path} {fault : FetchFault}
    (hne : destination.key ≠ (sidecar destination).key) (hspared : SparesRemoval ε)
    (hdir : destination.key ∉ w.dirs) (hdir' : (sidecar destination).key ∉ w.dirs)
    (h : (fetchRemote settings url destination : StateM (World ε) _) w = (.error fault, w')) :
    (∃ cause, Schedule.make? settings.initialInterval settings.maxRetries = .error cause ∧
      fault = .schedule cause ∧ w' = w) ∨
    ∃ asked v v' outside made, Names url asked ∧
      conditionalFetch destination (ask asked) v = (.error fault, v') ∧
      w' = v'.withOutside outside ∧ w'.calls = w.calls ++ made ∧ made ≠ [] ∧
      w'.Lacks destination ∧ w'.Lacks (sidecar destination) := by
  rcases fetchRemote_attempt hne h with
    ⟨cause, hschedule, hfault, rfl⟩ | ⟨asked, made, v, v', outside, hasked, hv, hattempt, rfl⟩
  · exact .inl ⟨cause, hschedule, Except.error.inj hfault, rfl⟩
  · obtain ⟨call, -, -, hfailed⟩ := conditionalFetch_cases hne hattempt
    obtain ⟨hfile, hsidecar⟩ :=
      hfailed.lacks hspared (hv.dirs_eq ▸ hdir) (hv.dirs_eq ▸ hdir')
    exact .inr ⟨asked, v, v', outside, made ++ [call], hasked, hattempt, rfl,
      (hv.trans hfailed.moves).calls_eq, by simp, hfile, hsidecar⟩

/-! ### Verifications -/

/-- A verification that fails names the file, and changes nothing. -/
theorem verified_eq_error {checksums : Dict String} {path : Path} {updated : Bool}
    {fault : FetchFault}
    (h : (verified checksums path updated : StateM (World ε) _) w = (.error fault, w')) :
    (∃ cause, fault = .verification path cause) ∧ Untouched w w' := by
  have hmoves := (verified_cases h).1
  obtain ⟨checked, w₁, -, h⟩ := bind_eq_iff.1 h
  refine ⟨?_, hmoves.file_eq', by rw [hmoves.calls_eq, List.append_nil]⟩
  cases checked with
  | ok outcome => cases (pure_eq_iff.1 h).1
  | error cause => exact ⟨cause, (Except.error.inj (pure_eq_iff.1 h).1).symm⟩

/-! ### Downloads -/

/-- **Every failed download of a source that is not on this machine** has failed in one of the ways,
and leaves what goes with it, if files can be removed and no directory stands in the place of the
file or its sidecar. -/
theorem download_failureLeaves {fault : FetchFault} (hspared : SparesRemoval ε)
    (hremote : ¬ w.HasSource request.source)
    (hdir : (destinationFile settings request).key ∉ w.dirs)
    (hdir' : (sidecar (destinationFile settings request)).key ∉ w.dirs)
    (h : (download settings request : StateM (World ε) _) w = (.error fault, w')) :
    FailureLeaves settings request w fault w' := by
  cases download_cases h with
  | noDirectory cause hmade =>
    obtain ⟨hfile, hcalls, -⟩ := createDirs_cases hmade
    exact .noDirectory cause hmade ⟨hfile, hcalls⟩
  | atHand path hmade hlocal hverified => exact absurd (hasSource_of_atHand hmade hlocal) hremote
  | unfetched fault hfetch hfailed =>
    obtain ⟨-, hcalls, hdirs⟩ := hfetch.cases
    have hplace : ∀ path ∈ [destinationFile settings request,
        sidecar (destinationFile settings request)], path.key ∉ w.dirs → path.key ∉ _ :=
      fun path hpath => mt (hdirs _ (length_lt_of_mem_files settings request hpath)).1
    rcases fetchRemote_eq_error (destinationFile_ne_sidecar settings request) hspared
        (hplace _ (by simp) hdir) (hplace _ (by simp) hdir') hfailed with
      ⟨cause, hschedule, rfl, rfl⟩ |
      ⟨asked, v, v', outside, made, hasked, hattempt, hw', hmade, hne, hfile, hsidecar⟩
    · exact .unscheduled cause hschedule hfetch.untouched
    · exact .unfetched fault hasked hattempt ⟨outside, hw'⟩ (hcalls ▸ hmade) hne hfile hsidecar
  | fetched updated hfetch hdone hverified =>
    obtain ⟨⟨cause, rfl⟩, huntouched⟩ := verified_eq_error hverified
    exact .unverified updated cause hfetch.untouched hdone huntouched

/-- A body that breaks off, and a refusal after it, leave neither the file nor its old tag. -/
theorem download_failureLeaves_brokenOff :
    SparesRemoval Script ∧ ¬ brokenOff.HasSource "agent" ∧
      (destinationFile agentSettings (agentRequest .empty)).key ∉ brokenOff.dirs ∧
      (sidecar (destinationFile agentSettings (agentRequest .empty))).key ∉ brokenOff.dirs ∧
      ∃ w', (download agentSettings (agentRequest .empty) : StateM (World Script) _) brokenOff =
          (.error (.httpStatus "agent" 403), w') ∧ w'.files.files = [(["out", "notes"], [2])] ∧
        FailureLeaves agentSettings (agentRequest .empty) brokenOff (.httpStatus "agent" 403)
          w' := by
  have hremote : ¬ brokenOff.HasSource "agent" := not_hasSource_agent (by decide)
  have hdir : (destinationFile agentSettings (agentRequest .empty)).key ∉ brokenOff.dirs := by
    rw [destinationFile_agent]
    decide +kernel
  have hdir' :
      (sidecar (destinationFile agentSettings (agentRequest .empty))).key ∉ brokenOff.dirs := by
    rw [destinationFile_agent]
    decide +kernel
  obtain ⟨w', hbroken, hleft, -⟩ := download_brokenOff
  exact ⟨sparesRemoval_script, hremote, hdir, hdir', w', hbroken, hleft,
    download_failureLeaves sparesRemoval_script hremote hdir hdir' hbroken⟩

end Depot
