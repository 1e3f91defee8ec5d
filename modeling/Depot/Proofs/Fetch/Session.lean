import Depot.Proofs.Path
import Depot.Proofs.Fetch.Attempt

/-!
# Sessions and downloads

A retry session is decided by its last attempt, which starts from a world that the failed attempts
before it have left. What every failed attempt preserves, and no draw and no wait disturbs, holds at
the start of that last attempt. The same is true of the two sessions of a download one after the
other, so that a download that fetches is decided by a single attempt.

## Main definitions

* `Names` : what may be asked for on behalf of a URL.
* `EntersFetch` : a download begins to fetch.
* `DownloadEnds` : the ways in which a download ends.

## Main results

* `retryFrom_cases`, `fetchRemote_cases` : the last attempt of a session and of both.
* `download_cases` : every download ends in one of its ways.
-/

namespace Depot

open World

variable {ε : Type} [Outside ε] {w w' : World ε}

/-! ### Sessions -/

section Sessions

variable {I : World ε → Prop} (houtside : ∀ {v : World ε} (outside : ε), I v → I (v.withOutside outside))

include houtside

/-- **A session is decided by its last attempt.** What a failed attempt preserves holds at the start
of the last one. -/
theorem retryFrom_cases {α : Type} {s : Schedule} {attempt : StateM (World ε) (Except FetchFault α)}
    (hstep : ∀ {v v' : World ε} {fault : FetchFault}, I v → attempt v = (.error fault, v') → I v')
    {left retry waited : Nat} {r : Except FetchFault α} (hI : I w)
    (h : retryFrom s attempt retry waited left w = (r, w')) :
    ∃ v v' outside, I v ∧ attempt v = (r, v') ∧ w' = v'.withOutside outside := by
  induction left generalizing w retry waited with
  | zero => exact ⟨w, w', w'.outside, hI, h, rfl⟩
  | succ left ih =>
    obtain ⟨outcome, w₁, hattempt, h⟩ := bind_eq_iff.1 h
    cases outcome with
    | ok a =>
      obtain ⟨rfl, rfl⟩ := pure_eq_iff.1 h
      exact ⟨w, w₁, w₁.outside, hI, hattempt, rfl⟩
    | error fault =>
      cases hclass : fault.failureClass with
      | terminal =>
        simp only [hclass] at h
        obtain ⟨rfl, rfl⟩ := pure_eq_iff.1 h
        exact ⟨w, w₁, w₁.outside, hI, hattempt, rfl⟩
      | retryable =>
        simp only [hclass] at h
        obtain ⟨draw, w₂, hdraw, h⟩ := bind_eq_iff.1 h
        obtain ⟨-, rfl⟩ := Prod.ext_iff.1 hdraw
        split at h
        · obtain ⟨rfl, rfl⟩ := pure_eq_iff.1 h
          exact ⟨w, w₁, _, hI, hattempt, rfl⟩
        · obtain ⟨u, w₃, hwait, h⟩ := bind_eq_iff.1 h
          obtain ⟨-, rfl⟩ := Prod.ext_iff.1 hwait
          exact ih (houtside _ (houtside _ (hstep hI hattempt))) h

/-- What may be asked for on behalf of a URL: the URL itself, and the object that it names. -/
def Names (url : String) (asked : Asked) : Prop :=
  asked = .url url ∨ ∃ location, storedObject? url = some location ∧ asked = .object location

/-- **A fetch is decided by its last attempt,** of whichever session, unless there is no schedule for
the sessions. -/
theorem fetchRemote_cases {settings : FetchSettings} {url : String} {destination : Path}
    (hstep : ∀ {asked : Asked} {v v' : World ε} {fault : FetchFault}, Names url asked → I v →
      conditionalFetch destination (ask asked) v = (.error fault, v') → I v')
    {r : Except FetchFault Bool} (hI : I w)
    (h : (fetchRemote settings url destination : StateM (World ε) _) w = (r, w')) :
    (∃ fault, Schedule.make? settings.initialInterval settings.maxRetries = .error fault ∧
      r = .error (.schedule fault) ∧ w' = w) ∨
    ∃ asked v v' outside, Names url asked ∧ I v ∧
      conditionalFetch destination (ask asked) v = (r, v') ∧ w' = v'.withOutside outside := by
  have hurl : ∀ {s : Schedule} {v : World ε}, I v →
      (fetchUrl s url destination : StateM (World ε) _) v = (r, w') →
      ∃ asked v v' outside, Names url asked ∧ I v ∧
        conditionalFetch destination (ask asked) v = (r, v') ∧ w' = v'.withOutside outside := by
    intro s v hv hrun
    obtain ⟨u, u', outside, hu, hattempt, rfl⟩ :=
      retryFrom_cases houtside (hstep (.inl rfl)) hv hrun
    exact ⟨.url url, u, u', outside, .inl rfl, hu, hattempt, rfl⟩
  unfold fetchRemote at h
  cases hs : Schedule.make? settings.initialInterval settings.maxRetries with
  | error fault =>
    rw [hs] at h
    obtain ⟨rfl, rfl⟩ := pure_eq_iff.1 h
    exact .inl ⟨fault, rfl, rfl, rfl⟩
  | ok s =>
    right
    simp only [hs] at h
    cases hlocation : storedObject? url with
    | none =>
      simp only [hlocation] at h
      exact hurl hI h
    | some location =>
      simp only [hlocation] at h
      have hobject : Names url (.object location) := .inr ⟨location, hlocation, rfl⟩
      obtain ⟨fetched, w₁, hfetched, h⟩ := bind_eq_iff.1 h
      obtain ⟨v, v', outside, hv, hattempt, rfl⟩ :=
        retryFrom_cases houtside (hstep hobject) hI hfetched
      cases fetched with
      | ok updated =>
        obtain ⟨rfl, rfl⟩ := pure_eq_iff.1 h
        exact ⟨.object location, v, v', outside, hobject, hv, hattempt, rfl⟩
      | error fault =>
        -- The second session goes on from where the last attempt of the first one has failed.
        exact hurl (houtside outside (hstep hobject hv hattempt)) h

end Sessions

/-! ### Sources on this machine -/

namespace World

omit [Outside ε] in
/-- The world has a file that a source names, by its path or by its URL. -/
def HasSource (w : World ε) (source : String) : Prop :=
  (w.file (Path.mk source).key).isSome ∨
    ∃ path, fileOfUrl? source = some path ∧ (w.file path.key).isSome

/-- A source is found on this machine where there is a file that it names. -/
theorem localSource?_cases {source : String} {found : Option Path}
    (h : (localSource? source : StateM (World ε) _) w = (found, w')) :
    Moves [] [] w w' ∧ (found = none ↔ ¬ w.HasSource source) := by
  obtain ⟨isPath, w₁, hpath, h⟩ := bind_eq_iff.1 h
  obtain ⟨hmoves, rfl⟩ := isFile_cases hpath
  split at h
  · next hthere =>
    obtain ⟨rfl, rfl⟩ := pure_eq_iff.1 h
    exact ⟨hmoves, iff_of_false (by simp) (not_not_intro (.inl hthere))⟩
  next hthere =>
  cases hurl : fileOfUrl? source with
  | none =>
    simp only [hurl] at h
    obtain ⟨rfl, rfl⟩ := pure_eq_iff.1 h
    refine ⟨hmoves, iff_of_true rfl ?_⟩
    rintro (hsome | ⟨path, hpath, -⟩)
    · exact hthere hsome
    · exact nomatch hurl.symm.trans hpath
  | some path =>
    simp only [hurl] at h
    obtain ⟨isPath, w₂, hpath, h⟩ := bind_eq_iff.1 h
    obtain ⟨hmoves', rfl⟩ := isFile_cases hpath
    rw [hmoves.file_eq'] at h
    split at h
    · next hfile =>
      obtain ⟨rfl, rfl⟩ := pure_eq_iff.1 h
      exact ⟨hmoves.trans hmoves',
        iff_of_false (by simp) (not_not_intro (.inr ⟨path, hurl, hfile⟩))⟩
    · next hfile =>
      obtain ⟨rfl, rfl⟩ := pure_eq_iff.1 h
      refine ⟨hmoves.trans hmoves', iff_of_true rfl ?_⟩
      rintro (hsome | ⟨path', hpath', hsome⟩)
      · exact hthere hsome
      · cases hurl.symm.trans hpath'
        exact hfile hsome

end World

/-! ### The file of a download -/

section Destination

variable (settings : FetchSettings) (request : FetchRequest)

theorem key_destinationFile :
    (destinationFile settings request).key =
      (destinationDir settings request).key ++ [contentAddress request.source] :=
  (isName_contentAddress request.source).key_join _

theorem key_sidecar_destinationFile :
    (sidecar (destinationFile settings request)).key =
      (destinationDir settings request).key ++ [contentAddress request.source ++ ".etag"] :=
  key_sidecar_join (isName_contentAddress request.source) _

/-- File and sidecar lie deeper than the directory of the download. -/
theorem length_lt_of_mem_files {path : Path}
    (h : path ∈ [destinationFile settings request, sidecar (destinationFile settings request)]) :
    (destinationDir settings request).key.length < path.key.length := by
  simp only [List.mem_cons, List.not_mem_nil, or_false] at h
  rcases h with hpath | hpath
  · rw [hpath, key_destinationFile, List.length_append, List.length_singleton]
    omega
  · rw [hpath, key_sidecar_destinationFile, List.length_append, List.length_singleton]
    omega

theorem destinationFile_ne_sidecar :
    (destinationFile settings request).key ≠ (sidecar (destinationFile settings request)).key :=
  key_sidecar_join_ne (isName_contentAddress request.source) _

end Destination

/-! ### A source that is named like a file -/

/-- Settings with a schedule of one retry. -/
def agentSettings : FetchSettings :=
  ⟨⟨"out"⟩, 1, 1, 1, 1⟩

/-- A request for a source that is named like a file. -/
def agentRequest (checksums : Dict String) : FetchRequest :=
  ⟨"agent", some ⟨"out"⟩, checksums⟩

theorem destinationFile_agent (checksums : Dict String) :
    destinationFile agentSettings (agentRequest checksums) =
      ⟨"out/0608c4054662dd902e1314f7e450e3eaa81c1143"⟩ := by
  have haddress : contentAddress "agent" = "0608c4054662dd902e1314f7e450e3eaa81c1143" := by
    decide +kernel
  have hjoin : (Path.mk "out").join "0608c4054662dd902e1314f7e450e3eaa81c1143" =
      ⟨"out/0608c4054662dd902e1314f7e450e3eaa81c1143"⟩ := by
    decide +kernel
  rw [← hjoin, ← haddress]
  rfl

omit [Outside ε] in
theorem not_hasSource_agent (h : w.file ["agent"] = none) : ¬ w.HasSource "agent" := by
  have hkey : (Path.mk "agent").key = ["agent"] := by decide +kernel
  have hurl : fileOfUrl? "agent" = none := by decide +kernel
  simp [HasSource, hkey, hurl, h]

/-! ### Downloads -/

section Downloads

variable {settings : FetchSettings} {request : FetchRequest}

/-- A download from the world `w` begins to fetch in the world `v`: it has its directory, and its
source is not on this machine. -/
def EntersFetch (settings : FetchSettings) (request : FetchRequest) (w v : World ε) : Prop :=
  ∃ u, (FileStore.createDirs (destinationDir settings request) : StateM (World ε) _) w =
      (.ok (), u) ∧
    (localSource? request.source : StateM (World ε) _) u = (none, v)

/-- Creating the directory does not change what is on this machine. -/
theorem found_eq_none_iff {dir : Path} {source : String} {made : Except IoFault Unit}
    {found : Option Path} {u v : World ε}
    (hdir : (FileStore.createDirs dir : StateM (World ε) _) w = (made, u))
    (hlocal : (localSource? source : StateM (World ε) _) u = (found, v)) :
    found = none ↔ ¬ w.HasSource source := by
  obtain ⟨hfile, -, -⟩ := createDirs_cases hdir
  simpa only [HasSource, hfile] using (localSource?_cases hlocal).2

/-- A source that is found has been on this machine before. -/
theorem hasSource_of_atHand {dir : Path} {source : String} {found : Path} {u v : World ε}
    (hdir : (FileStore.createDirs dir : StateM (World ε) _) w = (.ok (), u))
    (hlocal : (localSource? source : StateM (World ε) _) u = (some found, v)) :
    w.HasSource source :=
  Classical.not_not.1 (mt (found_eq_none_iff hdir hlocal).2 (Option.some_ne_none found))

/-- Only a source that is not on this machine is fetched. -/
theorem EntersFetch.not_hasSource {w v : World ε} (h : EntersFetch settings request w v) :
    ¬ w.HasSource request.source := by
  obtain ⟨u, hdir, hlocal⟩ := h
  exact (found_eq_none_iff hdir hlocal).1 rfl

/-- Up to the fetch no file changes and nothing is asked. No directory comes to stand at the place of
the file or its sidecar. -/
theorem EntersFetch.cases {w v : World ε} (h : EntersFetch settings request w v) :
    (∀ key, v.file key = w.file key) ∧ v.calls = w.calls ∧
      ∀ key, (destinationDir settings request).key.length < key.length →
        (key ∈ v.dirs ↔ key ∈ w.dirs) := by
  obtain ⟨u, hdirs, hlocal⟩ := h
  obtain ⟨hfile, hcalls, hadded⟩ := createDirs_cases hdirs
  obtain ⟨hmoves, -⟩ := localSource?_cases hlocal
  refine ⟨fun key => (hmoves.file_eq' key).trans (hfile key), ?_, hmoves.dirs_eq ▸ hadded⟩
  rw [hmoves.calls_eq, hcalls, List.append_nil]

/-- The ways in which a download ends: without a directory, with a file that is on this machine, with
the failure of its fetch, or with a file that it has fetched. -/
inductive DownloadEnds (settings : FetchSettings) (request : FetchRequest) (w : World ε) :
    Except FetchFault FetchResult → World ε → Prop
  | noDirectory {w' : World ε} (fault : IoFault)
      (hdir : (FileStore.createDirs (destinationDir settings request) : StateM (World ε) _) w =
        (.error fault, w')) :
      DownloadEnds settings request w (.error (.io (destinationDir settings request) fault)) w'
  | atHand {u v w' : World ε} {r : Except FetchFault FetchResult} (path : Path)
      (hdir : (FileStore.createDirs (destinationDir settings request) : StateM (World ε) _) w =
        (.ok (), u))
      (hlocal : (localSource? request.source : StateM (World ε) _) u = (some path, v))
      (hverified : (verified request.checksums path false : StateM (World ε) _) v = (r, w')) :
      DownloadEnds settings request w r w'
  | unfetched {v w' : World ε} (fault : FetchFault) (hfetch : EntersFetch settings request w v)
      (hfailed : (fetchRemote settings request.source (destinationFile settings request) :
        StateM (World ε) _) v = (.error fault, w')) :
      DownloadEnds settings request w (.error fault) w'
  | fetched {v v' w' : World ε} {r : Except FetchFault FetchResult} (updated : Bool)
      (hfetch : EntersFetch settings request w v)
      (hdone : (fetchRemote settings request.source (destinationFile settings request) :
        StateM (World ε) _) v = (.ok updated, v'))
      (hverified : (verified request.checksums (destinationFile settings request) updated :
        StateM (World ε) _) v' = (r, w')) :
      DownloadEnds settings request w r w'

theorem download_cases {r : Except FetchFault FetchResult}
    (h : (download settings request : StateM (World ε) _) w = (r, w')) :
    DownloadEnds settings request w r w' := by
  obtain ⟨made, u, hdir, h⟩ := bind_eq_iff.1 h
  cases made with
  | error fault =>
    obtain ⟨rfl, rfl⟩ := pure_eq_iff.1 h
    exact .noDirectory fault hdir
  | ok _ =>
    obtain ⟨found, v, hlocal, h⟩ := bind_eq_iff.1 h
    cases found with
    | some path => exact .atHand path hdir hlocal h
    | none =>
      obtain ⟨fetched, v', hdone, h⟩ := bind_eq_iff.1 h
      cases fetched with
      | error fault =>
        obtain ⟨rfl, rfl⟩ := pure_eq_iff.1 h
        exact .unfetched fault ⟨u, hdir, hlocal⟩ hdone
      | ok updated => exact .fetched updated ⟨u, hdir, hlocal⟩ hdone h

end Downloads

end Depot
