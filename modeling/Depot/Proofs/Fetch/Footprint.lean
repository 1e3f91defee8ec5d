import Depot.Proofs.Fetch.Integrity

/-!
# What a download touches

A download writes and removes in one place only: at the file that it keeps for its source, and at
the sidecar beside it. Both stand directly below its directory, whatever the source is called.
However many attempts there are, wherever they fail and whatever file operations fail with them, no
other file is created, changed or removed, and no directory is removed. A source that is on this
machine is not even asked for.

## Main definitions

* `World.Confined` : only some files differ, and no directory is gone.

## Main results

* `fetchRemote_attempt` : a fetch ends with an attempt, and those before it are confined.
* `download_footprint` : a download is confined to its file and the sidecar.
-/

namespace Depot

open World

variable {ε : Type} {w w' w'' : World ε} {keys : List PathKey}

namespace World

/-- From one world to the next only the files at `keys` may come, go or change, and no directory
goes. -/
structure Confined (keys : List PathKey) (w w' : World ε) : Prop where
  file_eq : ∀ key ∉ keys, w'.file key = w.file key
  dirs_subset : w.dirs ⊆ w'.dirs

theorem Confined.trans (h : Confined keys w w') (h' : Confined keys w' w'') :
    Confined keys w w'' :=
  ⟨fun key hkey => (h'.file_eq key hkey).trans (h.file_eq key hkey),
    fun _ hdir => h'.dirs_subset (h.dirs_subset hdir)⟩

theorem Moves.confined {made : List (Call ε)} (h : Moves keys made w w') : Confined keys w w' :=
  ⟨h.file_eq, h.dirs_eq ▸ List.Subset.refl _⟩

end World

variable [Outside ε]

theorem World.confined_of_createDirs {p : Path} {r : Except IoFault Unit}
    (h : (FileStore.createDirs p : StateM (World ε) _) w = (r, w')) : Confined keys w w' :=
  ⟨fun key _ => (createDirs_cases h).1 key, dirs_subset_of_createDirs h⟩

/-! ### Fetches -/

section Fetches

variable {settings : FetchSettings} {destination : Path}

/-- **A fetch ends with an attempt,** unless there is no schedule for it. The attempts before it
have failed, and have touched the file and its sidecar alone. -/
theorem fetchRemote_attempt {url : String}
    (hne : destination.key ≠ (sidecar destination).key) {r : Except FetchFault Bool}
    (h : (fetchRemote settings url destination : StateM (World ε) _) w = (r, w')) :
    (∃ fault, Schedule.make? settings.initialInterval settings.maxRetries = .error fault ∧
      r = .error (.schedule fault) ∧ w' = w) ∨
    ∃ asked made v v' outside, Names url asked ∧
      Moves [destination.key, (sidecar destination).key] made w v ∧
      conditionalFetch destination (ask asked) v = (r, v') ∧ w' = v'.withOutside outside := by
  -- What the failed attempts preserve is that all worlds so far differ at the two files alone.
  have hstep : ∀ {asked : Asked} {v v' : World ε} {fault : FetchFault}, Names url asked →
      (∃ made, Moves [destination.key, (sidecar destination).key] made w v) →
      conditionalFetch destination (ask asked) v = (.error fault, v') →
      ∃ made, Moves [destination.key, (sidecar destination).key] made w v' := by
    rintro asked v v' fault - ⟨made, hv⟩ hattempt
    obtain ⟨call, -, -, hattempt⟩ := conditionalFetch_cases hne hattempt
    exact ⟨made ++ [call], hv.trans hattempt.moves⟩
  have houtside : ∀ {v : World ε} (outside : ε),
      (∃ made, Moves [destination.key, (sidecar destination).key] made w v) →
      ∃ made, Moves [destination.key, (sidecar destination).key] made w (v.withOutside outside) :=
    fun outside ⟨made, hv⟩ =>
      ⟨made ++ [], hv.trans (Moves.withOutside _ outside).widen⟩
  rcases fetchRemote_cases houtside hstep ⟨[], (Moves.refl w).widen⟩ h with
    hschedule | ⟨asked, v, v', outside, hasked, ⟨made, hv⟩, hattempt, hw'⟩
  · exact .inl hschedule
  · exact .inr ⟨asked, made, v, v', outside, hasked, hv, hattempt, hw'⟩

theorem fetchRemote_confined {url : String}
    (hne : destination.key ≠ (sidecar destination).key) {r : Except FetchFault Bool}
    (h : (fetchRemote settings url destination : StateM (World ε) _) w = (r, w')) :
    Confined [destination.key, (sidecar destination).key] w w' := by
  rcases fetchRemote_attempt hne h with
    ⟨fault, -, -, rfl⟩ | ⟨asked, made, v, v', outside, -, hv, hattempt, rfl⟩
  · exact (Moves.refl w').widen.confined
  · obtain ⟨call, -, -, hattempt⟩ := conditionalFetch_cases hne hattempt
    exact (hv.confined.trans hattempt.moves.confined).trans
      (Moves.withOutside v' outside).widen.confined

end Fetches

/-! ### Downloads -/

section Downloads

variable {settings : FetchSettings} {request : FetchRequest} {v : World ε}

theorem EntersFetch.confined (h : EntersFetch settings request w v) : Confined keys w v := by
  obtain ⟨u, hdir, hlocal⟩ := h
  exact (confined_of_createDirs hdir).trans (localSource?_cases hlocal).1.widen.confined

theorem download_confined {r : Except FetchFault FetchResult}
    (h : (download settings request : StateM (World ε) _) w = (r, w')) :
    Confined [(destinationFile settings request).key,
      (sidecar (destinationFile settings request)).key] w w' := by
  have hne := destinationFile_ne_sidecar settings request
  cases download_cases h with
  | noDirectory fault hdir => exact confined_of_createDirs hdir
  | atHand path hdir hlocal hverified =>
    exact ((confined_of_createDirs hdir).trans (localSource?_cases hlocal).1.widen.confined).trans
      (verified_cases hverified).1.widen.confined
  | unfetched fault hfetch hfailed =>
    exact hfetch.confined.trans (fetchRemote_confined hne hfailed)
  | fetched updated hfetch hdone hverified =>
    exact (hfetch.confined.trans (fetchRemote_confined hne hdone)).trans
      (verified_cases hverified).1.widen.confined

/-- A download of a source that is on this machine changes no file and asks for nothing. -/
theorem download_of_hasSource {r : Except FetchFault FetchResult}
    (hsource : w.HasSource request.source)
    (h : (download settings request : StateM (World ε) _) w = (r, w')) :
    (∀ key, w'.file key = w.file key) ∧ w'.calls = w.calls := by
  cases download_cases h with
  | noDirectory fault hdir =>
    obtain ⟨hfile, hcalls, -⟩ := createDirs_cases hdir
    exact ⟨hfile, hcalls⟩
  | atHand path hdir hlocal hverified =>
    obtain ⟨hfile, hcalls, -⟩ := createDirs_cases hdir
    have hquiet := (localSource?_cases hlocal).1.trans (verified_cases hverified).1
    exact ⟨fun key => (hquiet.file_eq' key).trans (hfile key), by
      rw [hquiet.calls_eq, hcalls, List.append_nil, List.append_nil]⟩
  | unfetched fault hfetch hfailed => exact absurd hsource hfetch.not_hasSource
  | fetched updated hfetch hdone hverified => exact absurd hsource hfetch.not_hasSource

/-- **A download touches its file and the sidecar alone,** whether it succeeds or fails. These are
two files directly below its directory, no directory is removed, and if the source is on this
machine, no file changes at all and no request is made. -/
theorem download_footprint {r : Except FetchFault FetchResult}
    (h : (download settings request : StateM (World ε) _) w = (r, w')) :
    (∀ key, key ≠ (destinationFile settings request).key →
      key ≠ (sidecar (destinationFile settings request)).key → w'.file key = w.file key) ∧
    (∃ name other, Path.IsName name ∧ Path.IsName other ∧ name ≠ other ∧
      (destinationFile settings request).key = (destinationDir settings request).key ++ [name] ∧
      (sidecar (destinationFile settings request)).key =
        (destinationDir settings request).key ++ [other]) ∧
    (∀ key ∈ w.dirs, key ∈ w'.dirs) ∧
    (w.HasSource request.source → (∀ key, w'.file key = w.file key) ∧ w'.calls = w.calls) := by
  have hconfined := download_confined h
  have hname := isName_contentAddress request.source
  have hne : contentAddress request.source ≠ contentAddress request.source ++ ".etag" := by
    intro heq
    refine destinationFile_ne_sidecar settings request ?_
    rw [key_destinationFile, key_sidecar_destinationFile, ← heq]
  exact ⟨fun key hfile hsidecar => hconfined.file_eq key (by simp [hfile, hsidecar]),
    ⟨_, _, hname, hname.etag, hne, key_destinationFile settings request,
      key_sidecar_destinationFile settings request⟩,
    fun _ hdir => hconfined.dirs_subset hdir, fun hsource => download_of_hasSource hsource h⟩

end Downloads

/-! ### A body that breaks off -/

/-- A world with the file of a download, its tag, and another file beside them. A new body breaks
off, and the next request is refused. -/
def World.brokenOff : World Script :=
  ⟨⟨[(["out", "0608c4054662dd902e1314f7e450e3eaa81c1143"], [1]),
      (["out", "0608c4054662dd902e1314f7e450e3eaa81c1143.etag"], [116]), (["out", "notes"], [2])],
    [["out"]], []⟩,
    ⟨[.ok (.modified (some "u") ⟨[[3]], some (.timeout "agent")⟩),
      .error (.httpStatus "agent" 403)]⟩, []⟩

theorem download_brokenOff :
    ∃ w', (download agentSettings (agentRequest .empty) : StateM (World Script) _) brokenOff =
        (.error (.httpStatus "agent" 403), w') ∧ w'.files.files = [(["out", "notes"], [2])] ∧
      w'.calls.length = 2 := by
  refine ⟨_, eq_of_swap ?_, ?_, ?_⟩
  all_goals
    unfold download
    rw [destinationFile_agent]
    decide +kernel

/-- Of three files in the directory only the download's own two go. A source that is on this machine
is verified where it is. -/
theorem download_footprint_brokenOff :
    (∃ r w', (download agentSettings (agentRequest .empty) : StateM (World Script) _) brokenOff =
        (r, w') ∧ w'.files.files = [(["out", "notes"], [2])] ∧
        (∀ key, key ≠ (destinationFile agentSettings (agentRequest .empty)).key →
          key ≠ (sidecar (destinationFile agentSettings (agentRequest .empty))).key →
          w'.file key = brokenOff.file key) ∧
        ∀ key ∈ brokenOff.dirs, key ∈ w'.dirs) ∧
      (greeting []).HasSource "agent" ∧
      ∃ r w', (download agentSettings (agentRequest .empty) : StateM (World Script) _)
          (greeting []) = (r, w') ∧ (∀ key, w'.file key = (greeting []).file key) ∧
        w'.calls = (greeting []).calls := by
  obtain ⟨w', hbroken, hleft, -⟩ := download_brokenOff
  obtain ⟨hfile, -, hdirs, -⟩ := download_footprint hbroken
  have hsource : (greeting []).HasSource "agent" := .inl (by decide +kernel)
  have hgreeting : (greeting [["out"]]).Passes ⟨"agent"⟩ .empty .skipped := .inl ⟨.inl rfl, rfl⟩
  have hlocal := download_greeting agentSettings hgreeting
  exact ⟨⟨_, w', hbroken, hleft, hfile, hdirs⟩, hsource, _, _, hlocal,
    (download_footprint hlocal).2.2.2 hsource⟩

end Depot
