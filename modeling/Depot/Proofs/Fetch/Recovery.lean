import Depot.Proofs.Fetch.Faultless

/-!
# Downloads after a failed verification

A file that fails its verification stays where it is, and so does its sidecar. Even where no
request and no file operation fails, and the server tells the truth and serves content with the
right digests, the next download then sends the same tag, is told that it is current, and fails in
the same way. It goes on like this for as long as the server keeps its tag; the first download
that meets another tag brings the content and succeeds.

## Main definitions

* `Honest` : the answers of a server that tells the truth.
* `HonestAttempt` : the outcomes of an attempt with such a server.
* `Undecided` : what attempts that fail with such a server leave.
* `Stuck` : a download that has failed its verification and will fail again.
* `Repeats` : downloads of one request, one after the other.

## Main results

* `Stuck.download` : one more download of what is stuck.
* `recovers_iff_tag_changes` : when a download succeeds after a failed verification.
-/

namespace Depot

open World

variable {ε : Type} [Outside ε]

/-! ### Honest servers -/

/-- The outside tells the truth about what a URL names: a tag that is sent is current exactly if
it is the one of the moment, and otherwise the whole content of the moment comes with its tag. -/
def Honest (url : String) (tag : ε → String) (content : ε → Bytes) : Prop :=
  ∀ (asked : Asked) (sent : Option String) (outside : ε), Names url asked →
    (sent = some (tag outside) → (Outside.answer asked sent outside).1 = .ok .notModified) ∧
      (sent ≠ some (tag outside) → ∃ chunks : List Bytes, chunks.flatten = content outside ∧
        (Outside.answer asked sent outside).1 = .ok (.modified (some (tag outside)) ⟨chunks, none⟩))

/-- Content has all digests whose algorithms are known. -/
def HasDigests (content : Bytes) (checksums : Dict String) : Prop :=
  ∀ entry ∈ checksums.pairs, ∀ a, HashAlgorithm.ofName? entry.1 = some a →
    Text.eqIgnoringAsciiCase (a.hexDigest content) (Text.trim entry.2) = true

omit [Outside ε] in
theorem HasDigests.satisfies {content : Bytes} {checksums : Dict String} {w : World ε} {path : Path}
    (h : HasDigests content checksums) (hfile : w.file path.key = some content) :
    ∀ entry ∈ checksums.pairs, w.Satisfies path entry :=
  fun entry hentry a ha => ⟨content, hfile, h entry hentry a ha⟩

section Fetch

variable {url : String} {tag : ε → String} {content : ε → Bytes} {destination : Path}
  {w w' : World ε}

/-- The outcomes of an attempt that makes the request `call` to an honest server: the file is kept,
it is written, or a directory is in the way. -/
inductive HonestAttempt (tag : ε → String) (content : ε → Bytes) (destination : Path)
    (call : Call ε) (w : World ε) : Except FetchFault Bool → World ε → Prop
  | kept {w' : World ε} (htag : call.tag = some (tag call.moment)) (moves : Moves [] [call] w w') :
      HonestAttempt tag content destination call w (.ok false) w'
  | written {w' : World ε} (htag : call.tag ≠ some (tag call.moment))
      (moves : Moves [destination.key, (sidecar destination).key] [call] w w')
      (hread : w'.bytesOf destination = .ok (content call.moment)) :
      HonestAttempt tag content destination call w (.ok true) w'
  | blocked {w' : World ε} {path : Path} (hpath : path ∈ [destination, sidecar destination])
      (hdir : path.key ∈ w.dirs) (fault : IoFault)
      (moves : Moves [destination.key, (sidecar destination).key] [call] w w') :
      HonestAttempt tag content destination call w (.error (.io path fault)) w'

theorem conditionalFetch_honest (hf : Faultless ε) (honest : Honest url tag content)
    (hne : destination.key ≠ (sidecar destination).key) {asked : Asked} (hnames : Names url asked)
    {r : Except FetchFault Bool} (h : conditionalFetch destination (ask asked) w = (r, w')) :
    ∃ call : Call ε, call.tag = w.storedTag destination ∧
      HonestAttempt tag content destination call w r w' := by
  obtain ⟨sent, w₁, hload, h⟩ := bind_eq_iff.1 h
  obtain ⟨hquiet, -⟩ := EntityTag.load_cases hload
  obtain ⟨answer, w₂, hask, h⟩ := bind_eq_iff.1 h
  obtain ⟨hasked, hanswer⟩ := ask_cases hask
  have hmoves : Moves [] [⟨asked, sent, w₁.outside⟩] w w₂ := hquiet.trans hasked
  refine ⟨⟨asked, sent, w₁.outside⟩, load_faultless hf hload, ?_⟩
  obtain ⟨hcurrent, hother⟩ := honest asked sent w₁.outside hnames
  by_cases hsent : sent = some (tag w₁.outside)
  · rw [hanswer.trans (hcurrent hsent)] at h
    obtain ⟨rfl, rfl⟩ := pure_eq_iff.1 h
    exact .kept hsent hmoves
  obtain ⟨chunks, hchunks, hbody⟩ := hother hsent
  rw [hanswer.trans hbody] at h
  obtain ⟨written, w₃, hwritten, h⟩ := bind_eq_iff.1 h
  obtain ⟨hwrites, hdone⟩ := writeBody_cases hne hwritten
  rcases writeBody_faultless hf hwritten with ⟨rfl, hdir⟩ | ⟨path, hpath, hdir, fault, rfl⟩
  · obtain ⟨rfl, rfl⟩ := pure_eq_iff.1 h
    obtain ⟨-, hfile, -, -⟩ := hdone rfl
    refine .written hsent (hmoves.widen.trans hwrites) (bytesOf_eq_ok_iff.2 ⟨?_, ?_⟩)
    · rwa [hwrites.dirs_eq]
    · rw [hfile, Body.bytes, hchunks]
  · obtain ⟨u, w₄, hdiscard, h⟩ := bind_eq_iff.1 h
    obtain ⟨rfl, rfl⟩ := pure_eq_iff.1 h
    obtain ⟨hgone, -⟩ := EntityTag.discard_cases hne hdiscard
    have hall := (hmoves.widen.trans hwrites).trans hgone
    exact .blocked hpath (hmoves.dirs_eq ▸ hdir) fault (by simpa using hall)

omit [Outside ε] in
theorem HonestAttempt.moves {call : Call ε} {r : Except FetchFault Bool}
    (h : HonestAttempt tag content destination call w r w') :
    Moves [destination.key, (sidecar destination).key] [call] w w' := by
  cases h with
  | kept htag moves => exact moves.widen
  | written htag moves hread => exact moves
  | blocked hpath hdir fault moves => exact moves

/-- A directory stands in the place of a file or of its sidecar. -/
def World.Blocks (w : World ε) (destination : Path) : Prop :=
  ∃ path ∈ [destination, sidecar destination], path.key ∈ w.dirs

/-- What attempts that fail with an honest server leave of the world `w`: its directories, and all
of it if none of them is in the way. Only a directory in the way makes an attempt fail, and it stays
where it is. -/
structure Undecided (destination : Path) (w v : World ε) : Prop where
  dirs : v.dirs = w.dirs
  blocks_or_moves : w.Blocks destination ∨ Moves [] [] w v

omit [Outside ε] in
theorem Undecided.withOutside {v : World ε} (h : Undecided destination w v) (outside : ε) :
    Undecided destination w (v.withOutside outside) :=
  ⟨h.dirs, h.blocks_or_moves.imp_right fun moves => moves.trans (.withOutside v outside)⟩

omit [Outside ε] in
theorem HonestAttempt.undecided {v v' : World ε} {call : Call ε} {fault : FetchFault}
    (h : HonestAttempt tag content destination call v (.error fault) v')
    (hv : Undecided destination w v) : Undecided destination w v' := by
  refine ⟨h.moves.dirs_eq.trans hv.dirs, .inl ?_⟩
  cases h with
  | @blocked _ path hpath hdir fault moves => exact ⟨path, hpath, hv.dirs ▸ hdir⟩

/-- **A fetch from an honest server is decided by its first attempt,** unless there is no schedule
or a directory is in the way. -/
theorem fetchRemote_honest (hf : Faultless ε) (honest : Honest url tag content)
    (hne : destination.key ≠ (sidecar destination).key) {settings : FetchSettings}
    {r : Except FetchFault Bool}
    (h : (fetchRemote settings url destination : StateM (World ε) _) w = (r, w')) :
    (∃ fault, Schedule.make? settings.initialInterval settings.maxRetries = .error fault ∧
      r = .error (.schedule fault)) ∨
    ∃ v v' call, Undecided destination w v ∧ call.tag = v.storedTag destination ∧
      HonestAttempt tag content destination call v r v' ∧ Moves [] [] v' w' := by
  have hstep : ∀ {asked : Asked} {v v' : World ε} {fault : FetchFault}, Names url asked →
      Undecided destination w v → conditionalFetch destination (ask asked) v = (.error fault, v') →
      Undecided destination w v' := by
    intro asked v v' fault hnames hv hattempt
    obtain ⟨call, -, houtcome⟩ := conditionalFetch_honest hf honest hne hnames hattempt
    exact houtcome.undecided hv
  rcases fetchRemote_cases (I := Undecided destination w) (fun outside hv => hv.withOutside outside)
      hstep ⟨rfl, .inr (Moves.refl w)⟩ h with
    ⟨fault, hschedule, hr, -⟩ | ⟨asked, v, v', outside, hnames, hv, hattempt, rfl⟩
  · exact .inl ⟨fault, hschedule, hr⟩
  · obtain ⟨call, htag, houtcome⟩ := conditionalFetch_honest hf honest hne hnames hattempt
    exact .inr ⟨v, v', call, hv, htag, houtcome, .withOutside v' outside⟩

end Fetch

/-! ### Downloads that are stuck -/

section Downloads

variable {settings : FetchSettings} {request : FetchRequest} {tag : ε → String}
  {content : ε → Bytes} {fault : FetchFault} {t : String} {w w' v : World ε}

/-- A download has failed with `fault` after the answer that the tag `t` is current: it will get
as far as to its request again, with the same tag and the same content. -/
structure Stuck (settings : FetchSettings) (request : FetchRequest) (fault : FetchFault)
    (t : String) (w : World ε) : Prop where
  scheduled : ∃ s, Schedule.make? settings.initialInterval settings.maxRetries = .ok s
  creatable : (destinationDir settings request).key = [] ∨
    ∀ key ∈ PathKey.ancestors (destinationDir settings request).key ++
      [(destinationDir settings request).key], w.file key = none
  remote : ¬ w.HasSource request.source
  unblocked : ¬ w.Blocks (destinationFile settings request)
  storedTag_eq : w.storedTag (destinationFile settings request) = some t
  fails : ∀ v v' updated r, v.bytesOf (destinationFile settings request) =
      w.bytesOf (destinationFile settings request) →
    (verified request.checksums (destinationFile settings request) updated : StateM (World ε) _) v =
      (r, v') → r = .error fault

/-- What is stuck stays so while no file changes and directories appear that are no deeper than that
of the download. -/
theorem Stuck.of_dirs_added (h : Stuck settings request fault t w)
    (hfile : ∀ key, w'.file key = w.file key)
    (hdirs : ∀ key, (destinationDir settings request).key.length < key.length →
      (key ∈ w'.dirs ↔ key ∈ w.dirs)) : Stuck settings request fault t w' where
  scheduled := h.scheduled
  creatable := by simpa only [hfile] using h.creatable
  remote := by simpa only [HasSource, hfile] using h.remote
  unblocked := by
    rintro ⟨path, hpath, hdir⟩
    have hlong := length_lt_of_mem_files settings request hpath
    exact h.unblocked ⟨path, hpath, (hdirs _ hlong).1 hdir⟩
  storedTag_eq := (storedTag_congr fun path hpath =>
    ⟨hfile _, hdirs _ (length_lt_of_mem_files settings request hpath)⟩).trans h.storedTag_eq
  fails v v' updated r hread :=
    h.fails v v' updated r (hread.trans (bytesOf_congr (hfile _)
      (hdirs _ (length_lt_of_mem_files settings request List.mem_cons_self))))

theorem Stuck.of_moves {made : List (Call ε)} (h : Stuck settings request fault t w)
    (moves : Moves [] made w w') : Stuck settings request fault t w' :=
  h.of_dirs_added moves.file_eq' fun _ _ => by rw [moves.dirs_eq]

theorem exists_schedule_of_fetchRemote {url : String} {destination : Path} {updated : Bool}
    (h : (fetchRemote settings url destination : StateM (World ε) _) w = (.ok updated, w')) :
    ∃ s, Schedule.make? settings.initialInterval settings.maxRetries = .ok s := by
  unfold fetchRemote at h
  cases hs : Schedule.make? settings.initialInterval settings.maxRetries with
  | ok s => exact ⟨s, rfl⟩
  | error fault =>
    rw [hs] at h
    exact nomatch (pure_eq_iff.1 h).1

/-- A download that fetches ends in the verification of its file. -/
theorem download_of_entersFetch {u u' : World ε} {updated : Bool}
    {r : Except FetchFault FetchResult} (hfetch : EntersFetch settings request w u)
    (hdone : (fetchRemote settings request.source (destinationFile settings request) :
      StateM (World ε) _) u = (.ok updated, u'))
    (hverified : (verified request.checksums (destinationFile settings request) updated :
      StateM (World ε) _) u' = (r, w')) :
    (download settings request : StateM (World ε) _) w = (r, w') := by
  obtain ⟨v, hdir, hlocal⟩ := hfetch
  exact bind_eq_iff.2 ⟨_, v, hdir, bind_eq_iff.2 ⟨_, u, hlocal,
    bind_eq_iff.2 ⟨_, u', hdone, hverified⟩⟩⟩

/-- A download that fetches in spite of no directory in the way makes one request. Either its
answer is that the tag is current, and no file changes, or the file is written and passes its
verification. -/
theorem fetched_honest (hf : Faultless ε) (honest : Honest request.source tag content)
    (hknown : knownAlgorithms request.checksums.pairs ≠ [])
    (hgood : ∀ outside, HasDigests (content outside) request.checksums)
    {u u' : World ε} {updated : Bool} {r : Except FetchFault FetchResult}
    (hfree : ¬ w.Blocks (destinationFile settings request))
    (hfetch : EntersFetch settings request w u)
    (hdone : (fetchRemote settings request.source (destinationFile settings request) :
      StateM (World ε) _) u = (.ok updated, u'))
    (hverified : (verified request.checksums (destinationFile settings request) updated :
      StateM (World ε) _) u' = (r, w')) :
    ∃ call : Call ε, w'.calls = w.calls ++ [call] ∧
      ((w.storedTag (destinationFile settings request) = some (tag call.moment) ∧
          (∀ key, w'.file key = w.file key) ∧
          ∀ key, (destinationDir settings request).key.length < key.length →
            (key ∈ w'.dirs ↔ key ∈ w.dirs)) ∨
        (w.storedTag (destinationFile settings request) ≠ some (tag call.moment) ∧
          ∃ result, r = .ok result)) := by
  obtain ⟨hfile, hcalls, hdirs⟩ := hfetch.cases
  have hsame : u.storedTag (destinationFile settings request) =
      w.storedTag (destinationFile settings request) :=
    storedTag_congr fun path hpath =>
      ⟨hfile _, hdirs _ (length_lt_of_mem_files settings request hpath)⟩
  have hfree' : ¬ u.Blocks (destinationFile settings request) := fun ⟨path, hpath, hdir⟩ =>
    hfree ⟨path, hpath, (hdirs _ (length_lt_of_mem_files settings request hpath)).1 hdir⟩
  rcases fetchRemote_honest hf honest (destinationFile_ne_sidecar settings request) hdone with
    ⟨fault, -, hr⟩ | ⟨v, v', call, hv, htag, hattempt, hlast⟩
  · cases hr
  have hstart := hv.blocks_or_moves.resolve_left hfree'
  have hquiet := hlast.trans (verified_cases hverified).1
  rw [hstart.storedTag_eq, hsame] at htag
  rw [← htag, ← hcalls]
  refine ⟨call, ((hstart.widen.trans hattempt.moves).trans hquiet.widen).calls_eq, ?_⟩
  cases hattempt with
  | kept hcurrent moves =>
    have hall : Moves [] [call] u w' := by simpa using (hstart.trans moves).trans hquiet
    refine .inl ⟨hcurrent, fun key => (hall.file_eq' key).trans (hfile key), ?_⟩
    rwa [hall.dirs_eq]
  | written hother moves hread =>
    have hread' := (hlast.bytesOf_eq _).trans hread
    exact .inr ⟨hother, verified_of_satisfies hf hread' hknown
      ((hgood call.moment).satisfies (bytesOf_eq_ok_iff.1 hread').2) hverified⟩

/-- **One more download of what is stuck** fails again if the tag is still current, and else
succeeds. -/
theorem Stuck.download (hf : Faultless ε) (honest : Honest request.source tag content)
    (hknown : knownAlgorithms request.checksums.pairs ≠ [])
    (hgood : ∀ outside, HasDigests (content outside) request.checksums)
    (hw : Stuck settings request fault t w) {r : Except FetchFault FetchResult}
    (h : (download settings request : StateM (World ε) _) w = (r, w')) :
    ∃ call : Call ε, w'.calls = w.calls ++ [call] ∧
      ((tag call.moment = t ∧ r = .error fault ∧ (∀ key, w'.file key = w.file key) ∧
          Stuck settings request fault t w') ∨
        (tag call.moment ≠ t ∧ ∃ result, r = .ok result)) := by
  cases download_cases h with
  | noDirectory blocked hdir => exact nomatch (createDirs_faultless hf hdir).2 hw.creatable
  | atHand path hdir hlocal hverified => exact absurd (hasSource_of_atHand hdir hlocal) hw.remote
  | unfetched cause hfetch hfailed =>
    obtain ⟨-, -, hdirs⟩ := hfetch.cases
    rcases fetchRemote_honest hf honest (destinationFile_ne_sidecar settings request) hfailed with
      ⟨unscheduled, hschedule, -⟩ | ⟨v, v', call, hv, -, hattempt, -⟩
    · obtain ⟨s, hs⟩ := hw.scheduled
      exact nomatch hs.symm.trans hschedule
    · cases hattempt with
      | @blocked _ path hpath hdir cause moves =>
        have hlong := length_lt_of_mem_files settings request hpath
        exact absurd ⟨path, hpath, (hdirs _ hlong).1 (hv.dirs ▸ hdir)⟩ hw.unblocked
  | fetched updated hfetch hdone hverified =>
    obtain ⟨call, hcalls, hlast⟩ :=
      fetched_honest hf honest hknown hgood hw.unblocked hfetch hdone hverified
    rw [hw.storedTag_eq, Option.some_inj, ne_eq, Option.some_inj] at hlast
    refine ⟨call, hcalls, ?_⟩
    rcases hlast with ⟨htag, hfile, hdirs⟩ | ⟨htag, hok⟩
    · have hread := bytesOf_congr (hfile (destinationFile settings request).key)
        (hdirs _ (length_lt_of_mem_files settings request List.mem_cons_self))
      have hread' := ((verified_cases hverified).1.bytesOf_eq _).symm.trans hread
      exact .inl ⟨htag.symm, hw.fails _ _ _ _ hread' hverified, hfile, hw.of_dirs_added hfile hdirs⟩
    · exact .inr ⟨fun h => htag h.symm, hok⟩

/-- No directory is in the way of a download that fails its verification. -/
theorem not_blocks_of_verified (hf : Faultless ε) (honest : Honest request.source tag content)
    (hknown : knownAlgorithms request.checksums.pairs ≠ [])
    (hgood : ∀ outside, HasDigests (content outside) request.checksums)
    {u u' : World ε} {updated : Bool} {path : Path} {cause : ChecksumFault}
    (hcause : ∀ p f, cause ≠ .io p f) (hfetch : EntersFetch settings request w u)
    (hdone : (fetchRemote settings request.source (destinationFile settings request) :
      StateM (World ε) _) u = (.ok updated, u'))
    (hverified : (verified request.checksums (destinationFile settings request) updated :
      StateM (World ε) _) u' = (.error (.verification path cause), w')) :
    ¬ w.Blocks (destinationFile settings request) := by
  obtain ⟨-, -, hdirs⟩ := hfetch.cases
  obtain ⟨bytes, hbytes⟩ := readable_of_verified hf hknown hcause hverified
  rcases fetchRemote_honest hf honest (destinationFile_ne_sidecar settings request) hdone with
    ⟨fault, -, hr⟩ | ⟨v, v', call, hv, htag, hattempt, hlast⟩
  · cases hr
  cases hattempt with
  | kept hcurrent moves =>
    rintro ⟨blocking, hpath, hdir⟩
    have hlong := length_lt_of_mem_files settings request hpath
    rw [← hdirs _ hlong, ← hv.dirs] at hdir
    simp only [List.mem_cons, List.not_mem_nil, or_false] at hpath
    rcases hpath with hpath | hpath <;> rw [hpath] at hdir
    · have hnot := (bytesOf_eq_ok_iff.1 hbytes).1
      rw [hlast.dirs_eq, moves.dirs_eq] at hnot
      exact hnot hdir
    · exact notMem_dirs_of_storedTag (htag.symm.trans hcurrent) hdir
  | written hother moves hread =>
    have hread' := (hlast.bytesOf_eq _).trans hread
    obtain ⟨result, hok⟩ := verified_of_satisfies hf hread' hknown
      ((hgood call.moment).satisfies (bytesOf_eq_ok_iff.1 hread').2) hverified
    cases hok

/-- **A download that has failed its verification is stuck,** and has changed no file. -/
theorem stuck_of_download (hf : Faultless ε) (honest : Honest request.source tag content)
    (hknown : knownAlgorithms request.checksums.pairs ≠ [])
    (hgood : ∀ outside, HasDigests (content outside) request.checksums)
    (hremote : ¬ w.HasSource request.source) {path : Path} {cause : ChecksumFault}
    (hcause : ∀ p f, cause ≠ .io p f)
    (h : (download settings request : StateM (World ε) _) w =
      (.error (.verification path cause), w')) :
    ∃ call : Call ε, w'.calls = w.calls ++ [call] ∧ (∀ key, w'.file key = w.file key) ∧
      Stuck settings request (.verification path cause) (tag call.moment) w' := by
  cases download_cases h with
  | atHand path' hdir hlocal hverified => exact absurd (hasSource_of_atHand hdir hlocal) hremote
  | unfetched _ hfetch hfailed =>
    rcases fetchRemote_honest hf honest (destinationFile_ne_sidecar settings request) hfailed with
      ⟨_, -, hr⟩ | ⟨v, v', call, -, -, hattempt, -⟩
    · cases hr
    · cases hattempt
  | @fetched _ u' _ _ updated hfetch hdone hverified =>
    have hfree : ¬ w.Blocks (destinationFile settings request) :=
      not_blocks_of_verified hf honest hknown hgood hcause hfetch hdone hverified
    obtain ⟨call, hcalls, hlast⟩ :=
      fetched_honest hf honest hknown hgood hfree hfetch hdone hverified
    rcases hlast with ⟨htag, hfile, hdirs⟩ | ⟨-, result, hok⟩
    · obtain ⟨v, hcreated, -⟩ := hfetch
      have hread : u'.bytesOf (destinationFile settings request) =
          w.bytesOf (destinationFile settings request) :=
        ((verified_cases hverified).1.bytesOf_eq _).symm.trans (bytesOf_congr (hfile _)
          (hdirs _ (length_lt_of_mem_files settings request List.mem_cons_self)))
      have hstuck : Stuck settings request (.verification path cause) (tag call.moment) w :=
        { scheduled := exists_schedule_of_fetchRemote hdone
          creatable := (createDirs_faultless hf hcreated).1 rfl
          remote := hremote
          unblocked := hfree
          storedTag_eq := htag
          fails := fun _ _ _ _ hsame hagain =>
            verified_congr hf (hsame.trans hread.symm) hverified hagain }
      exact ⟨call, hcalls, hfile, hstuck.of_dirs_added hfile hdirs⟩
    · cases hok

/-! ### Series of downloads -/

/-- The outcomes of downloads of one request, one after the other, and the world after them. Before,
between and after them nothing changes but the outside. -/
inductive Repeats (settings : FetchSettings) (request : FetchRequest) (w₀ : World ε) :
    List (Except FetchFault FetchResult) → World ε → Prop
  | start {w : World ε} (moves : Moves [] [] w₀ w) : Repeats settings request w₀ [] w
  | again {w w' v : World ε} {results : List (Except FetchFault FetchResult)}
      {r : Except FetchFault FetchResult} (before : Repeats settings request w₀ results w)
      (h : (Depot.download settings request : StateM (World ε) _) w = (r, w'))
      (moves : Moves [] [] w' v) : Repeats settings request w₀ (results ++ [r]) v

/-- **A series of downloads in which none succeeds stays stuck,** and changes no file. -/
theorem Stuck.repeats (hf : Faultless ε) (honest : Honest request.source tag content)
    (hknown : knownAlgorithms request.checksums.pairs ≠ [])
    (hgood : ∀ outside, HasDigests (content outside) request.checksums)
    {w₀ : World ε} (hw : Stuck settings request fault t w₀)
    {results : List (Except FetchFault FetchResult)} (h : Repeats settings request w₀ results w)
    (hfailed : ∀ r ∈ results, ∃ fault, r = .error fault) :
    Stuck settings request fault t w ∧ ∀ key, w.file key = w₀.file key := by
  induction h with
  | start moves => exact ⟨hw.of_moves moves, moves.file_eq'⟩
  | @again w w' v results r before h moves ih =>
    obtain ⟨hstuck, hfile⟩ := ih fun r hr => hfailed r (List.mem_append_left _ hr)
    obtain ⟨call, -, hlast⟩ := hstuck.download hf honest hknown hgood h
    rcases hlast with ⟨-, -, hkept, hstuck'⟩ | ⟨-, result, hok⟩
    · exact ⟨hstuck'.of_moves moves, fun key =>
        (moves.file_eq' key).trans ((hkept key).trans (hfile key))⟩
    · obtain ⟨_, herror⟩ := hfailed r (by simp)
      exact nomatch hok.symm.trans herror

/-- **After a failed verification, downloads fail for as long as the server keeps its tag,** in the
same way and without a change to any file; the first one whose request meets another tag succeeds.
The download that has failed first has made one request and has changed no file either.
This is so although the server tells the truth and its content has the digests, nothing else fails,
and no source on this machine is meant. -/
theorem recovers_iff_tag_changes (hf : Faultless ε) (honest : Honest request.source tag content)
    (hknown : knownAlgorithms request.checksums.pairs ≠ [])
    (hgood : ∀ outside, HasDigests (content outside) request.checksums)
    (hremote : ¬ w.HasSource request.source) {path : Path} {cause : ChecksumFault}
    (hcause : ∀ p f, cause ≠ .io p f)
    (hfirst : (download settings request : StateM (World ε) _) w =
      (.error (.verification path cause), w'))
    {results : List (Except FetchFault FetchResult)}
    (hrepeats : Repeats settings request w' results v)
    (hfailed : ∀ r ∈ results, ∃ fault, r = .error fault) {v' : World ε}
    {r : Except FetchFault FetchResult}
    (hnext : (download settings request : StateM (World ε) _) v = (r, v')) :
    ∃ first next : Call ε, w'.calls = w.calls ++ [first] ∧ (∀ key, w'.file key = w.file key) ∧
      v'.calls = v.calls ++ [next] ∧
      (tag next.moment = tag first.moment →
        r = .error (.verification path cause) ∧ ∀ key, v'.file key = w.file key) ∧
      (tag next.moment ≠ tag first.moment → ∃ result, r = .ok result) := by
  obtain ⟨first, hcalls, hfile, hstuck⟩ :=
    stuck_of_download hf honest hknown hgood hremote hcause hfirst
  obtain ⟨hstuck', hfile'⟩ := hstuck.repeats hf honest hknown hgood hrepeats hfailed
  obtain ⟨next, hcalls', hlast⟩ := hstuck'.download hf honest hknown hgood hnext
  refine ⟨first, next, hcalls, hfile, hcalls', ?_⟩
  rcases hlast with ⟨htag, hr, hkept, -⟩ | ⟨htag, hok⟩
  · exact ⟨fun _ => ⟨hr, fun key => (hkept key).trans ((hfile' key).trans (hfile key))⟩,
      fun hne => absurd htag hne⟩
  · exact ⟨fun heq => absurd heq htag, fun _ => hok⟩

end Downloads

/-! ### Releases of one content -/

/-- A server that goes on from tag to tag and always serves the same byte. -/
structure Release where
  tag : String
  deriving DecidableEq

namespace Release

instance : Outside Release where
  answer _ sent now :=
    (.ok (if sent = some now.tag then .notModified else .modified (some now.tag) ⟨[[1]], none⟩),
      now)
  draw now := (0, now)
  wait _ now := now
  rules _ now := ([], now)

theorem faultless : Faultless Release :=
  fun _ _ => rfl

theorem honest (url : String) : Honest url Release.tag fun _ => [1] := by
  intro asked sent now _
  refine ⟨fun hsent => ?_, fun hsent => ⟨[[1]], rfl, ?_⟩⟩
  · simp only [Outside.answer, if_pos hsent]
  · simp only [Outside.answer, if_neg hsent]

/-- The digest of the content. -/
def digests : Dict String :=
  ⟨[("md5", "55a54008ad1ba589aa210d2629c1df41")], by decide⟩

theorem knownAlgorithms_digests : knownAlgorithms digests.pairs = [.md5] := by
  decide +kernel

theorem hasDigests : HasDigests [1] digests := by
  intro entry hentry a ha
  have hmd5 : HashAlgorithm.ofName? "md5" = some .md5 := by decide +kernel
  simp only [digests, List.mem_cons, List.not_mem_nil, or_false] at hentry
  subst hentry
  cases hmd5.symm.trans ha
  rw [Text.eqIgnoringAsciiCase_iff]
  decide +kernel

/-- A world in which the file of a download is damaged, and its sidecar holds the tag `v1`. So many
requests have been made with this tag while it was current. -/
def damaged (now : Release) (made : Nat) : World Release :=
  ⟨⟨[(["out", "0608c4054662dd902e1314f7e450e3eaa81c1143.etag"], [118, 49]),
      (["out", "0608c4054662dd902e1314f7e450e3eaa81c1143"], [9])], [["out"]], []⟩, now,
    List.replicate made ⟨.url "agent", some "v1", ⟨"v1"⟩⟩⟩

/-- The fault of verifying the damaged file. -/
def mismatch : ChecksumFault :=
  .mismatch "md5" "55a54008ad1ba589aa210d2629c1df41" "5e732a1878be2342dbfeff5fe3ca5aa3"

theorem entersFetch_damaged (now : Release) (made : Nat) :
    EntersFetch agentSettings (agentRequest digests) (damaged now made) (damaged now made) := by
  have hnone : (localSource? "agent" : StateM (World Release) _) (damaged now made) =
      (none, damaged now made) := by
    refine bind_eq_iff.2 ⟨false, damaged now made, rfl, ?_⟩
    have hurl : fileOfUrl? "agent" = none := by decide +kernel
    simp only [hurl]
    rfl
  exact ⟨damaged now made, rfl, hnone⟩

/-- The file of the download. -/
def file : Path :=
  ⟨"out/0608c4054662dd902e1314f7e450e3eaa81c1143"⟩

theorem fetch_damaged : ∀ made < 2,
    (fetchRemote agentSettings "agent" file : StateM (World Release) _) (damaged ⟨"v1"⟩ made) =
      (.ok false, damaged ⟨"v1"⟩ (made + 1)) := by
  intro made hmade
  refine Prod.ext (eq_ok_of_toOption ?_) ?_
  all_goals
    revert made
    decide +kernel

theorem verified_damaged : ∀ made < 3,
    (verified digests file false : StateM (World Release) _) (damaged ⟨"v1"⟩ made) =
      (.error (.verification file mismatch), damaged ⟨"v1"⟩ made) := by
  intro made hmade
  refine Prod.ext (eq_error_of_swap ?_) ?_
  all_goals
    revert made
    decide +kernel

theorem download_of_fetch {now : Release} {made : Nat} {updated : Bool} {u' w' : World Release}
    {r : Except FetchFault FetchResult}
    (hdone : (fetchRemote agentSettings "agent" file : StateM (World Release) _)
      (damaged now made) = (.ok updated, u'))
    (hverified : (verified digests file updated : StateM (World Release) _) u' = (r, w')) :
    (download agentSettings (agentRequest digests) : StateM (World Release) _) (damaged now made) =
      (r, w') := by
  have hfile : file = destinationFile agentSettings (agentRequest digests) :=
    (destinationFile_agent digests).symm
  rw [hfile] at hdone hverified
  exact download_of_entersFetch (entersFetch_damaged now made) hdone hverified

theorem download_damaged {made : Nat} (hmade : made < 2) :
    (download agentSettings (agentRequest digests) : StateM (World Release) _)
        (damaged ⟨"v1"⟩ made) =
      (.error (.verification file mismatch), damaged ⟨"v1"⟩ (made + 1)) :=
  download_of_fetch (fetch_damaged made hmade) (verified_damaged (made + 1) (by omega))

/-- **The damaged file is not replaced while the tag is current:** one download fails its
verification, and so does the next, although the server tells the truth, its content has the
digest, and nothing else fails. -/
theorem not_recovers_damaged :
    (Faultless Release ∧ (Honest "agent" Release.tag fun _ => [1]) ∧ HasDigests [1] digests ∧
        knownAlgorithms digests.pairs = [.md5] ∧ ¬ (damaged ⟨"v1"⟩ 0).HasSource "agent") ∧
      (download agentSettings (agentRequest digests) : StateM (World Release) _)
          (damaged ⟨"v1"⟩ 0) =
        (.error (.verification file mismatch), damaged ⟨"v1"⟩ 1) ∧
      (download agentSettings (agentRequest digests) : StateM (World Release) _)
          (damaged ⟨"v1"⟩ 1) =
        (.error (.verification file mismatch), damaged ⟨"v1"⟩ 2) :=
  ⟨⟨faultless, honest "agent", hasDigests, knownAlgorithms_digests,
      not_hasSource_agent (by decide)⟩,
    download_damaged (by decide), download_damaged (by decide)⟩

/-- The world after a fetch that finds a new tag in the third place. -/
def replaced : World Release :=
  ⟨⟨[(["out", "0608c4054662dd902e1314f7e450e3eaa81c1143.etag"], [118, 50]),
      (["out", "0608c4054662dd902e1314f7e450e3eaa81c1143"], [1])], [["out"]], []⟩, ⟨"v2"⟩,
    (damaged ⟨"v1"⟩ 2).calls ++ [⟨.url "agent", some "v1", ⟨"v2"⟩⟩]⟩

theorem fetch_replaced :
    (fetchRemote agentSettings "agent" file : StateM (World Release) _) (damaged ⟨"v2"⟩ 2) =
      (.ok true, replaced) := by
  refine Prod.ext (eq_ok_of_toOption ?_) ?_
  all_goals decide +kernel

/-- The tag changes after two downloads of the damaged file, and the third one succeeds. -/
theorem recovers_iff_tag_changes_damaged :
    ∃ result w', (download agentSettings (agentRequest digests) : StateM (World Release) _)
      (damaged ⟨"v2"⟩ 2) = (.ok result, w') := by
  have hremote : ¬ (damaged ⟨"v1"⟩ 0).HasSource "agent" := not_hasSource_agent (by decide)
  have hrepeats : Repeats agentSettings (agentRequest digests) (damaged ⟨"v1"⟩ 1)
      [.error (.verification file mismatch)] (damaged ⟨"v2"⟩ 2) :=
    .again (.start (Moves.refl _)) (download_damaged (by decide))
      (.withOutside (damaged ⟨"v1"⟩ 2) ⟨"v2"⟩)
  have hknown : knownAlgorithms (agentRequest digests).checksums.pairs ≠ [] :=
    knownAlgorithms_digests ▸ List.cons_ne_nil _ _
  have hcause : ∀ p f, mismatch ≠ .io p f := fun _ _ => ChecksumFault.noConfusion
  rcases hverified : (verified digests file true : StateM (World Release) _) replaced with ⟨r, w'⟩
  have hdownload : (download agentSettings (agentRequest digests) : StateM (World Release) _)
      (damaged ⟨"v2"⟩ 2) = (r, w') := download_of_fetch fetch_replaced hverified
  obtain ⟨first, next, hfirst, -, hnext, -, hok⟩ := recovers_iff_tag_changes faultless
    (honest "agent") hknown (fun _ => hasDigests) hremote hcause (download_damaged (by decide))
    hrepeats (fun r hr => ⟨_, List.mem_singleton.1 hr⟩) hdownload
  have hv1 : first = ⟨.url "agent", some "v1", ⟨"v1"⟩⟩ := (List.singleton_inj.1 hfirst).symm
  have hv2 : next = ⟨.url "agent", some "v1", ⟨"v2"⟩⟩ := by
    rw [(verified_cases hverified).1.calls_eq, List.append_nil] at hnext
    exact (List.singleton_inj.1 (List.append_cancel_left hnext)).symm
  obtain ⟨result, rfl⟩ := hok (by rw [hv1, hv2]; decide)
  exact ⟨result, w', hdownload⟩

end Release

end Depot
