import Depot.Proofs.Fetch.Integrity

/-!
# Coherence of downloaded files with their server

A server holds one edition of a resource after the other. Whoever asks it may be refused for any
reason, may be sent the current edition, whole or broken off, or may be told that the tag that he
sent is current, if it is. Meanwhile file operations may fail at will, removals apart.

A file and its sidecar are *coherent* when the tag in the sidecar is that of an edition whose content
the file holds. Every attempt keeps them so, wherever it fails, and therefore every session, every
download, and every series of downloads does. The answer that a tag is current is then never given
to a file that holds anything else.

## Main definitions

* `Edition.Admits`, `Serves` : the answers of a server.
* `Coherent` : the file and its sidecar belong together.
* `Downloads` : the series of downloads of one URL to one directory.
* `FetchOutcome` : what a fetch leaves behind.

## Main results

* `Attempt.coherent`, `fetchRemote_coherent` : one attempt, and a fetch.
* `Downloads.coherent` : a series of downloads.
* `downloads_fresh` : every fetch of a series brings the edition that was current at its last request.
-/

namespace Depot

open World

variable {ε : Type} [Outside ε]

/-! ### Servers -/

/-- An edition of a resource: its content, and a tag that is not blank and has no blanks about it. -/
structure Edition where
  tag : String
  content : Bytes
  tag_ne : tag ≠ ""
  trim_tag : Text.trim tag = tag

/-- The answers to a request, with the tag `sent` or without one, while an edition is current. -/
inductive Edition.Admits (edition : Edition) (sent : Option String) :
    Except FetchFault Reply → Prop
  | refused (fault : FetchFault) : Admits edition sent (.error fault)
  /-- The whole content, in any chunks. -/
  | whole (tag : Option String) (chunks : List Bytes) (htag : ∀ t, tag = some t → t = edition.tag)
      (hbytes : chunks.flatten = edition.content) :
      Admits edition sent (.ok (.modified tag ⟨chunks, none⟩))
  /-- A body that breaks off. -/
  | broken (tag : Option String) (chunks : List Bytes) (fault : FetchFault) :
      Admits edition sent (.ok (.modified tag ⟨chunks, some fault⟩))
  | notModified (hsent : sent = some edition.tag) : Admits edition sent (.ok .notModified)

/-- The outside serves what a URL names, in the edition that is current at each of its moments. Two
editions with different content have different tags. -/
structure Serves (url : String) (current : ε → Edition) : Prop where
  admits : ∀ (asked : Asked) (sent : Option String) (outside : ε), Names url asked →
    (current outside).Admits sent (Outside.answer asked sent outside).1
  tag_ne : ∀ outside outside' : ε, (current outside).content ≠ (current outside').content →
    (current outside).tag ≠ (current outside').tag

theorem Serves.content_eq {url : String} {current : ε → Edition} (server : Serves url current)
    {outside outside' : ε} (h : (current outside).tag = (current outside').tag) :
    (current outside).content = (current outside').content :=
  Decidable.byContradiction fun hne => server.tag_ne outside outside' hne h

/-! ### Files and their sidecars -/

omit [Outside ε] in
/-- The file and its sidecar belong together: a tag that is there is that of some edition, and the
file has the content of this edition. -/
structure Coherent (current : ε → Edition) (destination : Path) (w : World ε) : Prop where
  noDir : destination.key ∉ w.dirs
  noDir_sidecar : (sidecar destination).key ∉ w.dirs
  content_of_tag : ∀ bytes, w.file (sidecar destination).key = some bytes →
    ∃ outside, bytes = Bytes.ofText (current outside).tag ∧
      w.file destination.key = some (current outside).content

section Coherence

variable {current : ε → Edition} {destination : Path} {w w' : World ε}

omit [Outside ε] in
theorem Coherent.of_lacks (h : w.Lacks destination) (h' : w.Lacks (sidecar destination)) :
    Coherent current destination w :=
  ⟨h.2, h'.2, fun _ hbytes => nomatch h'.1.symm.trans hbytes⟩

omit [Outside ε] in
/-- Coherence depends on the two files alone, as long as no directory comes to stand in their
place. -/
theorem Coherent.of_file_eq (h : Coherent current destination w)
    (hfile : ∀ path ∈ [destination, sidecar destination], w'.file path.key = w.file path.key ∧
      (path.key ∈ w'.dirs → path.key ∈ w.dirs)) : Coherent current destination w' := by
  obtain ⟨hcontent, hdir⟩ := hfile destination (by simp)
  obtain ⟨htag, hdir'⟩ := hfile (sidecar destination) (by simp)
  refine ⟨mt hdir h.noDir, mt hdir' h.noDir_sidecar, fun bytes hbytes => ?_⟩
  rw [hcontent]
  exact h.content_of_tag bytes (htag ▸ hbytes)

omit [Outside ε] in
theorem Coherent.of_moves {made : List (Call ε)}
    (h : Coherent current destination w) (moves : Moves [] made w w') :
    Coherent current destination w' :=
  h.of_file_eq fun _ _ => ⟨moves.file_eq' _, fun hdir => moves.dirs_eq ▸ hdir⟩

omit [Outside ε] in
theorem Coherent.withOutside (h : Coherent current destination w) (outside : ε) :
    Coherent current destination (w.withOutside outside) :=
  ⟨h.noDir, h.noDir_sidecar, h.content_of_tag⟩

/-- The file has the content of the edition that was current at the last request that was made. -/
def Fresh (current : ε → Edition) (destination : Path) (w w' : World ε) : Prop :=
  ∃ made call, w'.calls = w.calls ++ made ++ [call] ∧
    w'.file destination.key = some (current call.moment).content

/-- What a fetch leaves behind: the edition that was current at its last request, or neither the file
nor a sidecar, or everything as it was if it made no request. -/
inductive FetchOutcome (current : ε → Edition) (destination : Path) (w : World ε) :
    Except FetchFault Bool → World ε → Prop
  | fetched {w' : World ε} (updated : Bool) (hfresh : Fresh current destination w w') :
      FetchOutcome current destination w (.ok updated) w'
  | failed {w' : World ε} (fault : FetchFault) (hfile : w'.Lacks destination)
      (hsidecar : w'.Lacks (sidecar destination)) :
      FetchOutcome current destination w (.error fault) w'
  | unscheduled {w' : World ε} (fault : ScheduleFault) (hfile : ∀ key, w'.file key = w.file key)
      (hcalls : w'.calls = w.calls) :
      FetchOutcome current destination w (.error (.schedule fault)) w'

omit [Outside ε] in
theorem FetchOutcome.withOutside {r : Except FetchFault Bool}
    (h : FetchOutcome current destination w r w') (outside : ε) :
    FetchOutcome current destination w r (w'.withOutside outside) := by
  cases h with
  | fetched updated hfresh => exact .fetched updated hfresh
  | failed fault hfile hsidecar => exact .failed fault hfile hsidecar
  | unscheduled fault hfile hcalls => exact .unscheduled fault hfile hcalls

/-! ### One attempt -/

variable {url : String}

omit [Outside ε] in
/-- A tag that is sent is that of an edition whose content the file has. -/
theorem Coherent.content_of_sent (h : Coherent current destination w) {call : Call ε} {tag : String}
    (hsends : call.SendsTagOf destination w) (htag : call.tag = some tag) :
    ∃ outside, tag = (current outside).tag ∧
      w.file destination.key = some (current outside).content := by
  obtain ⟨-, bytes, text, hbytes, htext, rfl⟩ := hsends tag htag
  obtain ⟨outside, rfl, hcontent⟩ := h.content_of_tag bytes hbytes
  rw [Bytes.toText?_ofText] at htext
  cases htext
  exact ⟨outside, (current outside).trim_tag, hcontent⟩

/-- **An attempt keeps file and sidecar coherent.** The file that it ends with has the content of the
edition that is current at its request; when it fails, neither file is left. -/
theorem Attempt.coherent (server : Serves url current) (hspared : SparesRemoval ε) {call : Call ε}
    {r : Except FetchFault Bool} (hnames : Names url call.asked)
    (hsends : call.SendsTagOf destination w) (hw : Coherent current destination w)
    (h : Attempt destination call w r w') :
    Coherent current destination w' ∧
      (∀ updated, r = .ok updated →
        w'.file destination.key = some (current call.moment).content) ∧
      ∀ fault, r = .error fault → w'.Lacks destination ∧ w'.Lacks (sidecar destination) := by
  have hadmits : (current call.moment).Admits call.tag call.answer :=
    server.admits call.asked call.tag call.moment hnames
  cases h with
  | kept hanswer moves =>
    rw [hanswer] at hadmits
    cases hadmits with
    | notModified hsent =>
      obtain ⟨outside, htag, hcontent⟩ := hw.content_of_sent hsends hsent
      refine ⟨hw.of_moves moves, fun _ _ => ?_, fun _ hr => by cases hr⟩
      -- The file has the content that goes with the tag that was sent, which is the current one.
      rw [moves.file_eq', hcontent, server.content_eq htag]
  | @written w' tag body hanswer moves hfault hfile htag hnone =>
    have hdir : destination.key ∉ w'.dirs := moves.dirs_eq ▸ hw.noDir
    have hdir' : (sidecar destination).key ∉ w'.dirs := moves.dirs_eq ▸ hw.noDir_sidecar
    rw [hanswer] at hadmits
    cases hadmits with
    | broken tag chunks fault => cases hfault
    | whole tag chunks hnamed hbytes =>
      have hcontent : w'.file destination.key = some (current call.moment).content := by
        rw [hfile, Body.bytes, hbytes]
      refine ⟨⟨hdir, hdir', fun bytes hsidecar => ?_⟩, fun _ _ => hcontent,
        fun _ hr => by cases hr⟩
      -- The body came to its end, so that only the new sidecar is left to look at.
      cases tag with
      | none => exact nomatch (hnone rfl hspared hw.noDir_sidecar).symm.trans hsidecar
      | some t =>
        cases hnamed t rfl
        exact ⟨call.moment, Option.some.inj (hsidecar.symm.trans (htag _ rfl)), hcontent⟩
  | failed fault moves hgone =>
    obtain ⟨hlacks, hlacks'⟩ :=
      (Attempt.failed fault moves hgone).lacks hspared hw.noDir hw.noDir_sidecar
    exact ⟨.of_lacks hlacks hlacks', fun _ hr => (by cases hr), fun _ _ => ⟨hlacks, hlacks'⟩⟩

/-! ### A fetch -/

/-- What the attempts of a fetch preserve: file and sidecar stay coherent, and the requests are added
to those that were made before. -/
structure Underway (current : ε → Edition) (destination : Path) (w v : World ε) : Prop where
  coherent : Coherent current destination v
  calls : ∃ made, v.calls = w.calls ++ made

theorem Attempt.underway (server : Serves url current) (hspared : SparesRemoval ε) {v v' : World ε}
    {call : Call ε} {r : Except FetchFault Bool} (hnames : Names url call.asked)
    (hsends : call.SendsTagOf destination v) (hv : Underway current destination w v)
    (h : Attempt destination call v r v') :
    Underway current destination w v' ∧ FetchOutcome current destination w r v' := by
  obtain ⟨hcoherent, hok, herror⟩ := h.coherent server hspared hnames hsends hv.coherent
  obtain ⟨made, hmade⟩ := hv.calls
  have hcalls : v'.calls = w.calls ++ made ++ [call] := by
    rw [← hmade, h.moves.calls_eq]
  refine ⟨⟨hcoherent, made ++ [call], by rw [hcalls, List.append_assoc]⟩, ?_⟩
  cases r with
  | ok updated => exact .fetched updated ⟨made, call, hcalls, hok updated rfl⟩
  | error fault => exact .failed fault (herror fault rfl).1 (herror fault rfl).2

/-- **A fetch keeps file and sidecar coherent,** and what it leaves behind is the edition that was
current at its last request, or nothing. -/
theorem fetchRemote_coherent (server : Serves url current) (hspared : SparesRemoval ε)
    (hne : destination.key ≠ (sidecar destination).key) {settings : FetchSettings}
    {r : Except FetchFault Bool} (hw : Coherent current destination w)
    (h : (fetchRemote settings url destination : StateM (World ε) _) w = (r, w')) :
    Coherent current destination w' ∧ FetchOutcome current destination w r w' := by
  have hstep : ∀ {asked : Asked} {v v' : World ε} {r : Except FetchFault Bool}, Names url asked →
      Underway current destination w v → conditionalFetch destination (ask asked) v = (r, v') →
      Underway current destination w v' ∧ FetchOutcome current destination w r v' := by
    intro asked v v' r hnames hv hattempt
    obtain ⟨call, rfl, hsends, hattempt⟩ := conditionalFetch_cases hne hattempt
    exact hattempt.underway server hspared hnames hsends hv
  have hstart : Underway current destination w w := ⟨hw, [], (List.append_nil _).symm⟩
  have houtside : ∀ {v : World ε} (outside : ε), Underway current destination w v →
      Underway current destination w (v.withOutside outside) :=
    fun outside hv => ⟨hv.coherent.withOutside outside, hv.calls⟩
  rcases fetchRemote_cases houtside (fun hnames hv hattempt => (hstep hnames hv hattempt).1) hstart h
    with ⟨fault, -, rfl, rfl⟩ | ⟨asked, v, v', outside, hnames, hv, hattempt, rfl⟩
  · exact ⟨hw, .unscheduled fault (fun _ => rfl) rfl⟩
  · obtain ⟨hunderway, houtcome⟩ := hstep hnames hv hattempt
    exact ⟨hunderway.coherent.withOutside outside, houtcome.withOutside outside⟩

end Coherence

/-! ### Series of downloads -/

/-- The file in which a directory keeps what a URL names. -/
def keptFile (url : String) (dir : Path) : Path :=
  dir.join (contentAddress url)

/-- The worlds that downloads of one URL to one directory lead to, under any settings and with any
digests. Between two of them everything may change but the file and its sidecar. -/
inductive Downloads (url : String) (dir : Path) (w₀ : World ε) : World ε → Prop
  | start : Downloads url dir w₀ w₀
  | download {w w' : World ε} {settings : FetchSettings} {request : FetchRequest}
      {r : Except FetchFault FetchResult} (before : Downloads url dir w₀ w)
      (hsource : request.source = url) (hdir : destinationDir settings request = dir)
      (h : (download settings request : StateM (World ε) _) w = (r, w')) : Downloads url dir w₀ w'
  | meanwhile {w w' : World ε} (before : Downloads url dir w₀ w)
      (hspared : ∀ path ∈ [keptFile url dir, sidecar (keptFile url dir)],
        w'.file path.key = w.file path.key ∧ (path.key ∈ w'.dirs → path.key ∈ w.dirs)) :
      Downloads url dir w₀ w'

section Series

variable {url : String} {current : ε → Edition} {settings : FetchSettings} {request : FetchRequest}
  {w₀ w v w' : World ε}

omit [Outside ε] in
/-- File and sidecar of a download stay coherent while no file changes and directories appear that
are no deeper than that of the download. -/
theorem Coherent.of_dirs_added (h : Coherent current (destinationFile settings request) w)
    (hfile : ∀ key, w'.file key = w.file key)
    (hdirs : ∀ key, (destinationDir settings request).key.length < key.length →
      (key ∈ w'.dirs ↔ key ∈ w.dirs)) :
    Coherent current (destinationFile settings request) w' :=
  h.of_file_eq fun _ hpath =>
    ⟨hfile _, (hdirs _ (length_lt_of_mem_files settings request hpath)).1⟩

/-- What a download begins to fetch into is as coherent as it was before. -/
theorem Coherent.of_entersFetch (h : Coherent current (destinationFile settings request) w)
    (hfetch : EntersFetch settings request w v) :
    Coherent current (destinationFile settings request) v := by
  obtain ⟨hfile, -, hdirs⟩ := hfetch.cases
  exact h.of_dirs_added hfile hdirs

/-- **A download keeps file and sidecar coherent,** however it ends. -/
theorem download_coherent (server : Serves request.source current) (hspared : SparesRemoval ε)
    (hw : Coherent current (destinationFile settings request) w) {r : Except FetchFault FetchResult}
    (h : (download settings request : StateM (World ε) _) w = (r, w')) :
    Coherent current (destinationFile settings request) w' := by
  have hne := destinationFile_ne_sidecar settings request
  cases download_cases h with
  | noDirectory fault hdir =>
    obtain ⟨hfile, -, hdirs⟩ := createDirs_cases hdir
    exact hw.of_dirs_added hfile hdirs
  | atHand path hdir hlocal hverified =>
    obtain ⟨hfile, -, hdirs⟩ := createDirs_cases hdir
    have hfound := (hw.of_dirs_added hfile hdirs).of_moves (localSource?_cases hlocal).1
    exact hfound.of_moves (verified_cases hverified).1
  | unfetched fault hfetch hfailed =>
    exact (fetchRemote_coherent server hspared hne (hw.of_entersFetch hfetch) hfailed).1
  | fetched updated hfetch hdone hverified =>
    have hfetched := (fetchRemote_coherent server hspared hne (hw.of_entersFetch hfetch) hdone).1
    exact hfetched.of_moves (verified_cases hverified).1

/-- **A series of downloads keeps file and sidecar coherent,** if it begins without them. -/
theorem Downloads.coherent {dir : Path} (server : Serves url current) (hspared : SparesRemoval ε)
    (hfile : w₀.Lacks (keptFile url dir)) (hsidecar : w₀.Lacks (sidecar (keptFile url dir)))
    (h : Downloads url dir w₀ w) : Coherent current (keptFile url dir) w := by
  induction h with
  | start => exact .of_lacks hfile hsidecar
  | download before hsource hdir h ih =>
    subst hsource hdir
    exact download_coherent server hspared ih h
  | meanwhile before hkept ih => exact ih.of_file_eq hkept

/-- What a fetch leaves behind does not depend on what the download did before it. -/
theorem FetchOutcome.of_entersFetch {destination : Path} {r : Except FetchFault Bool}
    (hfetch : EntersFetch settings request w v) (h : FetchOutcome current destination v r w') :
    FetchOutcome current destination w r w' := by
  obtain ⟨hfile, hcalls, -⟩ := hfetch.cases
  cases h with
  | fetched updated hfresh => exact .fetched updated (by rwa [Fresh, hcalls] at hfresh)
  | failed fault hlacks hlacks' => exact .failed fault hlacks hlacks'
  | unscheduled fault hsame hmade =>
    exact .unscheduled fault (fun key => (hsame key).trans (hfile key)) (hmade.trans hcalls)

omit [Outside ε] in
theorem Fresh.of_moves {destination : Path} (h : Fresh current destination w v)
    (moves : Moves [] [] v w') : Fresh current destination w w' := by
  obtain ⟨made, call, hcalls, hcontent⟩ := h
  refine ⟨made, call, ?_, (moves.file_eq' _).trans hcontent⟩
  rw [moves.calls_eq, List.append_nil, hcalls]

/-- **Whenever the fetch of a download succeeds, the file holds the edition that was current at the
last request,** whatever downloads came before it and however the server went on from edition to
edition meanwhile; whenever it fails, neither the file nor a sidecar is left, unless no request was
made. At all times a sidecar holds the tag of the edition that the file holds. -/
theorem downloads_fresh {dir : Path} (server : Serves url current) (hspared : SparesRemoval ε)
    (hfile : w₀.Lacks (keptFile url dir)) (hsidecar : w₀.Lacks (sidecar (keptFile url dir)))
    (hrun : Downloads url dir w₀ w) :
    Coherent current (keptFile url dir) w ∧
      ∀ (settings : FetchSettings) (request : FetchRequest), request.source = url →
        destinationDir settings request = dir →
        (∀ v v' r, EntersFetch settings request w v →
          (fetchRemote settings url (keptFile url dir) : StateM (World ε) _) v = (r, v') →
          Coherent current (keptFile url dir) v' ∧
            FetchOutcome current (keptFile url dir) w r v') ∧
        ∀ result w', ¬ w.HasSource url →
          (download settings request : StateM (World ε) _) w = (.ok result, w') →
          result.path = keptFile url dir ∧ Fresh current (keptFile url dir) w w' := by
  have hw := hrun.coherent server hspared hfile hsidecar
  refine ⟨hw, fun settings request hsource hdir => ?_⟩
  subst hsource hdir
  have hfetched : ∀ v v' r, EntersFetch settings request w v →
      (fetchRemote settings request.source (destinationFile settings request) :
        StateM (World ε) _) v = (r, v') →
      Coherent current (destinationFile settings request) v' ∧
        FetchOutcome current (destinationFile settings request) w r v' := by
    intro v v' r hfetch hdone
    obtain ⟨hcoherent, houtcome⟩ := fetchRemote_coherent server hspared
      (destinationFile_ne_sidecar settings request) (Coherent.of_entersFetch hw hfetch) hdone
    exact ⟨hcoherent, houtcome.of_entersFetch hfetch⟩
  refine ⟨hfetched, fun result w' hremote h => ?_⟩
  obtain ⟨v, v', hfetch, hdone, moves, hpath⟩ := fetched_of_ok hremote h
  obtain ⟨-, houtcome⟩ := hfetched v v' _ hfetch hdone
  cases houtcome with
  | fetched updated hfresh => exact ⟨hpath, hfresh.of_moves moves⟩

end Series

/-! ### Two prints -/

/-- The editions of a server that goes from a first one to a second one. -/
inductive Print
  | first
  | second
  deriving DecidableEq

/-- The edition of a print. -/
def Print.edition : Print → Edition
  | first => ⟨"v1", [1], by decide, by decide⟩
  | second => ⟨"v2", [2], by decide, by decide⟩

instance : Outside Print where
  answer _ tag now :=
    (.ok (if tag = some now.edition.tag then .notModified
      else .modified (some now.edition.tag) ⟨[now.edition.content], none⟩), now)
  draw now := (0, now)
  wait _ now := now
  rules _ now := ([], now)

theorem Print.serves (url : String) : Serves url Print.edition where
  admits asked sent now _ := by
    by_cases hsent : sent = some now.edition.tag
    · simp only [Outside.answer, if_pos hsent]
      exact .notModified hsent
    · simp only [Outside.answer, if_neg hsent]
      exact .whole _ _ (fun t ht => (Option.some.inj ht).symm) (by simp)
  tag_ne now later h := by
    cases now <;> cases later
    · exact absurd rfl h
    · decide
    · decide
    · exact absurd rfl h

namespace Print

/-- A world without files, while the first print is out. -/
def before : World Print :=
  ⟨MemoryFiles.empty, first, []⟩

/-- The world after a download of the first print, while `now` is out. -/
def after (now : Print) : World Print :=
  ⟨⟨[(["out", "0608c4054662dd902e1314f7e450e3eaa81c1143.etag"], [118, 49]),
      (["out", "0608c4054662dd902e1314f7e450e3eaa81c1143"], [1])], [["out"]], []⟩, now,
    [⟨.url "agent", none, first⟩]⟩

theorem download_before :
    ∃ r, (download agentSettings (agentRequest .empty) : StateM (World Print) _) before =
      (r, after first) := by
  refine exists_eq_of_snd ?_
  unfold download
  rw [destinationFile_agent]
  decide +kernel

theorem download_after :
    ∃ w', (download agentSettings (agentRequest .empty) : StateM (World Print) _) (after second) =
      (.ok ⟨keptFile "agent" ⟨"out"⟩, true, .skipped⟩, w') := by
  refine ⟨_, eq_of_toOption ?_⟩
  change _ = some (⟨destinationFile agentSettings (agentRequest .empty), true, .skipped⟩ : FetchResult)
  unfold download
  rw [destinationFile_agent]
  decide +kernel

end Print

open Print in
theorem downloads_fresh_print :
    ∃ w', (download agentSettings (agentRequest .empty) : StateM (World Print) _) (after second) =
        (.ok ⟨keptFile "agent" ⟨"out"⟩, true, .skipped⟩, w') ∧
      Fresh Print.edition (keptFile "agent" ⟨"out"⟩) (after second) w' := by
  obtain ⟨r, hfirst⟩ := download_before
  obtain ⟨w', hsecond⟩ := download_after
  have hrun : Downloads "agent" ⟨"out"⟩ before (after first) := .download .start rfl rfl hfirst
  have hlater : Downloads "agent" ⟨"out"⟩ before (after second) :=
    hrun.meanwhile fun _ _ => ⟨rfl, id⟩
  have hspared : SparesRemoval Print := fun _ _ rule hrule => by cases hrule
  have hlacks : ∀ path, before.Lacks path := fun _ => ⟨rfl, List.not_mem_nil⟩
  have hremote : ¬ (after second).HasSource "agent" := not_hasSource_agent (by decide)
  obtain ⟨-, hdownload⟩ :=
    downloads_fresh (Print.serves "agent") hspared (hlacks _) (hlacks _) hlater
  obtain ⟨-, hok⟩ := hdownload agentSettings (agentRequest .empty) rfl rfl
  exact ⟨w', hsecond, (hok _ w' hremote hsecond).2⟩

end Depot
