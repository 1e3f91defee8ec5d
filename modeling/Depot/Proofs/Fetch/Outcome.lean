import Depot.Proofs.Fetch.Integrity

/-!
# What the result of a download says of its file

The answer that a tag is current ends a fetch well, whether or not a tag was sent and whether or not
the file is still there: an attempt that has failed before may have removed it. A result that is not
updated therefore need not name a file. It does so, and the file is untouched, exactly when the file
was there and the very first request got this answer.

## Main definitions

* `World.Tried` : what failed attempts leave of a file.
* `FetchResult.IsTrueOf` : the file of a result is there, and is untouched if it is not updated.

## Main results

* `fetchRemote_eq_ok` : the last attempt of a fetch that succeeds.
* `download_isTrueOf_iff` : when the result of a download is true.
-/

namespace Depot

open World

variable {ε : Type} [Outside ε] {destination : Path} {w w' : World ε}

/-! ### Failed attempts -/

/-- Failed attempts lead from one world to another, with the requests `made`. Where there are none,
nothing is touched. Each of them removes the file at `key`, unless the store does not let it go. -/
structure World.Tried (key : PathKey) (made : List (Call ε)) (w v : World ε) : Prop where
  calls_eq : v.calls = w.calls ++ made
  dir_iff : key ∈ v.dirs ↔ key ∈ w.dirs
  untouched : made = [] → ∀ k, v.file k = w.file k
  file_eq_of_dir : key ∈ w.dirs → v.file key = w.file key
  gone : made ≠ [] → SparesRemoval ε → key ∉ w.dirs → v.file key = none

theorem World.Tried.withOutside {key : PathKey} {made : List (Call ε)} {v : World ε}
    (h : Tried key made w v) (outside : ε) : Tried key made w (v.withOutside outside) :=
  ⟨h.calls_eq, h.dir_iff, h.untouched, h.file_eq_of_dir, h.gone⟩

/-- Up to the fetch of a download nothing has been tried. -/
theorem EntersFetch.tried {settings : FetchSettings} {request : FetchRequest} {v : World ε}
    (h : EntersFetch settings request w v) :
    Tried (destinationFile settings request).key [] w v := by
  obtain ⟨hfile, hcalls, hdirs⟩ := h.cases
  have hdir := hdirs _ (length_lt_of_mem_files settings request List.mem_cons_self)
  exact ⟨by rw [hcalls, List.append_nil], hdir, fun _ => hfile, fun _ => hfile _,
    fun hne => absurd rfl hne⟩

/-- One more attempt that fails. -/
theorem Attempt.tried {made : List (Call ε)} {v v' : World ε} {call : Call ε} {fault : FetchFault}
    (hv : Tried destination.key made w v) (h : Attempt destination call v (.error fault) v') :
    Tried destination.key (made ++ [call]) w v' := by
  cases h with
  | failed fault moves hgone =>
    refine ⟨?_, ?_, fun hnil => ?_, fun hdir => ?_, fun _ hspared hdir => ?_⟩
    · rw [moves.calls_eq, hv.calls_eq, List.append_assoc]
    · rw [moves.dirs_eq, hv.dir_iff]
    · exact absurd hnil (List.append_ne_nil_of_right_ne_nil _ (List.cons_ne_nil _ _))
    · rw [moves.file_eq_of_dir _ (hv.dir_iff.2 hdir), hv.file_eq_of_dir hdir]
    · exact (hgone hspared).1 (mt hv.dir_iff.1 hdir)

/-- **A fetch that succeeds has made failed attempts, and then one** that has either written the file,
or was told that it is current and has left it as the others did. -/
theorem fetchRemote_eq_ok {settings : FetchSettings} {url : String} {updated : Bool}
    (hne : destination.key ≠ (sidecar destination).key) {v : World ε}
    (hv : Tried destination.key [] w v)
    (h : (fetchRemote settings url destination : StateM (World ε) _) v = (.ok updated, w')) :
    ∃ made u call, Tried destination.key made w u ∧ w'.calls = w.calls ++ made ++ [call] ∧
      ((updated = true ∧ (w'.file destination.key).isSome) ∨
        (updated = false ∧ call.answer = .ok .notModified ∧ ∀ k, w'.file k = u.file k)) := by
  have hstep : ∀ {asked : Asked} {u u' : World ε} {fault : FetchFault}, Names url asked →
      (∃ made, Tried destination.key made w u) →
      conditionalFetch destination (ask asked) u = (.error fault, u') →
      ∃ made, Tried destination.key made w u' := by
    rintro asked u u' fault - ⟨made, hu⟩ hattempt
    obtain ⟨call, -, -, hattempt⟩ := conditionalFetch_cases hne hattempt
    exact ⟨made ++ [call], hattempt.tried hu⟩
  have houtside : ∀ {u : World ε} (outside : ε), (∃ made, Tried destination.key made w u) →
      ∃ made, Tried destination.key made w (u.withOutside outside) :=
    fun outside ⟨made, hu⟩ => ⟨made, hu.withOutside outside⟩
  rcases fetchRemote_cases houtside hstep ⟨[], hv⟩ h with
    ⟨fault, -, hr, -⟩ | ⟨asked, u, u', outside, -, ⟨made, hu⟩, hattempt, rfl⟩
  · cases hr
  obtain ⟨call, -, -, hattempt⟩ := conditionalFetch_cases hne hattempt
  refine ⟨made, u, call, hu, ?_⟩
  rw [← hu.calls_eq]
  cases hattempt with
  | kept hanswer moves => exact ⟨moves.calls_eq, .inr ⟨rfl, hanswer, moves.file_eq'⟩⟩
  | written hanswer moves hfault hfile =>
    exact ⟨moves.calls_eq, .inl ⟨rfl, Option.isSome_of_eq_some hfile⟩⟩

/-- The same of a download that succeeds with a source that is not on this machine. -/
theorem download_eq_ok {settings : FetchSettings} {request : FetchRequest} {result : FetchResult}
    (hremote : ¬ w.HasSource request.source)
    (h : (download settings request : StateM (World ε) _) w = (.ok result, w')) :
    ∃ made u call, Tried result.path.key made w u ∧ w'.calls = w.calls ++ made ++ [call] ∧
      ((result.updated = true ∧ (w'.file result.path.key).isSome) ∨
        (result.updated = false ∧ call.answer = .ok .notModified ∧
          ∀ k, w'.file k = u.file k)) := by
  obtain ⟨v, v', hfetch, hdone, hquiet, hpath⟩ := fetched_of_ok hremote h
  have hcalls : w'.calls = v'.calls := by rw [hquiet.calls_eq, List.append_nil]
  simp only [hpath, hcalls, hquiet.file_eq']
  exact fetchRemote_eq_ok (destinationFile_ne_sidecar settings request) hfetch.tried hdone

/-! ### Results -/

omit [Outside ε] in
/-- The result of a download from one world to another is true: there is a file where it says, and if
it is not updated, the file was there before with the same content. -/
def FetchResult.IsTrueOf (result : FetchResult) (w w' : World ε) : Prop :=
  (w'.file result.path.key).isSome ∧
    (result.updated = false → (w.file result.path.key).isSome ∧
      w'.file result.path.key = w.file result.path.key)

/-- **What the result of a successful download says of its file is true exactly if** the file was
written, or was there and was told to be current by the answer to the only request that was made, or
cannot be removed for a directory in its place. This is for stores that let files be removed; in any
store a result that is updated names a file, and one that is not updated comes of the answer that
the file is current, which leaves all files untouched if no other request was made before. -/
theorem download_isTrueOf_iff {settings : FetchSettings} {request : FetchRequest}
    {result : FetchResult} (hremote : ¬ w.HasSource request.source)
    (h : (download settings request : StateM (World ε) _) w = (.ok result, w')) :
    (result.updated = true → (w'.file result.path.key).isSome) ∧
      (result.updated = false → ∃ made call, w'.calls = w.calls ++ made ++ [call] ∧
        call.answer = .ok .notModified ∧ (made = [] → ∀ key, w'.file key = w.file key)) ∧
      (SparesRemoval ε → (result.IsTrueOf w w' ↔ result.updated = true ∨
        ((w.file result.path.key).isSome ∧
          (w'.calls.length = w.calls.length + 1 ∨ result.path.key ∈ w.dirs)))) := by
  obtain ⟨made, u, call, htried, hcalls, hlast⟩ := download_eq_ok hremote h
  rcases hlast with ⟨hupdated, hthere⟩ | ⟨hupdated, hanswer, hleft⟩
  · have hne : result.updated ≠ false := by simp [hupdated]
    have htrue : result.IsTrueOf w w' := ⟨hthere, fun hf => absurd hf hne⟩
    exact ⟨fun _ => hthere, fun hf => absurd hf hne, fun _ => iff_of_true htrue (.inl hupdated)⟩
  have hne : result.updated ≠ true := by simp [hupdated]
  have huntouched : made = [] → ∀ key, w'.file key = w.file key := fun hnil key => by
    rw [hleft, htried.untouched hnil]
  refine ⟨fun ht => absurd ht hne, fun _ => ⟨made, call, hcalls, hanswer, huntouched⟩,
    fun hspared => ⟨?_, ?_⟩⟩
  · rintro ⟨hthere, hsame⟩
    refine .inr ⟨(hsame hupdated).1, ?_⟩
    -- A file that was there is there still only if no attempt has failed, or none could remove it.
    by_cases hnil : made = []
    · left
      rw [hcalls, hnil, List.append_nil, List.length_append, List.length_singleton]
    · right
      refine Decidable.byContradiction fun hdir => ?_
      rw [hleft, htried.gone hnil hspared hdir] at hthere
      cases hthere
  · rintro (ht | ⟨hold, hone | hdir⟩)
    · exact absurd ht hne
    · have hnil : made = [] := by
        rw [hcalls, List.length_append, List.length_append, List.length_singleton] at hone
        exact List.length_eq_zero_iff.1 (by omega)
      have hsame := huntouched hnil result.path.key
      exact ⟨hsame ▸ hold, fun _ => ⟨hold, hsame⟩⟩
    · have hsame := (hleft result.path.key).trans (htried.file_eq_of_dir hdir)
      exact ⟨hsame ▸ hold, fun _ => ⟨hold, hsame⟩⟩

/-- A world with the file of a download. The first request fails, and the answer to the second is
that the file is current. -/
def World.held : World Script :=
  ⟨⟨[(["out", "0608c4054662dd902e1314f7e450e3eaa81c1143"], [1])], [["out"]], []⟩,
    ⟨[.error (.timeout "agent"), .ok .notModified]⟩, []⟩

theorem download_held :
    ∃ w', (download agentSettings (agentRequest .empty) : StateM (World Script) _) held =
        (.ok ⟨⟨"out/0608c4054662dd902e1314f7e450e3eaa81c1143"⟩, false, .skipped⟩, w') ∧
      w'.calls.length = 2 := by
  refine ⟨_, eq_of_toOption ?_, ?_⟩
  · unfold download
    rw [destinationFile_agent]
    decide +kernel
  · unfold download
    rw [destinationFile_agent]
    decide +kernel

/-- The file that is removed after the first request is told to be current by the answer to the
second. -/
theorem download_isTrueOf_iff_held :
    ∃ result w', (download agentSettings (agentRequest .empty) : StateM (World Script) _) held =
        (.ok result, w') ∧ result.updated = false ∧ ¬ result.IsTrueOf held w' := by
  obtain ⟨w', hdownload, hcalls⟩ := download_held
  refine ⟨_, w', hdownload, rfl, fun htrue => ?_⟩
  obtain ⟨-, -, hiff⟩ :=
    download_isTrueOf_iff (not_hasSource_agent (w := held) (by decide)) hdownload
  rcases (hiff sparesRemoval_script).1 htrue with hupdated | ⟨-, hone | hdir⟩
  · cases hupdated
  · rw [hcalls] at hone
    cases hone
  · revert hdir
    decide +kernel

/-- The answer that a tag is current, to a request without a tag and in a world without files: the
result names no file. -/
theorem not_isTrueOf_scripted :
    ¬ (scripted [.ok .notModified]).HasSource "agent" ∧
      ∃ result w', (download agentSettings (agentRequest .empty) : StateM (World Script) _)
          (scripted [.ok .notModified]) = (.ok result, w') ∧ ¬ result.IsTrueOf
            (scripted [.ok .notModified]) w' := by
  refine ⟨not_hasSource_agent rfl, ⟨⟨"out/0608c4054662dd902e1314f7e450e3eaa81c1143"⟩, false,
    .skipped⟩, _, eq_of_toOption ?_, fun htrue => ?_⟩
  · unfold download
    rw [destinationFile_agent]
    decide +kernel
  · have hold := (htrue.2 rfl).1
    revert hold
    decide +kernel

end Depot
