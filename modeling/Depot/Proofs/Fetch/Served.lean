import Depot.Proofs.Fetch.Footprint

/-!
# What a fetch that updates its file has written

A fetch that reports its file as updated has ended with an attempt that wrote one response to its
end. The response first replaces the tag, and the file is emptied before the first chunk, so that
neither the file that was there before nor what broken attempts have left in it has a part in what
is there now, also where the store has not let go of it. All chunks pass through the buffer in
their order, however the body is divided.

The sidecar is another matter. A new tag replaces what stood there, but without a new tag the old
sidecar has to be removed, and a removal that fails is not reported.

## Main definitions

* `World.RemovesAt` : a removal does not fail.
* `Served` : what a response leaves that was written to its end.

## Main results

* `served_of_writeBody`, `conditionalFetch_eq_true` : a body that is written, and an attempt that
  writes one.
* `fetchRemote_updated` : an updated file is what the last response served.
-/

namespace Depot

open World

variable {ε : Type} [Outside ε] {w w' : World ε}

namespace World

/-- If something stands at a path, removing it does not fail. -/
def RemovesAt (w : World ε) (path : Path) : Prop :=
  ∀ v, (FileStore.has path : StateM (World ε) _) w = (true, v) →
    ∃ v', (FileStore.remove path : StateM (World ε) _) v = (.ok (), v')

/-- A removal does not fail where no rule is against removing files, unless the path names a
directory. -/
theorem removesAt_of_sparesRemoval (hspared : SparesRemoval ε) {path : Path}
    (hdir : path.key ∉ w.dirs) : w.RemovesAt path := by
  intro v hfound
  obtain ⟨hquiet, hthere⟩ := has_cases hfound
  have hsome : (w.file path.key).isSome := (hthere.1 rfl).resolve_right hdir
  rcases hremoved : (FileStore.remove path : StateM (World ε) _) v with ⟨removed, v'⟩
  have hgone := file_of_remove hspared (hquiet.dirs_eq ▸ hdir) hremoved
  cases remove_cases hremoved with
  | done hkey moves hnew => exact ⟨v', rfl⟩
  | failed fault moves =>
    rw [moves.file_eq', hquiet.file_eq'] at hgone
    simp [hgone] at hsome

theorem lacks_of_removesAt {path : Path} {u : Unit} (hremoves : w.RemovesAt path)
    (h : (EntityTag.removeIfThere path : StateM (World ε) _) w = (u, w')) : w'.Lacks path := by
  obtain ⟨found, v, hfound, h⟩ := bind_eq_iff.1 h
  obtain ⟨hquiet, hthere⟩ := has_cases hfound
  cases found with
  | false =>
    obtain ⟨-, rfl⟩ := pure_eq_iff.1 h
    have hnothing := mt hthere.2 Bool.false_ne_true
    rw [not_or, Option.not_isSome_iff_eq_none] at hnothing
    exact ⟨(hquiet.file_eq' _).trans hnothing.1, hquiet.dirs_eq ▸ hnothing.2⟩
  | true =>
    obtain ⟨v', hremoved⟩ := hremoves v hfound
    obtain ⟨removed, u', hremoved', h⟩ := bind_eq_iff.1 h
    obtain ⟨-, rfl⟩ := pure_eq_iff.1 h
    obtain ⟨rfl, rfl⟩ := Prod.mk.inj (hremoved.symm.trans hremoved')
    cases remove_cases hremoved with
    | done hkey moves hnew => exact ⟨hnew, moves.dirs_eq ▸ hkey⟩

end World

/-! ### Bodies that are written -/

section Bodies

variable {destination : Path} {tag : Option String} {body : Body}

/-- The world `w'` has what a response leaves that is written from the world `w`: the body has come
to its end and is all that the file holds, and the sidecar holds the tag. Without a tag there is no
sidecar, if an older one can be removed. -/
structure Served (destination : Path) (tag : Option String) (body : Body) (w w' : World ε) :
    Prop where
  /-- After the response only the outside has changed. -/
  written : ∃ u outside, (writeBody destination tag body : StateM (World ε) _) w = (.ok (), u) ∧
    w' = u.withOutside outside
  complete : body.fault = none
  file_eq : w'.file destination.key = some body.chunks.flatten
  sidecar_eq : ∀ t, tag = some t → w'.file (sidecar destination).key = some (Bytes.ofText t)
  sidecar_lacks : tag = none → w.RemovesAt (sidecar destination) → w'.Lacks (sidecar destination)

theorem Served.withOutside (h : Served destination tag body w w') (outside : ε) :
    Served destination tag body w (w'.withOutside outside) where
  written :=
    have ⟨u, _, hwritten, hw'⟩ := h.written
    ⟨u, outside, hwritten, by rw [hw']; rfl⟩
  complete := h.complete
  file_eq := h.file_eq
  sidecar_eq := h.sidecar_eq
  sidecar_lacks := h.sidecar_lacks

/-- A file without a new tag is left without a sidecar, if the old one can be removed. -/
theorem lacks_of_replaceTag (hremoves : w.RemovesAt (sidecar destination))
    (h : (replaceTag destination none : StateM (World ε) _) w = (.ok (), w')) :
    w'.Lacks (sidecar destination) := by
  obtain ⟨_, u, hforget, h⟩ := bind_eq_iff.1 h
  obtain ⟨-, rfl⟩ := pure_eq_iff.1 h
  exact lacks_of_removesAt hremoves hforget

/-- **A body that is written without a fault has come to its end,** and its chunks are all that the
file holds. -/
theorem served_of_writeBody (hne : destination.key ≠ (sidecar destination).key)
    (h : (writeBody destination tag body : StateM (World ε) _) w = (.ok (), w')) :
    Served destination tag body w w' := by
  have hwritten := h
  obtain ⟨replaced, w₁, hreplaced, h⟩ := bind_eq_iff.1 h
  cases replaced with
  | error fault => cases (pure_eq_iff.1 h).1
  | ok _ =>
    obtain ⟨created, w₂, hcreated, h⟩ := bind_eq_iff.1 h
    cases create_cases hcreated with
    | failed fault moves => cases (pure_eq_iff.1 h).1
    | done hkey moves hempty =>
      obtain ⟨hmoves, hfilled⟩ := writeChunks_cases (moves.dirs_eq ▸ hkey) hempty h
      obtain ⟨hfault, hfile⟩ := hfilled rfl
      -- From the empty file on, nothing touches the sidecar.
      have hbody : Moves [destination.key] [] w₁ w' := moves.trans hmoves
      have hbeside : w'.file (sidecar destination).key = w₁.file (sidecar destination).key :=
        hbody.file_eq _ (by simpa using Ne.symm hne)
      obtain ⟨htag, -⟩ := (replaceTag_cases hreplaced).2 rfl
      refine ⟨⟨w', w'.outside, hwritten, rfl⟩, hfault, hfile, fun t ht => ?_, ?_⟩
      · rw [hbeside, htag t ht]
      · rintro rfl hremoves
        obtain ⟨hgone, hdir⟩ := lacks_of_replaceTag hremoves hreplaced
        exact ⟨hbeside.trans hgone, hbody.dirs_eq ▸ hdir⟩

/-- An attempt that reports the file as updated has been sent a body, and has written it. -/
theorem conditionalFetch_eq_true {asked : Asked}
    (h : conditionalFetch destination (ask asked) w = (.ok true, w')) :
    ∃ (call : Call ε) (tag : Option String) (body : Body) (u : World ε), call.asked = asked ∧
      call.answer = .ok (.modified tag body) ∧ Moves [] [call] w u ∧
      (writeBody destination tag body : StateM (World ε) _) u = (.ok (), w') := by
  obtain ⟨sent, w₁, hload, h⟩ := bind_eq_iff.1 h
  obtain ⟨hquiet, -⟩ := EntityTag.load_cases hload
  obtain ⟨answer, u, hask, h⟩ := bind_eq_iff.1 h
  obtain ⟨hasked, hanswer⟩ := ask_cases hask
  have hmoves : Moves [] [⟨asked, sent, w₁.outside⟩] w u := hquiet.trans hasked
  cases answer with
  | error fault =>
    obtain ⟨_, _, -, h⟩ := bind_eq_iff.1 h
    cases (pure_eq_iff.1 h).1
  | ok reply =>
    cases reply with
    | notModified => cases (pure_eq_iff.1 h).1
    | modified tag body =>
      obtain ⟨written, w₃, hwritten, h⟩ := bind_eq_iff.1 h
      cases written with
      | error fault =>
        obtain ⟨_, _, -, h⟩ := bind_eq_iff.1 h
        cases (pure_eq_iff.1 h).1
      | ok _ =>
        obtain ⟨-, rfl⟩ := pure_eq_iff.1 h
        exact ⟨_, tag, body, u, rfl, hanswer.symm, hmoves, hwritten⟩

end Bodies

/-! ### Fetches -/

variable {settings : FetchSettings} {request : FetchRequest}

/-- **An updated file holds exactly the served bytes.** The response to the last request of the
fetch, which is written in the world `u`, is complete, and its chunks, one after the other, are all
that the file holds. The sidecar is that of this response. -/
theorem fetchRemote_updated {v v' : World ε} (hfetch : EntersFetch settings request w v)
    (hdone : (fetchRemote settings request.source (destinationFile settings request) :
      StateM (World ε) _) v = (.ok true, v')) :
    ∃ (made : List (Call ε)) (call : Call ε) (tag : Option String) (body : Body) (u : World ε),
      v'.calls = w.calls ++ made ++ [call] ∧ Names request.source call.asked ∧
      call.answer = .ok (.modified tag body) ∧ u.calls = v'.calls ∧
      Served (destinationFile settings request) tag body u v' := by
  have hne := destinationFile_ne_sidecar settings request
  obtain ⟨-, hcalls, -⟩ := hfetch.cases
  rcases fetchRemote_attempt hne hdone with
    ⟨fault, -, hfault, -⟩ | ⟨asked, made, x, x', outside, hasked, hx, hattempt, rfl⟩
  · cases hfault
  obtain ⟨call, tag, body, u, rfl, hanswer, hu, hwritten⟩ := conditionalFetch_eq_true hattempt
  have hlast : x'.calls = u.calls := by
    rw [(writeBody_cases hne hwritten).1.calls_eq, List.append_nil]
  have hall : u.calls = w.calls ++ made ++ [call] := by
    rw [hu.calls_eq, hx.calls_eq, hcalls]
  exact ⟨made, call, tag, body, u, hlast.trans hall, hasked, hanswer, hlast.symm,
    (served_of_writeBody hne hwritten).withOutside outside⟩

/-! ### A body after a broken one -/

/-- A world with the file of a download and its tag. A body with a new tag breaks off; the next one
has no tag, and comes in three chunks of which one is empty. -/
def World.stale : World Script :=
  ⟨⟨[(["out", "0608c4054662dd902e1314f7e450e3eaa81c1143"], [1]),
      (["out", "0608c4054662dd902e1314f7e450e3eaa81c1143.etag"], [116])], [["out"]], []⟩,
    ⟨[.ok (.modified (some "u") ⟨[[3]], some (.timeout "agent")⟩),
      .ok (.modified none ⟨[[7, 7], [], [8]], none⟩)]⟩, []⟩

theorem entersFetch_stale (checksums : Dict String) :
    EntersFetch agentSettings (agentRequest checksums) stale stale := by
  have hnone : (localSource? "agent" : StateM (World Script) _) stale = (none, stale) := by
    have hurl : fileOfUrl? "agent" = none := by decide +kernel
    refine bind_eq_iff.2 ⟨false, stale, rfl, ?_⟩
    simp only [hurl]
    rfl
  have hdir : (FileStore.createDirs ⟨"out"⟩ : StateM (World Script) _) stale = (.ok (), stale) :=
    rfl
  exact ⟨stale, hdir, hnone⟩

theorem fetchRemote_stale :
    ∃ v', (fetchRemote agentSettings "agent" (destinationFile agentSettings (agentRequest .empty)) :
        StateM (World Script) _) stale = (.ok true, v') ∧
      v'.files.files = [(["out", "0608c4054662dd902e1314f7e450e3eaa81c1143"], [7, 7, 8])] ∧
      v'.dirs = [["out"]] := by
  rw [destinationFile_agent]
  refine ⟨_, eq_of_toOption ?_, ?_, ?_⟩
  all_goals decide +kernel

/-- Nothing is left of the file that was there, of the body that broke off, or of a tag. -/
theorem fetchRemote_updated_stale :
    EntersFetch agentSettings (agentRequest .empty) stale stale ∧
      ∃ v', (fetchRemote agentSettings "agent"
          (destinationFile agentSettings (agentRequest .empty)) : StateM (World Script) _) stale =
            (.ok true, v') ∧
        v'.files.files = [(["out", "0608c4054662dd902e1314f7e450e3eaa81c1143"], [7, 7, 8])] ∧
        ∃ (call : Call Script) (tag : Option String) (body : Body) (u : World Script),
          call.answer = .ok (.modified tag body) ∧
          Served (destinationFile agentSettings (agentRequest .empty)) tag body u v' ∧
          u.RemovesAt (sidecar (destinationFile agentSettings (agentRequest .empty))) := by
  have hne := destinationFile_ne_sidecar agentSettings (agentRequest .empty)
  obtain ⟨v', hdone, hfiles, hdirs⟩ := fetchRemote_stale
  obtain ⟨-, call, tag, body, u, -, -, hanswer, -, hserved⟩ :=
    fetchRemote_updated (entersFetch_stale .empty) hdone
  obtain ⟨u', outside, hwritten, rfl⟩ := hserved.written
  have hdirs' : u.dirs = [["out"]] := (writeBody_cases hne hwritten).1.dirs_eq ▸ hdirs
  refine ⟨entersFetch_stale .empty, _, hdone, hfiles, call, tag, body, u, hanswer, hserved,
    removesAt_of_sparesRemoval sparesRemoval_script ?_⟩
  rw [hdirs', destinationFile_agent]
  decide +kernel

end Depot
