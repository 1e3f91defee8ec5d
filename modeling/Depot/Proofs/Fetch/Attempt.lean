import Depot.Proofs.Fetch.World

/-!
# One attempt of a download

An attempt reads the tag of the file, makes one request, and either leaves the file alone, or writes
it and its tag, or fails and takes both away as far as the store lets it. Whatever the outside does,
no other file is touched.

## Main definitions

* `Attempt` : the outcomes of an attempt.
* `Call.SendsTagOf` : a request is made with the tag of the file.

## Main results

* `EntityTag.load_cases`, `EntityTag.discard_cases` : the tag that is found, and the removal of a file.
* `writeBody_cases` : what a body that is written leaves.
* `conditionalFetch_cases` : every attempt has one of the outcomes.
-/

namespace Depot

open World

variable {ε : Type} [Outside ε] {w w' : World ε}

/-! ### Tags beside files -/

namespace EntityTag

variable {destination : Path}

/-- A tag that is loaded is the trimmed text of the sidecar of a file that is there. -/
theorem load_cases {tag : Option String}
    (h : (load destination : StateM (World ε) _) w = (tag, w')) :
    Moves [] [] w w' ∧ ∀ t, tag = some t →
      ((w.file destination.key).isSome ∨ destination.key ∈ w.dirs) ∧
        ∃ bytes text, w.file (sidecar destination).key = some bytes ∧
          Bytes.toText? bytes = some text ∧ t = Text.trim text := by
  obtain ⟨found, w₁, hfound, h⟩ := bind_eq_iff.1 h
  obtain ⟨hmoves, hthere⟩ := has_cases hfound
  cases found with
  | false =>
    obtain ⟨rfl, rfl⟩ := pure_eq_iff.1 h
    exact ⟨hmoves, fun t ht => by cases ht⟩
  | true =>
    obtain ⟨beside, w₂, hbeside, h⟩ := bind_eq_iff.1 h
    obtain ⟨hmoves₂, -⟩ := has_cases hbeside
    have hquiet : Moves [] [] w w₂ := hmoves.trans hmoves₂
    cases beside with
    | false =>
      obtain ⟨rfl, rfl⟩ := pure_eq_iff.1 h
      exact ⟨hquiet, fun t ht => by cases ht⟩
    | true =>
      obtain ⟨read, w₃, hread, h⟩ := bind_eq_iff.1 h
      obtain ⟨hmoves₃, htext⟩ := readText_cases hread
      cases read with
      | error fault =>
        obtain ⟨rfl, rfl⟩ := pure_eq_iff.1 h
        exact ⟨hquiet.trans hmoves₃, fun t ht => by cases ht⟩
      | ok text =>
        obtain ⟨rfl, rfl⟩ := pure_eq_iff.1 h
        refine ⟨hquiet.trans hmoves₃, fun t ht => ⟨hthere.1 rfl, ?_⟩⟩
        obtain ⟨bytes, hbytes, htext⟩ := htext text rfl
        refine ⟨bytes, text, (hquiet.file_eq' _).symm.trans hbytes, htext, ?_⟩
        exact (Option.some.inj (Option.filter_eq_some_iff.1 ht).1).symm

/-- Storing a tag gives the sidecar the bytes of the tag. -/
theorem store_cases {tag : String} {r : Except FetchFault Unit}
    (h : (store destination tag : StateM (World ε) _) w = (r, w')) :
    Moves [(sidecar destination).key] [] w w' ∧
      (r = .ok () → w'.file (sidecar destination).key = some (Bytes.ofText tag)) := by
  obtain ⟨written, w₁, hwritten, h⟩ := bind_eq_iff.1 h
  cases write_cases hwritten with
  | done hkey moves hnew =>
    obtain ⟨rfl, rfl⟩ := pure_eq_iff.1 h
    exact ⟨moves, fun _ => hnew⟩
  | failed fault moves =>
    obtain ⟨rfl, rfl⟩ := pure_eq_iff.1 h
    exact ⟨moves.widen, fun hr => by cases hr⟩

/-- A file that is removed as far as possible is gone, unless the store does not let it go. -/
theorem removeIfThere_cases {path : Path} {u : Unit}
    (h : (removeIfThere path : StateM (World ε) _) w = (u, w')) :
    Moves [path.key] [] w w' ∧
      (w'.file path.key = w.file path.key ∨ w'.file path.key = none) ∧
      (SparesRemoval ε → path.key ∉ w.dirs → w'.file path.key = none) := by
  obtain ⟨found, w₁, hfound, h⟩ := bind_eq_iff.1 h
  obtain ⟨hmoves, hthere⟩ := has_cases hfound
  have hsame := hmoves.file_eq' path.key
  cases found with
  | false =>
    obtain ⟨-, rfl⟩ := pure_eq_iff.1 h
    have hnone : w.file path.key = none :=
      Option.not_isSome_iff_eq_none.1 fun hsome => Bool.noConfusion (hthere.2 (.inl hsome))
    exact ⟨hmoves.widen, .inl hsame, fun _ _ => hsame.trans hnone⟩
  | true =>
    obtain ⟨removed, w₂, hremoved, h⟩ := bind_eq_iff.1 h
    obtain ⟨-, rfl⟩ := pure_eq_iff.1 h
    have hreplaces := remove_cases hremoved
    refine ⟨hmoves.widen.trans hreplaces.moves, ?_, fun hs hdir => ?_⟩
    · cases hreplaces with
      | done hkey moves hnew => exact .inr hnew
      | failed fault moves => exact .inl ((moves.file_eq' _).trans hsame)
    · exact file_of_remove hs (hmoves.dirs_eq ▸ hdir) hremoved

/-- Discarding a file takes it and its sidecar away, unless the store does not let them go. -/
theorem discard_cases (hne : destination.key ≠ (sidecar destination).key) {u : Unit}
    (h : (discard destination : StateM (World ε) _) w = (u, w')) :
    Moves [destination.key, (sidecar destination).key] [] w w' ∧
      (SparesRemoval ε → (destination.key ∉ w.dirs → w'.file destination.key = none) ∧
        ((sidecar destination).key ∉ w.dirs → w'.file (sidecar destination).key = none)) := by
  obtain ⟨_, w₁, hfile, hsidecar⟩ := bind_eq_iff.1 h
  obtain ⟨hmoves, -, hgone⟩ := removeIfThere_cases hfile
  obtain ⟨hmoves', -, hgone'⟩ := removeIfThere_cases hsidecar
  refine ⟨(hmoves.mono (by simp)).trans (hmoves'.mono (by simp)), fun hs => ⟨fun hdir => ?_, ?_⟩⟩
  · rw [hmoves'.file_eq _ (by simpa using hne), hgone hs hdir]
  · exact hmoves.dirs_eq ▸ hgone' hs

end EntityTag

/-! ### Writing a body -/

section Body

variable {destination : Path} {old : Bytes}

/-- Handing bytes on appends them. -/
theorem handOn_cases {bytes : Bytes} {r : Except FetchFault Unit}
    (hdir : destination.key ∉ w.dirs) (hold : w.file destination.key = some old)
    (h : (handOn destination bytes : StateM (World ε) _) w = (r, w')) :
    Moves [destination.key] [] w w' ∧
      (r = .ok () → w'.file destination.key = some (old ++ bytes)) := by
  unfold handOn at h
  split at h
  · next hempty =>
    obtain ⟨rfl, rfl⟩ := pure_eq_iff.1 h
    exact ⟨(Moves.refl w).widen, fun _ => by rw [hold, List.isEmpty_iff.1 hempty, List.append_nil]⟩
  · obtain ⟨appended, w₁, happended, h⟩ := bind_eq_iff.1 h
    cases append_cases hdir happended with
    | done hkey moves hnew =>
      obtain ⟨rfl, rfl⟩ := pure_eq_iff.1 h
      exact ⟨moves, fun _ => by rw [hnew, hold, Option.getD_some]⟩
    | failed fault moves =>
      obtain ⟨rfl, rfl⟩ := pure_eq_iff.1 h
      exact ⟨moves.widen, fun hr => by cases hr⟩

/-- Making room in the buffer hands on what is pending, if there is to be room. -/
theorem makeRoom_cases {full : Prop} [Decidable full] {pending : Bytes}
    {r : Except FetchFault Unit} (hdir : destination.key ∉ w.dirs)
    (hold : w.file destination.key = some old)
    (h : (if full then handOn destination pending else pure (.ok ()) : StateM (World ε) _) w =
      (r, w')) :
    Moves [destination.key] [] w w' ∧
      (r = .ok () → ∃ new, w'.file destination.key = some new ∧
        new ++ (if full then [] else pending) = old ++ pending) := by
  split at h
  · next hfull =>
    obtain ⟨hmoves, hnew⟩ := handOn_cases hdir hold h
    exact ⟨hmoves, fun hr => ⟨_, hnew hr, by rw [if_pos hfull, List.append_nil]⟩⟩
  · next hfull =>
    obtain ⟨rfl, rfl⟩ := pure_eq_iff.1 h
    exact ⟨(Moves.refl w).widen, fun _ => ⟨old, hold, by rw [if_neg hfull]⟩⟩

/-- Taking a chunk loses nothing: what was handed on, what was pending and the chunk are what is
handed on and pending afterwards. -/
theorem takeChunk_cases {pending chunk : Bytes} {r : Except FetchFault Bytes}
    (hdir : destination.key ∉ w.dirs) (hold : w.file destination.key = some old)
    (h : (takeChunk destination pending chunk : StateM (World ε) _) w = (r, w')) :
    Moves [destination.key] [] w w' ∧
      ∀ pending', r = .ok pending' → ∃ new, w'.file destination.key = some new ∧
        new ++ pending' = old ++ pending ++ chunk := by
  obtain ⟨room, w₁, hroom, h⟩ := bind_eq_iff.1 h
  obtain ⟨hmoves, hnew⟩ := makeRoom_cases hdir hold hroom
  cases room with
  | error fault =>
    obtain ⟨rfl, rfl⟩ := pure_eq_iff.1 h
    exact ⟨hmoves, fun _ hr => by cases hr⟩
  | ok u =>
    obtain ⟨new, hnew, hkept⟩ := hnew rfl
    by_cases hsmall : chunk.length < writeBuffer
    · simp only [if_pos hsmall] at h
      obtain ⟨rfl, rfl⟩ := pure_eq_iff.1 h
      refine ⟨hmoves, ?_⟩
      rintro _ ⟨⟩
      exact ⟨new, hnew, by rw [← List.append_assoc, hkept]⟩
    · simp only [if_neg hsmall] at h
      obtain ⟨handed, w₂, hhanded, h⟩ := bind_eq_iff.1 h
      obtain ⟨hmoves', hnew'⟩ := handOn_cases (hmoves.dirs_eq ▸ hdir) hnew hhanded
      cases handed with
      | error fault =>
        obtain ⟨rfl, rfl⟩ := pure_eq_iff.1 h
        exact ⟨hmoves.trans hmoves', fun _ hr => by cases hr⟩
      | ok u =>
        obtain ⟨rfl, rfl⟩ := pure_eq_iff.1 h
        refine ⟨hmoves.trans hmoves', ?_⟩
        rintro _ ⟨⟩
        -- A chunk that is handed on at once leaves no bytes pending in front of it.
        have hnone : (if writeBuffer < pending.length + chunk.length then [] else pending) = [] := by
          split
          · rfl
          · exact List.length_eq_zero_iff.1 (by omega)
        rw [hnone, List.append_nil] at hkept
        exact ⟨new ++ chunk, hnew' rfl, by rw [hnone, List.append_nil, hkept]⟩

/-- Chunks that are written to their end stand behind what was there. -/
theorem writeChunks_cases {broken : Option FetchFault} {chunks : List Bytes} {pending : Bytes}
    {r : Except FetchFault Unit} (hdir : destination.key ∉ w.dirs)
    (hold : w.file destination.key = some old)
    (h : (writeChunks destination broken pending chunks : StateM (World ε) _) w = (r, w')) :
    Moves [destination.key] [] w w' ∧
      (r = .ok () → broken = none ∧
        w'.file destination.key = some (old ++ pending ++ chunks.flatten)) := by
  induction chunks generalizing w old pending with
  | nil =>
    cases broken with
    | some fault =>
      obtain ⟨rfl, rfl⟩ := pure_eq_iff.1 h
      exact ⟨(Moves.refl w).widen, fun hr => by cases hr⟩
    | none =>
      obtain ⟨hmoves, hnew⟩ := handOn_cases hdir hold h
      exact ⟨hmoves, fun hr => ⟨rfl, by rw [hnew hr, List.flatten_nil, List.append_nil]⟩⟩
  | cons chunk rest ih =>
    obtain ⟨taken, w₁, htaken, h⟩ := bind_eq_iff.1 h
    obtain ⟨hmoves, hnew⟩ := takeChunk_cases hdir hold htaken
    cases taken with
    | error fault =>
      obtain ⟨rfl, rfl⟩ := pure_eq_iff.1 h
      exact ⟨hmoves, fun hr => by cases hr⟩
    | ok pending' =>
      obtain ⟨new, hnew, hkept⟩ := hnew pending' rfl
      obtain ⟨hmoves', hwritten⟩ := ih (hmoves.dirs_eq ▸ hdir) hnew h
      refine ⟨hmoves.trans hmoves', fun hr => ⟨(hwritten hr).1, ?_⟩⟩
      rw [(hwritten hr).2, hkept, List.flatten_cons, List.append_assoc _ chunk]

/-- Replacing the tag of a file touches the sidecar alone. A tag that there is comes to stand in it;
without one the sidecar goes, unless the store does not let it go. -/
theorem replaceTag_cases {tag : Option String} {r : Except FetchFault Unit}
    (h : (replaceTag destination tag : StateM (World ε) _) w = (r, w')) :
    Moves [(sidecar destination).key] [] w w' ∧
      (r = .ok () →
        (∀ t, tag = some t → w'.file (sidecar destination).key = some (Bytes.ofText t)) ∧
        (tag = none → SparesRemoval ε → (sidecar destination).key ∉ w.dirs →
          w'.file (sidecar destination).key = none)) := by
  cases tag with
  | some t =>
    obtain ⟨hmoves, hnew⟩ := EntityTag.store_cases h
    refine ⟨hmoves, fun hr => ⟨?_, fun hnone => by cases hnone⟩⟩
    rintro _ ⟨⟩
    exact hnew hr
  | none =>
    obtain ⟨u, w₁, hforget, h⟩ := bind_eq_iff.1 h
    obtain ⟨rfl, rfl⟩ := pure_eq_iff.1 h
    obtain ⟨hmoves, -, hgone⟩ := EntityTag.removeIfThere_cases hforget
    refine ⟨hmoves, fun _ => ⟨fun t ht => (by cases ht), fun _ hs hdir => ?_⟩⟩
    exact hgone hs hdir

/-- A body that is written without a fault came to its end, and is all that the file holds; beside it
stands the tag that came with it. -/
theorem writeBody_cases (hne : destination.key ≠ (sidecar destination).key) {tag : Option String}
    {body : Body} {r : Except FetchFault Unit}
    (h : (writeBody destination tag body : StateM (World ε) _) w = (r, w')) :
    Moves [destination.key, (sidecar destination).key] [] w w' ∧
      (r = .ok () → body.fault = none ∧ w'.file destination.key = some body.bytes ∧
        (∀ t, tag = some t → w'.file (sidecar destination).key = some (Bytes.ofText t)) ∧
        (tag = none → SparesRemoval ε → (sidecar destination).key ∉ w.dirs →
          w'.file (sidecar destination).key = none)) := by
  obtain ⟨replaced, w₁, hreplaced, h⟩ := bind_eq_iff.1 h
  obtain ⟨hmoves, htag⟩ := replaceTag_cases hreplaced
  replace hmoves : Moves [destination.key, (sidecar destination).key] [] w w₁ :=
    hmoves.mono (by simp)
  cases replaced with
  | error fault =>
    obtain ⟨rfl, rfl⟩ := pure_eq_iff.1 h
    exact ⟨hmoves, fun hr => by cases hr⟩
  | ok u =>
    obtain ⟨created, w₂, hcreated, h⟩ := bind_eq_iff.1 h
    cases create_cases hcreated with
    | failed fault moves =>
      obtain ⟨rfl, rfl⟩ := pure_eq_iff.1 h
      exact ⟨hmoves.trans moves.widen, fun hr => by cases hr⟩
    | done hkey moves hnew =>
      obtain ⟨hmoves', hwritten⟩ := writeChunks_cases (moves.dirs_eq ▸ hkey) hnew h
      have hbody : Moves [destination.key] [] w₁ w' := moves.trans hmoves'
      have hbeside := hbody.file_eq (sidecar destination).key (by simpa using Ne.symm hne)
      refine ⟨hmoves.trans (hbody.mono (by simp)), fun hr => ?_⟩
      obtain ⟨hfault, hbytes⟩ := hwritten hr
      rw [hbeside]
      exact ⟨hfault, hbytes, (htag rfl).1, (htag rfl).2⟩

end Body

/-! ### The attempt -/

/-- A request touches no file and is written down with the outside at its moment. -/
theorem World.ask_cases {asked : Asked} {tag : Option String} {r : Except FetchFault Reply}
    (h : ask asked tag w = (r, w')) :
    Moves [] [⟨asked, tag, w.outside⟩] w w' ∧ r = Call.answer ⟨asked, tag, w.outside⟩ := by
  obtain ⟨rfl, rfl⟩ := Prod.ext_iff.1 h
  exact ⟨⟨fun _ _ => rfl, fun _ _ => rfl, rfl, rfl⟩, rfl⟩

/-- The outcomes of an attempt that makes the request `call`: the file is kept, or it is written with
its tag, or the attempt fails. -/
inductive Attempt (destination : Path) (call : Call ε) (w : World ε) :
    Except FetchFault Bool → World ε → Prop
  | kept {w' : World ε} (hanswer : call.answer = .ok .notModified) (moves : Moves [] [call] w w') :
      Attempt destination call w (.ok false) w'
  | written {w' : World ε} {tag : Option String} {body : Body}
      (hanswer : call.answer = .ok (.modified tag body))
      (moves : Moves [destination.key, (sidecar destination).key] [call] w w')
      (hfault : body.fault = none) (hfile : w'.file destination.key = some body.bytes)
      (htag : ∀ t, tag = some t → w'.file (sidecar destination).key = some (Bytes.ofText t))
      (hnone : tag = none → SparesRemoval ε → (sidecar destination).key ∉ w.dirs →
        w'.file (sidecar destination).key = none) :
      Attempt destination call w (.ok true) w'
  | failed {w' : World ε} (fault : FetchFault)
      (moves : Moves [destination.key, (sidecar destination).key] [call] w w')
      (hgone : SparesRemoval ε → (destination.key ∉ w.dirs → w'.file destination.key = none) ∧
        ((sidecar destination).key ∉ w.dirs → w'.file (sidecar destination).key = none)) :
      Attempt destination call w (.error fault) w'

/-- However it ends, an attempt makes its request and touches the file and its sidecar alone. -/
theorem Attempt.moves {destination : Path} {call : Call ε} {r : Except FetchFault Bool}
    (h : Attempt destination call w r w') :
    Moves [destination.key, (sidecar destination).key] [call] w w' := by
  cases h with
  | kept hanswer moves => exact moves.widen
  | written hanswer moves => exact moves
  | failed fault moves => exact moves

/-- Where files can be removed, an attempt that fails leaves neither the file nor its sidecar, unless a
directory stands in the place of one. -/
theorem Attempt.lacks {destination : Path} {call : Call ε} {fault : FetchFault}
    (h : Attempt destination call w (.error fault) w') (hspared : SparesRemoval ε)
    (hdir : destination.key ∉ w.dirs) (hdir' : (sidecar destination).key ∉ w.dirs) :
    w'.Lacks destination ∧ w'.Lacks (sidecar destination) := by
  cases h with
  | failed fault moves hgone =>
    obtain ⟨hfile, hsidecar⟩ := hgone hspared
    exact ⟨⟨hfile hdir, moves.dirs_eq ▸ hdir⟩, ⟨hsidecar hdir', moves.dirs_eq ▸ hdir'⟩⟩

/-- The tag of a request is that of the file: the trimmed text of its sidecar, while both are
there. -/
def Call.SendsTagOf (call : Call ε) (destination : Path) (w : World ε) : Prop :=
  ∀ t, call.tag = some t → ((w.file destination.key).isSome ∨ destination.key ∈ w.dirs) ∧
    ∃ bytes text, w.file (sidecar destination).key = some bytes ∧
      Bytes.toText? bytes = some text ∧ t = Text.trim text

/-- An attempt fails by removing both files, whatever it has written before. -/
theorem Attempt.of_discard {destination : Path}
    (hne : destination.key ≠ (sidecar destination).key) {call : Call ε} {v : World ε} {u : Unit}
    {fault : FetchFault}
    (hv : Moves [destination.key, (sidecar destination).key] [call] w v)
    (h : (EntityTag.discard destination : StateM (World ε) _) v = (u, w')) :
    Attempt destination call w (.error fault) w' := by
  obtain ⟨hgone, hremoved⟩ := EntityTag.discard_cases hne h
  exact .failed fault (hv.trans hgone) (hv.dirs_eq ▸ hremoved)

/-- An attempt makes its request with the tag that it has loaded. -/
theorem conditionalFetch_attempt {destination : Path}
    (hne : destination.key ≠ (sidecar destination).key) {asked : Asked}
    {r : Except FetchFault Bool} (h : conditionalFetch destination (ask asked) w = (r, w')) :
    ∃ tag w₁, (EntityTag.load destination : StateM (World ε) _) w = (tag, w₁) ∧
      Attempt destination ⟨asked, tag, w₁.outside⟩ w r w' := by
  obtain ⟨tag, w₁, hload, h⟩ := bind_eq_iff.1 h
  obtain ⟨hquiet, -⟩ := EntityTag.load_cases hload
  obtain ⟨answer, w₂, hask, h⟩ := bind_eq_iff.1 h
  obtain ⟨hasked, hanswer⟩ := ask_cases hask
  have hmoves : Moves [] [⟨asked, tag, w₁.outside⟩] w w₂ := hquiet.trans hasked
  refine ⟨tag, w₁, hload, ?_⟩
  cases answer with
  | error fault =>
    obtain ⟨u, w₃, hdiscard, h⟩ := bind_eq_iff.1 h
    obtain ⟨rfl, rfl⟩ := pure_eq_iff.1 h
    exact .of_discard hne hmoves.widen hdiscard
  | ok reply =>
    cases reply with
    | notModified =>
      obtain ⟨rfl, rfl⟩ := pure_eq_iff.1 h
      exact .kept hanswer.symm hmoves
    | modified newTag body =>
      obtain ⟨written, w₃, hwritten, h⟩ := bind_eq_iff.1 h
      obtain ⟨hbody, hdone⟩ := writeBody_cases hne hwritten
      cases written with
      | ok u =>
        obtain ⟨rfl, rfl⟩ := pure_eq_iff.1 h
        obtain ⟨hfault, hfile, hnew, hnone⟩ := hdone rfl
        exact .written hanswer.symm (hmoves.widen.trans hbody) hfault hfile hnew
          (hmoves.dirs_eq ▸ hnone)
      | error fault =>
        obtain ⟨u, w₄, hdiscard, h⟩ := bind_eq_iff.1 h
        obtain ⟨rfl, rfl⟩ := pure_eq_iff.1 h
        exact .of_discard hne (hmoves.widen.trans hbody) hdiscard

/-- **Every attempt makes one request, with the tag of the file, and has one of the three
outcomes.** -/
theorem conditionalFetch_cases {destination : Path}
    (hne : destination.key ≠ (sidecar destination).key) {asked : Asked}
    {r : Except FetchFault Bool} (h : conditionalFetch destination (ask asked) w = (r, w')) :
    ∃ call : Call ε, call.asked = asked ∧ call.SendsTagOf destination w ∧
      Attempt destination call w r w' := by
  obtain ⟨tag, w₁, hload, hattempt⟩ := conditionalFetch_attempt hne h
  exact ⟨⟨asked, tag, w₁.outside⟩, rfl, (EntityTag.load_cases hload).2, hattempt⟩

end Depot
