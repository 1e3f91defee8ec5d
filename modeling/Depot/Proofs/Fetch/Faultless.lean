import Depot.Proofs.Fetch.Integrity

/-!
# Worlds without failing operations

Where the outside puts no rules in force, a file operation fails only for what stands at its path.
What is read is then a function of the files alone, so that two verifications of the same content
end in the same way, and a body that does not break off is written unless a directory is in its
place.

## Main definitions

* `Faultless` : no operation fails on purpose.
* `World.bytesOf`, `World.storedTag` : what reading a file gives, and the tag that is kept for it.

## Main results

* `verified_congr`, `verified_of_satisfies` : verifications of the same content, and of good
  content.
* `writeBody_faultless` : what keeps a body from being written.
-/

namespace Depot

open World

variable {ε : Type} [Outside ε] {w w' v v' : World ε} {path destination : Path}

/-- The outside makes no file operation fail. -/
def Faultless (ε : Type) [Outside ε] : Prop :=
  ∀ (rules : List FaultRule) (outside : ε), (Outside.rules rules outside).1 = []

namespace MemoryFiles

theorem guarded_withRules_nil {α : Type} {op : FileOp} {p : Path}
    {run : StateM MemoryFiles (Except IoFault α)} {s : MemoryFiles} :
    guarded op p run (s.withRules []) = run (s.withRules []) :=
  rfl

end MemoryFiles

namespace World

omit [Outside ε] in
/-- What reading the file at a path gives. -/
def bytesOf (w : World ε) (path : Path) : Except IoFault Bytes :=
  w.files.bytesOf path.key

omit [Outside ε] in
/-- What reading the text at a path gives. -/
def textOf (w : World ε) (path : Path) : Except IoFault String :=
  w.files.textOf path.key

omit [Outside ε] in
instance (w : World ε) (key : PathKey) : Decidable (key ∈ w.dirs) :=
  decidable_of_iff (w.files.hasDir key = true) MemoryFiles.hasDir_iff

omit [Outside ε] in
/-- The tag that is kept for a file: the trimmed text of its sidecar, unless it is blank, and while
the file is there. -/
def storedTag (w : World ε) (destination : Path) : Option String :=
  if (w.file destination.key).isSome ∨ destination.key ∈ w.dirs then
    ((w.textOf (sidecar destination)).toOption.map Text.trim).filter (· ≠ "")
  else none

omit [Outside ε] in
theorem bytesOf_eq_ok_iff {bytes : Bytes} :
    w.bytesOf path = .ok bytes ↔ path.key ∉ w.dirs ∧ w.file path.key = some bytes := by
  refine ⟨MemoryFiles.bytesOf_eq_ok, fun ⟨hdir, hfile⟩ => ?_⟩
  unfold bytesOf MemoryFiles.bytesOf
  unfold file at hfile
  rw [if_neg (mt MemoryFiles.hasDir_iff.1 hdir), hfile]

omit [Outside ε] in
/-- What is read depends on what stands at the path alone. -/
theorem bytesOf_congr (hfile : w'.file path.key = w.file path.key)
    (hdir : path.key ∈ w'.dirs ↔ path.key ∈ w.dirs) : w'.bytesOf path = w.bytesOf path := by
  have hdir' : w'.files.hasDir path.key = w.files.hasDir path.key :=
    Bool.eq_iff_iff.2 (MemoryFiles.hasDir_iff.trans (hdir.trans MemoryFiles.hasDir_iff.symm))
  unfold file at hfile
  unfold bytesOf MemoryFiles.bytesOf
  rw [hdir', hfile]

omit [Outside ε] in
theorem textOf_congr (hbytes : w'.bytesOf path = w.bytesOf path) :
    w'.textOf path = w.textOf path := by
  unfold bytesOf at hbytes
  unfold textOf MemoryFiles.textOf
  rw [hbytes]

omit [Outside ε] in
theorem textOf_eq_ok {text : String} (h : w.textOf path = .ok text) : path.key ∉ w.dirs := by
  unfold textOf MemoryFiles.textOf at h
  cases hbytes : w.files.bytesOf path.key with
  | ok bytes => exact (MemoryFiles.bytesOf_eq_ok hbytes).1
  | error fault =>
    rw [hbytes] at h
    cases h

omit [Outside ε] in
theorem storedTag_congr (hfile : ∀ path ∈ [destination, sidecar destination],
      w'.file path.key = w.file path.key ∧ (path.key ∈ w'.dirs ↔ path.key ∈ w.dirs)) :
    w'.storedTag destination = w.storedTag destination := by
  obtain ⟨hcontent, hdir⟩ := hfile destination (by simp)
  obtain ⟨hbeside, hdir'⟩ := hfile (sidecar destination) (by simp)
  simp only [storedTag, hcontent, hdir, textOf_congr (bytesOf_congr hbeside hdir')]

omit [Outside ε] in
/-- A tag that is kept stands in a sidecar that is a file. -/
theorem notMem_dirs_of_storedTag {tag : String} (h : w.storedTag destination = some tag) :
    (sidecar destination).key ∉ w.dirs := by
  unfold storedTag at h
  split at h
  · cases htext : w.textOf (sidecar destination) with
    | ok text => exact textOf_eq_ok htext
    | error fault =>
      rw [htext] at h
      cases h
  · cases h

omit [Outside ε] in
theorem Moves.bytesOf_eq {made : List (Call ε)} (h : Moves [] made w w') (path : Path) :
    w'.bytesOf path = w.bytesOf path :=
  bytesOf_congr (h.file_eq' _) (by rw [h.dirs_eq])

omit [Outside ε] in
theorem Moves.storedTag_eq {made : List (Call ε)} (h : Moves [] made w w') (destination : Path) :
    w'.storedTag destination = w.storedTag destination :=
  storedTag_congr fun _ _ => ⟨h.file_eq' _, by rw [h.dirs_eq]⟩

/-! ### Operations on files -/

section Operations

variable (hf : Faultless ε)

include hf

theorem onFiles_faultless {α : Type} {run : StateM MemoryFiles α} {a : α}
    (h : onFiles run w = (a, w')) : run (w.files.withRules []) = (a, w'.files) := by
  obtain ⟨hrun, -⟩ := onFiles_cases h
  rwa [hf] at hrun

theorem readBytes_faultless {r : Except IoFault Bytes}
    (h : (FileStore.readBytes path : StateM (World ε) _) w = (r, w')) : r = w.bytesOf path := by
  have hrun : MemoryFiles.readBytes path (w.files.withRules []) = (r, w'.files) :=
    onFiles_faultless hf h
  rw [MemoryFiles.readBytes, MemoryFiles.guarded_withRules_nil] at hrun
  have hbytes : (w.files.withRules []).bytesOf path.key = w.bytesOf path := rfl
  rw [hbytes] at hrun
  cases hread : w.bytesOf path with
  | ok bytes =>
    rw [hread] at hrun
    exact (Prod.ext_iff.1 hrun).1.symm
  | error fault =>
    rw [hread] at hrun
    exact (Prod.ext_iff.1 hrun).1.symm

theorem readText_faultless {r : Except IoFault String}
    (h : (FileStore.readText path : StateM (World ε) _) w = (r, w')) : r = w.textOf path :=
  (Prod.ext_iff.1 (onFiles_faultless hf h)).1.symm

/-- A file is given its content unless a directory is in its place. -/
theorem setUnlessDir_faultless {op : FileOp} {bytes : Bytes} {r : Except IoFault Unit}
    (h : onFiles (MemoryFiles.guarded op path (MemoryFiles.setUnlessDir path bytes)) w = (r, w')) :
    r = .ok () ∨ path.key ∈ w.dirs := by
  have hrun := (Prod.ext_iff.1 (onFiles_faultless hf h)).1
  rw [MemoryFiles.guarded_withRules_nil] at hrun
  unfold MemoryFiles.setUnlessDir at hrun
  split at hrun
  · next hdir => exact .inr (MemoryFiles.hasDir_iff.1 hdir)
  · exact .inl hrun.symm

theorem write_faultless {bytes : Bytes} {r : Except IoFault Unit}
    (h : (FileStore.write path bytes : StateM (World ε) _) w = (r, w')) :
    r = .ok () ∨ path.key ∈ w.dirs :=
  setUnlessDir_faultless hf h

theorem create_faultless {r : Except IoFault Unit}
    (h : (FileStore.create path : StateM (World ε) _) w = (r, w')) :
    r = .ok () ∨ path.key ∈ w.dirs :=
  setUnlessDir_faultless hf h

theorem append_faultless {bytes : Bytes} {r : Except IoFault Unit}
    (h : (FileStore.append path bytes : StateM (World ε) _) w = (r, w')) : r = .ok () :=
  (Prod.ext_iff.1 (onFiles_faultless hf h)).1.symm

/-- A directory is created unless a file stands in its place or above it. -/
theorem createDirs_faultless {r : Except IoFault Unit}
    (h : (FileStore.createDirs path : StateM (World ε) _) w = (r, w')) :
    r = .ok () ↔ path.key = [] ∨
      ∀ key ∈ PathKey.ancestors path.key ++ [path.key], w.file key = none := by
  have hrun := (Prod.ext_iff.1 (onFiles_faultless hf h)).1
  change (MemoryFiles.createDirs path (w.files.withRules [])).1 = r at hrun
  rw [MemoryFiles.createDirs, MemoryFiles.guarded_withRules_nil] at hrun
  by_cases hroot : path.key = []
  · simp only [if_pos hroot] at hrun
    exact iff_of_true hrun.symm (.inl hroot)
  simp only [if_neg hroot] at hrun
  have hblocked : (PathKey.ancestors path.key ++ [path.key]).any (w.files.withRules []).hasFile =
      true ↔ ∃ key ∈ PathKey.ancestors path.key ++ [path.key], (w.file key).isSome :=
    List.any_eq_true
  split at hrun
  · next hany =>
    obtain ⟨key, hkey, hfile⟩ := hblocked.1 hany
    refine iff_of_false (fun hr => by cases hrun.trans hr) ?_
    rintro (h | h)
    · exact hroot h
    · rw [h key hkey] at hfile
      cases hfile
  · next hany =>
    refine iff_of_true hrun.symm (.inr fun key hkey => ?_)
    exact Option.not_isSome_iff_eq_none.1 fun hfile => hany (hblocked.2 ⟨key, hkey, hfile⟩)

end Operations

end World

section Faultless

variable (hf : Faultless ε)

include hf

/-! ### Verifications -/

theorem computeDigest_faultless {a : HashAlgorithm} {r : Except ChecksumFault String}
    (h : (computeDigest a path : StateM (World ε) _) w = (r, w')) :
    r = match w.bytesOf path with
      | .ok bytes => .ok (a.hexDigest bytes)
      | .error fault => .error (.io path fault) := by
  obtain ⟨read, w₁, hread, h⟩ := bind_eq_iff.1 h
  rw [← readBytes_faultless hf hread]
  cases read with
  | ok bytes => exact (pure_eq_iff.1 h).1.symm
  | error fault => exact (pure_eq_iff.1 h).1.symm

/-- Entries match the same content in the same way. -/
theorem matchAll_congr {pairs : List (String × String)}
    {r r' : Except ChecksumFault (List HashAlgorithm)} (hsame : v.bytesOf path = w.bytesOf path)
    (h : (matchAll path pairs : StateM (World ε) _) w = (r, w'))
    (h' : (matchAll path pairs : StateM (World ε) _) v = (r', v')) : r' = r := by
  induction pairs generalizing w w' v v' r r' with
  | nil =>
    obtain ⟨rfl, -⟩ := pure_eq_iff.1 h
    exact (pure_eq_iff.1 h').1.symm
  | cons entry rest ih =>
    obtain ⟨name, expected⟩ := entry
    unfold matchAll at h h'
    cases ha : HashAlgorithm.ofName? name with
    | none =>
      simp only [ha] at h h'
      exact ih hsame h h'
    | some a =>
      simp only [ha] at h h'
      obtain ⟨digest, w₁, hdigest, h⟩ := bind_eq_iff.1 h
      obtain ⟨digest', v₁, hdigest', h'⟩ := bind_eq_iff.1 h'
      have heq : digest' = digest := by
        rw [computeDigest_faultless hf hdigest, computeDigest_faultless hf hdigest', hsame]
      subst heq
      have hmoves := (computeDigest_cases hdigest).1
      have hmoves' := (computeDigest_cases hdigest').1
      cases digest' with
      | error fault =>
        obtain ⟨rfl, -⟩ := pure_eq_iff.1 h
        exact (pure_eq_iff.1 h').1.symm
      | ok actual =>
        simp only at h h'
        split at h
        · next hmatches =>
          rw [if_pos hmatches] at h'
          obtain ⟨others, w₂, hothers, h⟩ := bind_eq_iff.1 h
          obtain ⟨others', v₂, hothers', h'⟩ := bind_eq_iff.1 h'
          have hrest := ih
            ((hmoves'.bytesOf_eq path).trans (hsame.trans (hmoves.bytesOf_eq path).symm))
            hothers hothers'
          rw [← (pure_eq_iff.1 h).1, ← (pure_eq_iff.1 h').1, hrest]
        · next hmatches =>
          rw [if_neg hmatches] at h'
          rw [← (pure_eq_iff.1 h).1, ← (pure_eq_iff.1 h').1]

theorem verifyChecksums_congr {checksums : Dict String} {r r' : Except ChecksumFault Verification}
    (hsame : v.bytesOf path = w.bytesOf path)
    (h : (verifyChecksums checksums path : StateM (World ε) _) w = (r, w'))
    (h' : (verifyChecksums checksums path : StateM (World ε) _) v = (r', v')) : r' = r := by
  unfold verifyChecksums at h h'
  split at h
  · next hskip =>
    rw [if_pos hskip] at h'
    rw [← (pure_eq_iff.1 h).1, ← (pure_eq_iff.1 h').1]
  · next hskip =>
    rw [if_neg hskip] at h'
    obtain ⟨matched, w₁, hmatched, h⟩ := bind_eq_iff.1 h
    obtain ⟨matched', v₁, hmatched', h'⟩ := bind_eq_iff.1 h'
    rw [matchAll_congr hf hsame hmatched hmatched'] at h'
    match matched with
    | .error fault => rw [← (pure_eq_iff.1 h).1, ← (pure_eq_iff.1 h').1]
    | .ok [] => rw [← (pure_eq_iff.1 h).1, ← (pure_eq_iff.1 h').1]
    | .ok (a :: rest) => rw [← (pure_eq_iff.1 h).1, ← (pure_eq_iff.1 h').1]

/-- **Two verifications of the same content end in the same way.** -/
theorem verified_congr {checksums : Dict String} {updated updated' : Bool} {fault : FetchFault}
    {r' : Except FetchFault FetchResult} (hsame : v.bytesOf path = w.bytesOf path)
    (h : (verified checksums path updated : StateM (World ε) _) w = (.error fault, w'))
    (h' : (verified checksums path updated' : StateM (World ε) _) v = (r', v')) :
    r' = .error fault := by
  obtain ⟨checked, w₁, hchecked, h⟩ := bind_eq_iff.1 h
  obtain ⟨checked', v₁, hchecked', h'⟩ := bind_eq_iff.1 h'
  rw [verifyChecksums_congr hf hsame hchecked hchecked'] at h'
  cases checked with
  | ok verification => exact nomatch (pure_eq_iff.1 h).1
  | error fault => rw [← (pure_eq_iff.1 h).1, ← (pure_eq_iff.1 h').1]

/-- Entries that a readable file satisfies all match. -/
theorem matchAll_of_satisfies {bytes : Bytes} {pairs : List (String × String)}
    {r : Except ChecksumFault (List HashAlgorithm)} (hread : w.bytesOf path = .ok bytes)
    (hall : ∀ entry ∈ pairs, w.Satisfies path entry)
    (h : (matchAll path pairs : StateM (World ε) _) w = (r, w')) :
    r = .ok (knownAlgorithms pairs) := by
  suffices hok : ∃ algorithms, r = .ok algorithms by
    obtain ⟨algorithms, rfl⟩ := hok
    rw [((matchAll_cases h).2 algorithms rfl).1]
  induction pairs generalizing w w' r with
  | nil => exact ⟨[], (pure_eq_iff.1 h).1.symm⟩
  | cons entry rest ih =>
    obtain ⟨name, expected⟩ := entry
    have hrest : ∀ e ∈ rest, w.Satisfies path e := fun e he => hall e (List.mem_cons_of_mem _ he)
    unfold matchAll at h
    cases ha : HashAlgorithm.ofName? name with
    | none =>
      simp only [ha] at h
      exact ih hread hrest h
    | some a =>
      simp only [ha] at h
      obtain ⟨digest, w₁, hdigest, h⟩ := bind_eq_iff.1 h
      obtain ⟨hmoves, -⟩ := computeDigest_cases hdigest
      have hcomputed := computeDigest_faultless hf hdigest
      rw [hread] at hcomputed
      subst hcomputed
      obtain ⟨bytes', hbytes', hmatches⟩ := hall _ List.mem_cons_self a ha
      cases (bytesOf_eq_ok_iff.1 hread).2.symm.trans hbytes'
      simp only [digestMatches, hmatches, if_true] at h
      obtain ⟨others, w₂, hothers, h⟩ := bind_eq_iff.1 h
      obtain ⟨algorithms, rfl⟩ := ih ((hmoves.bytesOf_eq path).trans hread)
        (fun e he => (hrest e he).of_file_eq (hmoves.file_eq' _)) hothers
      exact ⟨a :: algorithms, (pure_eq_iff.1 h).1.symm⟩

/-- A file that cannot be read matches no entry of a known algorithm. -/
theorem matchAll_of_unreadable {fault : IoFault} {pairs : List (String × String)}
    {r : Except ChecksumFault (List HashAlgorithm)} (hread : w.bytesOf path = .error fault)
    (hknown : knownAlgorithms pairs ≠ [])
    (h : (matchAll path pairs : StateM (World ε) _) w = (r, w')) : r = .error (.io path fault) := by
  induction pairs with
  | nil => exact absurd rfl hknown
  | cons entry rest ih =>
    obtain ⟨name, expected⟩ := entry
    unfold matchAll at h
    cases ha : HashAlgorithm.ofName? name with
    | none =>
      simp only [ha] at h
      exact ih (by simpa [knownAlgorithms, ha] using hknown) h
    | some a =>
      simp only [ha] at h
      obtain ⟨digest, w₁, hdigest, h⟩ := bind_eq_iff.1 h
      have hcomputed := computeDigest_faultless hf hdigest
      rw [hread] at hcomputed
      rw [hcomputed] at h
      exact (pure_eq_iff.1 h).1.symm

/-- A verification that fails for another reason than the files has read its file. -/
theorem readable_of_verified {checksums : Dict String} {updated : Bool} {fault : ChecksumFault}
    {at' : Path} (hknown : knownAlgorithms checksums.pairs ≠ []) (hfault : ∀ p f, fault ≠ .io p f)
    (h : (verified checksums path updated : StateM (World ε) _) w =
      (.error (.verification at' fault), w')) : ∃ bytes, w.bytesOf path = .ok bytes := by
  cases hread : w.bytesOf path with
  | ok bytes => exact ⟨bytes, rfl⟩
  | error unread =>
    obtain ⟨checked, w₁, hchecked, h⟩ := bind_eq_iff.1 h
    unfold verifyChecksums at hchecked
    split at hchecked
    · rw [← (pure_eq_iff.1 hchecked).1] at h
      exact nomatch (pure_eq_iff.1 h).1
    · obtain ⟨matched, w₂, hmatched, hchecked⟩ := bind_eq_iff.1 hchecked
      rw [matchAll_of_unreadable hf hread hknown hmatched] at hchecked
      rw [← (pure_eq_iff.1 hchecked).1] at h
      cases (pure_eq_iff.1 h).1
      exact absurd rfl (hfault path unread)

/-- **A readable file that has its digests passes its verification.** -/
theorem verified_of_satisfies {bytes : Bytes} {checksums : Dict String} {updated : Bool}
    {r : Except FetchFault FetchResult} (hread : w.bytesOf path = .ok bytes)
    (hknown : knownAlgorithms checksums.pairs ≠ [])
    (hall : ∀ entry ∈ checksums.pairs, w.Satisfies path entry)
    (h : (verified checksums path updated : StateM (World ε) _) w = (r, w')) :
    ∃ result, r = .ok result := by
  obtain ⟨checked, w₁, hchecked, h⟩ := bind_eq_iff.1 h
  suffices hok : ∃ verification, checked = .ok verification by
    obtain ⟨verification, rfl⟩ := hok
    exact ⟨_, (pure_eq_iff.1 h).1.symm⟩
  unfold verifyChecksums at hchecked
  split at hchecked
  · exact ⟨_, (pure_eq_iff.1 hchecked).1.symm⟩
  · obtain ⟨matched, w₂, hmatched, hchecked⟩ := bind_eq_iff.1 hchecked
    obtain ⟨a, rest, hlist⟩ := List.exists_cons_of_ne_nil hknown
    rw [matchAll_of_satisfies hf hread hall hmatched, hlist] at hchecked
    exact ⟨_, (pure_eq_iff.1 hchecked).1.symm⟩

/-! ### Tags and bodies -/

theorem load_faultless {tag : Option String}
    (h : (EntityTag.load destination : StateM (World ε) _) w = (tag, w')) :
    tag = w.storedTag destination := by
  obtain ⟨found, w₁, hfound, h⟩ := bind_eq_iff.1 h
  obtain ⟨hmoves, hthere⟩ := has_cases hfound
  cases found with
  | false =>
    rw [storedTag, if_neg (mt hthere.2 Bool.false_ne_true)]
    exact (pure_eq_iff.1 h).1.symm
  | true =>
    rw [storedTag, if_pos (hthere.1 rfl)]
    obtain ⟨beside, w₂, hbeside, h⟩ := bind_eq_iff.1 h
    obtain ⟨hmoves₂, hthere₂⟩ := has_cases hbeside
    cases beside with
    | false =>
      -- A sidecar that is not there cannot be read.
      cases htext : w.textOf (sidecar destination) with
      | error fault => exact (pure_eq_iff.1 h).1.symm
      | ok text =>
        obtain ⟨bytes, hbytes, -⟩ := MemoryFiles.textOf_eq_ok htext
        refine absurd (hthere₂.2 (.inl ?_)) Bool.false_ne_true
        rw [hmoves.file_eq']
        exact Option.isSome_of_eq_some hbytes
    | true =>
      obtain ⟨read, w₃, hread, h⟩ := bind_eq_iff.1 h
      have htext := readText_faultless hf hread
      rw [textOf_congr ((hmoves.trans hmoves₂).bytesOf_eq _)] at htext
      rw [← htext]
      cases read with
      | error fault => exact (pure_eq_iff.1 h).1.symm
      | ok text => exact (pure_eq_iff.1 h).1.symm

theorem handOn_faultless {bytes : Bytes} {r : Except FetchFault Unit}
    (h : (handOn destination bytes : StateM (World ε) _) w = (r, w')) : r = .ok () := by
  unfold handOn at h
  split at h
  · exact (pure_eq_iff.1 h).1.symm
  · obtain ⟨appended, w₁, happended, h⟩ := bind_eq_iff.1 h
    rw [append_faultless hf happended] at h
    exact (pure_eq_iff.1 h).1.symm

theorem takeChunk_faultless {pending chunk : Bytes} {r : Except FetchFault Bytes}
    (h : (takeChunk destination pending chunk : StateM (World ε) _) w = (r, w')) :
    ∃ pending', r = .ok pending' := by
  obtain ⟨room, w₁, hroom, h⟩ := bind_eq_iff.1 h
  have hmade : room = .ok () := by
    split at hroom
    · exact handOn_faultless hf hroom
    · exact (pure_eq_iff.1 hroom).1.symm
  subst hmade
  by_cases hsmall : chunk.length < writeBuffer
  · simp only [if_pos hsmall] at h
    exact ⟨_, (pure_eq_iff.1 h).1.symm⟩
  · simp only [if_neg hsmall] at h
    obtain ⟨handed, w₂, hhanded, h⟩ := bind_eq_iff.1 h
    rw [handOn_faultless hf hhanded] at h
    exact ⟨_, (pure_eq_iff.1 h).1.symm⟩

/-- Chunks are written to their end if they do not break off. -/
theorem writeChunks_faultless {chunks : List Bytes} {pending : Bytes} {r : Except FetchFault Unit}
    (h : (writeChunks destination none pending chunks : StateM (World ε) _) w = (r, w')) :
    r = .ok () := by
  induction chunks generalizing w pending with
  | nil => exact handOn_faultless hf h
  | cons chunk rest ih =>
    obtain ⟨taken, w₁, htaken, h⟩ := bind_eq_iff.1 h
    obtain ⟨pending', rfl⟩ := takeChunk_faultless hf htaken
    exact ih h

/-- **A body that does not break off is written with its tag,** unless a directory stands in the
place of the file or its sidecar. -/
theorem writeBody_faultless {tag : String} {chunks : List Bytes} {r : Except FetchFault Unit}
    (h : (writeBody destination (some tag) ⟨chunks, none⟩ : StateM (World ε) _) w = (r, w')) :
    (r = .ok () ∧ destination.key ∉ w.dirs) ∨
      ∃ path ∈ [destination, sidecar destination], path.key ∈ w.dirs ∧
        ∃ fault, r = .error (.io path fault) := by
  obtain ⟨replaced, w₁, hreplaced, h⟩ := bind_eq_iff.1 h
  obtain ⟨written, w₂, hwritten, hreplaced⟩ := bind_eq_iff.1 hreplaced
  have hmoves := (write_cases hwritten).moves
  cases written with
  | error fault =>
    obtain ⟨rfl, rfl⟩ := pure_eq_iff.1 hreplaced
    have hdir := (write_faultless hf hwritten).resolve_left (fun hr => nomatch hr)
    exact .inr ⟨sidecar destination, by simp, hdir, fault, (pure_eq_iff.1 h).1.symm⟩
  | ok u =>
    obtain ⟨rfl, rfl⟩ := pure_eq_iff.1 hreplaced
    obtain ⟨created, w₃, hcreated, h⟩ := bind_eq_iff.1 h
    have hblocked := create_faultless hf hcreated
    rw [hmoves.dirs_eq] at hblocked
    cases create_cases hcreated with
    | failed fault moves =>
      have hdir := hblocked.resolve_left (fun hr => nomatch hr)
      exact .inr ⟨destination, by simp, hdir, fault, (pure_eq_iff.1 h).1.symm⟩
    | done hkey moves hnew =>
      exact .inl ⟨writeChunks_faultless hf h, hmoves.dirs_eq ▸ hkey⟩

end Faultless

end Depot
