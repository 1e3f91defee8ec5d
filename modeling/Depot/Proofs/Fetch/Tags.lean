import Mathlib.Data.Set.Defs
import Depot.Proofs.Fetch.Faultless

/-!
# Tags kept over time

The tags of some files, under a sequence of operations on them, in a world where no operation fails.
Each file has a text kept beside it, and the operations act on these texts as on a map: a store sets
the text of its file, forgetting and discarding unset it, and nothing else happens to any of them. A
tag that is loaded is read off this map, while the file is there.

The map is one of files, not of spellings: paths with the same key are the same file. The sequence
is written with the latest operation first. Between the operations the world may change as it likes,
at the files themselves too, but for the sidecars.

## Main definitions

* `TagOp`, `TagOp.run` : the operations, and what they do.
* `TagOp.kept`, `textAfter` : the text that is kept after one operation, and after all.
* `AreDestinations` : files none of which is the sidecar of another.
* `Tagged` : the worlds that operations on the tags of such files lead to.

## Main results

* `TagOp.run_cases` : what one operation changes.
* `Tagged.keptText_eq` : what stands beside a file is the text that the map holds.
* `tags_refine` : operations on tags are those of a map.
-/

namespace Depot

open World

/-- What is done with the tag of a file. -/
inductive TagOp
  | load
  | store (tag : String)
  | forget
  | discard
  deriving DecidableEq, Repr

namespace TagOp

/-- An operation on the tag of a file, without its answer. -/
def run {m : Type → Type} [Monad m] [FileStore m] (destination : Path) : TagOp → m Unit
  | load => do let _ ← EntityTag.load destination
  | store tag => do let _ ← EntityTag.store destination tag
  | forget => EntityTag.forget destination
  | discard => EntityTag.discard destination

/-- The text that is kept for a file after an operation on its tag, if `text` was kept before. -/
def kept (text : Option String) : TagOp → Option String
  | load => text
  | store tag => some tag
  | forget => none
  | discard => none

/-- The files that an operation may change. -/
def touched (destination : Path) : TagOp → List PathKey
  | load => []
  | store _ => [(sidecar destination).key]
  | forget => [(sidecar destination).key]
  | discard => [destination.key, (sidecar destination).key]

end TagOp

/-- The text that is kept for a file after some operations, the latest one first. The latest one on
this file that is not a mere load decides. -/
def textAfter (start : Option String) (destination : Path) : List (Path × TagOp) → Option String
  | [] => start
  | (d, op) :: earlier =>
    if d.key = destination.key then op.kept (textAfter start destination earlier)
    else textAfter start destination earlier

variable {ε : Type} {w w' : World ε} {destination : Path}

/-! ### What stands beside a file -/

namespace World

/-- The text beside a file, if one can be read there. -/
def keptText (w : World ε) (destination : Path) : Option String :=
  (w.textOf (sidecar destination)).toOption

theorem keptText_of_notMem_dirs (hdir : (sidecar destination).key ∉ w.dirs) :
    w.keptText destination = (w.file (sidecar destination).key).bind Bytes.toText? := by
  unfold keptText textOf MemoryFiles.textOf MemoryFiles.bytesOf file
  rw [if_neg (mt MemoryFiles.hasDir_iff.1 hdir)]
  cases w.files.files.get? (sidecar destination).key with
  | none => rfl
  | some bytes =>
    simp only [Except.bind, Option.bind_some]
    cases Bytes.toText? bytes <;> rfl

theorem storedTag_eq_some_iff (hdir : destination.key ∉ w.dirs) {tag : String} :
    w.storedTag destination = some tag ↔ (w.file destination.key).isSome ∧ tag ≠ "" ∧
      ∃ text, w.keptText destination = some text ∧ Text.trim text = tag := by
  unfold storedTag
  by_cases hfile : (w.file destination.key).isSome
  · rw [if_pos (.inl hfile), Option.filter_eq_some_iff, Option.map_eq_some_iff, decide_eq_true_iff]
    exact ⟨fun ⟨htext, hne⟩ => ⟨hfile, hne, htext⟩, fun ⟨_, hne, htext⟩ => ⟨htext, hne⟩⟩
  · rw [if_neg (not_or.2 ⟨hfile, hdir⟩)]
    exact iff_of_false nofun fun h => hfile h.1

end World

variable [Outside ε]

theorem Faultless.sparesRemoval (hf : Faultless ε) : SparesRemoval ε := by
  intro rules outside rule hrule
  rw [hf] at hrule
  cases hrule

/-! ### One operation -/

namespace TagOp

variable (hf : Faultless ε)

/-- The world after an operation. -/
def after (op : TagOp) (destination : Path) (w : World ε) : World ε :=
  ((op.run destination : StateM (World ε) Unit) w).2

theorem discard_eq (w : World ε) : (EntityTag.discard destination : StateM (World ε) _) w =
    ((), discard.after destination w) :=
  rfl

include hf in
/-- A tag is kept wherever a file can stand. -/
theorem store_eq_ok (hdir : (sidecar destination).key ∉ w.dirs) (tag : String) :
    ∃ w', (EntityTag.store destination tag : StateM (World ε) _) w = (.ok (), w') ∧
      w'.file (sidecar destination).key = some (Bytes.ofText tag) := by
  obtain ⟨written, w', hwritten⟩ : ∃ written w', (FileStore.write (sidecar destination)
      (Bytes.ofText tag) : StateM (World ε) _) w = (written, w') := ⟨_, _, rfl⟩
  obtain rfl := (write_faultless hf hwritten).resolve_right hdir
  have hstore : (EntityTag.store destination tag : StateM (World ε) _) w = (.ok (), w') :=
    bind_eq_iff.2 ⟨_, _, hwritten, rfl⟩
  exact ⟨w', hstore, (EntityTag.store_cases hstore).2 rfl⟩

include hf in
/-- An operation changes the files that it may change alone, and it leaves the text beside its file
that is to be kept. -/
theorem run_cases (hd : destination.fileName?.isSome) (hdir : (sidecar destination).key ∉ w.dirs)
    (op : TagOp) :
    Moves (op.touched destination) [] w (op.after destination w) ∧
      (op.after destination w).keptText destination = op.kept (w.keptText destination) := by
  cases op with
  | load =>
    have hmoves : Moves [] [] w (load.after destination w) := (EntityTag.load_cases rfl).1
    refine ⟨hmoves, ?_⟩
    rw [keptText, textOf_congr (hmoves.bytesOf_eq _)]
    rfl
  | store tag =>
    obtain ⟨w', hstore, hnew⟩ := store_eq_ok hf hdir tag
    have hafter : (store tag).after destination w = w' := congrArg Prod.snd hstore
    rw [hafter]
    obtain ⟨hmoves, -⟩ := EntityTag.store_cases hstore
    refine ⟨hmoves, ?_⟩
    rw [keptText_of_notMem_dirs (hmoves.dirs_eq ▸ hdir), hnew]
    exact Bytes.toText?_ofText tag
  | forget =>
    have hrun : (EntityTag.removeIfThere (sidecar destination) : StateM (World ε) _) w =
        ((), forget.after destination w) := rfl
    obtain ⟨hmoves, -, hgone⟩ := EntityTag.removeIfThere_cases hrun
    refine ⟨hmoves, ?_⟩
    rw [keptText_of_notMem_dirs (hmoves.dirs_eq ▸ hdir), hgone hf.sparesRemoval hdir]
    rfl
  | discard =>
    obtain ⟨hmoves, hgone⟩ := EntityTag.discard_cases (key_ne_key_sidecar hd) (discard_eq w)
    refine ⟨hmoves, ?_⟩
    rw [keptText_of_notMem_dirs (hmoves.dirs_eq ▸ hdir), (hgone hf.sparesRemoval).2 hdir]
    rfl

end TagOp

/-! ### Files that do not get in each other's way -/

/-- Paths that end in a file name, none of which is the sidecar of another file of theirs. -/
structure AreDestinations (ds : Set Path) : Prop where
  named : ∀ d ∈ ds, d.fileName?.isSome
  apart : ∀ d ∈ ds, ∀ e ∈ ds, d.key ≠ e.key → d.key ≠ (sidecar e).key

namespace AreDestinations

variable {ds : Set Path} (hds : AreDestinations ds) {d e : Path} (hd : d ∈ ds) (he : e ∈ ds)

include hds hd he

/-- No sidecar is one of the files. -/
theorem key_ne : d.key ≠ (sidecar e).key := by
  by_cases hkey : d.key = e.key
  · rw [hkey]
    exact key_ne_key_sidecar (hds.named e he)
  · exact hds.apart d hd e he hkey

/-- An operation that keeps its file changes none of the files. -/
theorem notMem_touched {op : TagOp} (hop : op ≠ .discard) : d.key ∉ op.touched e := by
  have hne := hds.key_ne hd he
  cases op with
  | load => exact List.not_mem_nil
  | store tag => simpa [TagOp.touched] using hne
  | forget => simpa [TagOp.touched] using hne
  | discard => exact absurd rfl hop

/-- An operation on the tag of a file changes no other file and no sidecar of another. -/
theorem notMem_touched_of_ne (hkey : d.key ≠ e.key) (op : TagOp) :
    d.key ∉ op.touched e ∧ (sidecar d).key ∉ op.touched e := by
  have hne := hds.key_ne hd he
  have hne' := hds.key_ne he hd
  have hbeside := mt (key_sidecar_inj (hds.named d hd) (hds.named e he)).1 hkey
  cases op <;> simp [TagOp.touched, hkey, hne, hne'.symm, hbeside]

end AreDestinations

/-- No directory stands in the place of a file or of its sidecar. -/
def World.IsClear (w : World ε) (ds : Set Path) : Prop :=
  ∀ d ∈ ds, d.key ∉ w.dirs ∧ (sidecar d).key ∉ w.dirs

/-! ### Operations one after the other -/

/-- The worlds that operations on the tags of some files lead to, the latest operation first. In
between anything may happen that leaves the sidecars alone. -/
inductive Tagged (ds : Set Path) (w : World ε) : List (Path × TagOp) → World ε → Prop
  | start : Tagged ds w [] w
  | op {events : List (Path × TagOp)} {v : World ε} {d : Path} (op : TagOp)
      (h : Tagged ds w events v) (hd : d ∈ ds) : Tagged ds w ((d, op) :: events) (op.after d v)
  | others {events : List (Path × TagOp)} {v v' : World ε} (h : Tagged ds w events v)
      (hsidecars : ∀ d ∈ ds, v'.file (sidecar d).key = v.file (sidecar d).key)
      (hclear : v'.IsClear ds) : Tagged ds w events v'

variable {ds : Set Path} {events : List (Path × TagOp)}

/-- **What stands beside a file is the text that is to be kept** after all operations. -/
theorem Tagged.keptText_eq (hf : Faultless ε) (hds : AreDestinations ds) (hclear : w.IsClear ds)
    (h : Tagged ds w events w') :
    w'.IsClear ds ∧ ∀ d ∈ ds, w'.keptText d = textAfter (w.keptText d) d events := by
  induction h with
  | start => exact ⟨hclear, fun _ _ => rfl⟩
  | @op events v e op h he ih =>
    obtain ⟨hv, htext⟩ := ih
    obtain ⟨hmoves, hkept⟩ := TagOp.run_cases hf (hds.named e he) (hv e he).2 op
    have hclear' : (op.after e v).IsClear ds := fun d hd => by
      rw [hmoves.dirs_eq]
      exact hv d hd
    refine ⟨hclear', fun d hd => ?_⟩
    rw [textAfter]
    by_cases hkey : e.key = d.key
    · have hbeside := (key_sidecar_inj (hds.named e he) (hds.named d hd)).2 hkey
      have hsame : ∀ u : World ε, u.keptText d = u.keptText e := fun u => by
        unfold keptText textOf
        rw [hbeside]
      rw [if_pos hkey, ← htext d hd, hsame, hsame, hkept]
    · have huntouched := (hds.notMem_touched_of_ne hd he (Ne.symm hkey) op).2
      rw [if_neg hkey, ← htext d hd, keptText_of_notMem_dirs (hclear' d hd).2,
        keptText_of_notMem_dirs (hv d hd).2, hmoves.file_eq _ huntouched]
  | others h hsidecars hclear' ih =>
    obtain ⟨hv, htext⟩ := ih
    refine ⟨hclear', fun d hd => ?_⟩
    rw [← htext d hd, keptText_of_notMem_dirs (hclear' d hd).2, keptText_of_notMem_dirs (hv d hd).2,
      hsidecars d hd]

theorem load_eq_storedTag (hf : Faultless ε) (destination : Path) (w : World ε) :
    ((EntityTag.load destination : StateM (World ε) _) w).1 = w.storedTag destination :=
  load_faultless hf rfl

/-- **Operations on tags are those of a map.** After any of them, on files none of which is the sidecar
of another, a load gives the tag that was kept last for its file, trimmed and if it is not blank,
while the file is there. Storing and forgetting change no file, discarding takes away its file and
the sidecar of it and nothing else, and what is done to one file is not seen in the tag of another. -/
theorem tags_refine (hf : Faultless ε) (hds : AreDestinations ds) (hclear : w.IsClear ds)
    (h : Tagged ds w events w') {d : Path} (hd : d ∈ ds) :
    (∀ tag, ((EntityTag.load d : StateM (World ε) _) w').1 = some tag ↔
      (w'.file d.key).isSome ∧ tag ≠ "" ∧
        ∃ text, textAfter (w.keptText d) d events = some text ∧ Text.trim text = tag) ∧
    (∀ tag, ((EntityTag.store d tag : StateM (World ε) _) w').1 = .ok ()) ∧
    (∀ op ≠ TagOp.discard, ∀ e ∈ ds, (op.after d w').file e.key = w'.file e.key) ∧
    ((TagOp.discard.after d w').file d.key = none ∧
      (TagOp.discard.after d w').file (sidecar d).key = none ∧
      (∀ key, key ≠ d.key → key ≠ (sidecar d).key →
        (TagOp.discard.after d w').file key = w'.file key) ∧
      (TagOp.discard.after d w').dirs = w'.dirs) ∧
    ∀ op : TagOp, ∀ e ∈ ds, e.key ≠ d.key →
      ((EntityTag.load e : StateM (World ε) _) (op.after d w')).1 =
        ((EntityTag.load e : StateM (World ε) _) w').1 := by
  obtain ⟨hclear', htext⟩ := h.keptText_eq hf hds hclear
  obtain ⟨hdir, hdir'⟩ := hclear' d hd
  have hmoves := fun op => (TagOp.run_cases hf (hds.named d hd) hdir' op).1
  obtain ⟨hgone, hgone'⟩ := (EntityTag.discard_cases (key_ne_key_sidecar (hds.named d hd))
    (TagOp.discard_eq w')).2 hf.sparesRemoval
  refine ⟨fun tag => ?_, fun tag => ?_, fun op hop e he => ?_, ⟨hgone hdir, hgone' hdir',
    fun key hkey hbeside => ?_, (hmoves .discard).dirs_eq⟩, fun op e he hkey => ?_⟩
  · rw [load_eq_storedTag hf, storedTag_eq_some_iff hdir, htext d hd]
  · obtain ⟨v, hstore, -⟩ := TagOp.store_eq_ok hf hdir' tag
    exact congrArg Prod.fst hstore
  · exact (hmoves op).file_eq _ (hds.notMem_touched he hd hop)
  · exact (hmoves .discard).file_eq key (by simp [TagOp.touched, hkey, hbeside])
  · rw [load_eq_storedTag hf, load_eq_storedTag hf]
    obtain ⟨hfile, hbeside⟩ := hds.notMem_touched_of_ne he hd hkey op
    refine storedTag_congr fun path hpath => ⟨(hmoves op).file_eq _ ?_, by rw [(hmoves op).dirs_eq]⟩
    simp only [List.mem_cons, List.not_mem_nil, or_false] at hpath
    rcases hpath with rfl | rfl
    · exact hfile
    · exact hbeside

/-- Two files in a directory, the second of them with a tag. -/
def World.twoFiles : World Script :=
  ⟨⟨[(["out", "a"], [1]), (["out", "b"], [2]), (["out", "b.etag"], [118, 48])], [["out"]], []⟩,
    ⟨[]⟩, []⟩

theorem faultless_script : Faultless Script :=
  fun _ _ => rfl

theorem areDestinations_twoFiles : AreDestinations {⟨"out/a"⟩, ⟨"out//b"⟩} where
  named := by
    rintro d (rfl | rfl) <;> decide
  apart := by
    rintro d (rfl | rfl) e (rfl | rfl) _ <;> decide

theorem isClear_twoFiles : twoFiles.IsClear {⟨"out/a"⟩, ⟨"out//b"⟩} := by
  rintro d (rfl | rfl) <;> decide

theorem tags_refine_twoFiles :
    (Faultless Script ∧ AreDestinations {⟨"out/a"⟩, ⟨"out//b"⟩} ∧
      twoFiles.IsClear {⟨"out/a"⟩, ⟨"out//b"⟩}) ∧
    ((EntityTag.load ⟨"out/a"⟩ : StateM (World Script) _) (TagOp.discard.after ⟨"out//b"⟩
      ((TagOp.store " v1\n").after ⟨"out/a"⟩ twoFiles))).1 = some "v1" := by
  refine ⟨⟨faultless_script, areDestinations_twoFiles, isClear_twoFiles⟩, ?_⟩
  have hops : Tagged {⟨"out/a"⟩, ⟨"out//b"⟩} twoFiles
      [(⟨"out//b"⟩, .discard), (⟨"out/a"⟩, .store " v1\n")] _ :=
    .op .discard (.op (.store " v1\n") .start (.inl rfl)) (.inr rfl)
  exact ((tags_refine faultless_script areDestinations_twoFiles isClear_twoFiles hops
    (.inl rfl)).1 "v1").2 ⟨by decide, by decide, " v1\n", by decide, by decide⟩

end Depot
