import Depot.Files.Memory
import Depot.Proofs.Except

/-!
# What file operations leave behind

Every operation on files in memory either only looks at them, or gives one file new content, or
adds directories. An operation that fails changes nothing but the count of its rule. The lemmas
here say this once for each operation; nothing above them opens an operation again.

## Main definitions

* `MemoryFiles.Same` : stores with the same files and directories.
* `MemoryFiles.Replaces` : the outcomes of giving a file new content.

## Main results

* `MemoryFiles.replaces_write`, `MemoryFiles.replaces_create`, `MemoryFiles.replaces_append`,
  `MemoryFiles.replaces_remove` : the operations on one file.
* `MemoryFiles.createDirs_adds` : the directories that are added.
* `MemoryFiles.remove_eq_ok` : a removal without a rule against it fails only where there is no file
  to remove.
* `Bytes.toText?_ofText` : the text of the bytes of a text.
-/

namespace Depot

theorem Bytes.toText?_ofText (text : String) : Bytes.toText? (Bytes.ofText text) = some text := by
  simp only [Bytes.toText?, Bytes.ofText, String.toUTF8_eq_toByteArray, Array.toArray_toList]
  unfold String.fromUTF8?
  rw [dif_pos text.isValidUTF8]
  rfl

/-! ### Computations on a state -/

/-- A computation in two steps ends where its second step ends after the first. -/
theorem bind_eq_iff {σ α β : Type} {x : StateM σ α} {f : α → StateM σ β} {s s' : σ} {b : β} :
    (x >>= f) s = (b, s') ↔ ∃ a s₁, x s = (a, s₁) ∧ f a s₁ = (b, s') := by
  constructor
  · intro h
    exact ⟨(x s).1, (x s).2, rfl, h⟩
  · rintro ⟨a, s₁, hx, hf⟩
    change f (x s).1 (x s).2 = (b, s')
    rw [hx]
    exact hf

theorem pure_eq_iff {σ α : Type} {a b : α} {s s' : σ} :
    (pure a : StateM σ α) s = (b, s') ↔ a = b ∧ s = s' :=
  Prod.ext_iff

theorem exists_eq_of_snd {σ α : Type} {x : α × σ} {s : σ} (h : x.2 = s) : ∃ a, x = (a, s) :=
  ⟨x.1, Prod.ext rfl h⟩

theorem eq_of_toOption {σ φ α : Type} {x : Except φ α × σ} {a : α} (h : x.1.toOption = some a) :
    x = (.ok a, x.2) :=
  Prod.ext (eq_ok_of_toOption h) rfl

theorem eq_of_swap {σ φ α : Type} {x : Except φ α × σ} {fault : φ}
    (h : (match x.1 with | .error e => some e | .ok _ => none) = some fault) :
    x = (.error fault, x.2) :=
  Prod.ext (eq_error_of_swap h) rfl

namespace MemoryFiles

/-- Two stores with the same files and directories, whatever their rules are. -/
structure Same (s s' : MemoryFiles) : Prop where
  files : s'.files = s.files
  dirs : s'.dirs = s.dirs

theorem Same.refl (s : MemoryFiles) : s.Same s :=
  ⟨rfl, rfl⟩

/-- The store under other rules. -/
def withRules (s : MemoryFiles) (rules : List FaultRule) : MemoryFiles :=
  { s with rules }

theorem same_withRules (s : MemoryFiles) (rules : List FaultRule) : s.Same (s.withRules rules) :=
  ⟨rfl, rfl⟩

theorem Same.trans {s s' s'' : MemoryFiles} (h : s.Same s') (h' : s'.Same s'') : s.Same s'' :=
  ⟨h'.files.trans h.files, h'.dirs.trans h.dirs⟩

/-- The outcomes of an operation that gives the file at `key` the content `new`, or takes it away:
it does so, where `key` names no directory, or it fails and changes nothing. -/
inductive Replaces (s : MemoryFiles) (key : PathKey) (new : Option Bytes) :
    Except IoFault Unit → MemoryFiles → Prop
  | done {s' : MemoryFiles} (hkey : key ∉ s.dirs) (hdirs : s'.dirs = s.dirs)
      (hfiles : ∀ k, s'.files.get? k = if key = k then new else s.files.get? k) :
      Replaces s key new (.ok ()) s'
  | failed {s' : MemoryFiles} (fault : IoFault) (h : s.Same s') : Replaces s key new (.error fault) s'

theorem Replaces.of_same {s t : MemoryFiles} {key : PathKey} {new : Option Bytes}
    {r : Except IoFault Unit} {s' : MemoryFiles} (hs : s.Same t) (h : t.Replaces key new r s') :
    s.Replaces key new r s' := by
  cases h with
  | done hkey hdirs hfiles =>
    exact .done (hs.dirs ▸ hkey) (hdirs.trans hs.dirs) (hs.files ▸ hfiles)
  | failed fault h => exact .failed fault (hs.trans h)

@[simp] theorem hasFile_withRules (s : MemoryFiles) (rules : List FaultRule) (key : PathKey) :
    (s.withRules rules).hasFile key = s.hasFile key :=
  rfl

@[simp] theorem hasDir_withRules (s : MemoryFiles) (rules : List FaultRule) (key : PathKey) :
    (s.withRules rules).hasDir key = s.hasDir key :=
  rfl

theorem hasDir_iff {s : MemoryFiles} {key : PathKey} : s.hasDir key = true ↔ key ∈ s.dirs :=
  List.contains_iff_mem

/-! ### Operations under rules -/

variable {α : Type} {op : FileOp} {p : Path} {s s' : MemoryFiles}

/-- An operation under rules fails on purpose, or it is carried out. -/
theorem guarded_cases {run : StateM MemoryFiles (Except IoFault α)} {r : Except IoFault α}
    (h : guarded op p run s = (r, s')) :
    ∃ rules, (r = .error injected ∧ s' = s.withRules rules) ∨ run (s.withRules rules) = (r, s') := by
  refine ⟨(FaultRule.useFirst op p.key s.rules).2, ?_⟩
  simp only [guarded] at h
  split at h
  · exact .inl ⟨(Prod.ext_iff.1 h).1.symm, (Prod.ext_iff.1 h).2.symm⟩
  · exact .inr h

theorem useFirst_of_spared (key : PathKey) {rules : List FaultRule}
    (h : ∀ rule ∈ rules, rule.op ≠ op) : (FaultRule.useFirst op key rules).1 = false := by
  induction rules with
  | nil => rfl
  | cons rule rules ih =>
    have hrule : rule.applies op key = false := by
      simp [FaultRule.applies, h rule List.mem_cons_self]
    rw [FaultRule.useFirst, hrule]
    exact ih fun r hr => h r (List.mem_cons_of_mem _ hr)

/-- An operation that no rule is against is carried out. -/
theorem guarded_of_spared (run : StateM MemoryFiles (Except IoFault α))
    (h : ∀ rule ∈ s.rules, rule.op ≠ op) :
    ∃ rules, guarded op p run s = run (s.withRules rules) := by
  refine ⟨(FaultRule.useFirst op p.key s.rules).2, ?_⟩
  simp [guarded, useFirst_of_spared p.key h, withRules]

/-! ### Reading -/

theorem bytesOf_eq_ok {key : PathKey} {bytes : Bytes} (h : s.bytesOf key = .ok bytes) :
    key ∉ s.dirs ∧ s.files.get? key = some bytes := by
  unfold bytesOf at h
  split at h
  · cases h
  · next hdir =>
    refine ⟨mt hasDir_iff.2 hdir, ?_⟩
    split at h
    · next hfile => cases h; exact hfile
    · cases h

theorem textOf_eq_ok {key : PathKey} {text : String} (h : s.textOf key = .ok text) :
    ∃ bytes, s.files.get? key = some bytes ∧ Bytes.toText? bytes = some text := by
  unfold textOf at h
  match hbytes : s.bytesOf key with
  | .error fault => simp [hbytes, Except.bind] at h
  | .ok bytes =>
    refine ⟨bytes, (bytesOf_eq_ok hbytes).2, ?_⟩
    simp only [hbytes, Except.bind] at h
    split at h
    · next htext => cases h; exact htext
    · cases h

theorem has_eq : (FileStore.has p : StateM MemoryFiles _) s = (s.hasFile p.key || s.hasDir p.key, s) :=
  rfl

theorem isFile_eq : (FileStore.isFile p : StateM MemoryFiles _) s = (s.hasFile p.key, s) :=
  rfl

/-- A text that is read is that of the file. -/
theorem readText_cases {r : Except IoFault String}
    (h : (FileStore.readText p : StateM MemoryFiles _) s = (r, s')) :
    s.Same s' ∧ ∀ text, r = .ok text →
      ∃ bytes, s.files.get? p.key = some bytes ∧ Bytes.toText? bytes = some text := by
  obtain ⟨rules, ⟨rfl, rfl⟩ | hrun⟩ := guarded_cases h
  · exact ⟨s.same_withRules rules, fun text ht => by cases ht⟩
  · obtain ⟨rfl, rfl⟩ := Prod.ext_iff.1 hrun
    exact ⟨s.same_withRules rules, fun text ht => textOf_eq_ok ht⟩

/-- A file that holds the bytes of a text is read as the text, if no rule is against it. -/
theorem readText_of_spared {text : String} (hrules : ∀ rule ∈ s.rules, rule.op ≠ .readText)
    (h : s.bytesOf p.key = .ok (Bytes.ofText text)) :
    ((FileStore.readText p : StateM MemoryFiles _) s).1 = .ok text := by
  change (guarded .readText p (fun s => (s.textOf p.key, s)) s).1 = .ok text
  obtain ⟨rules, hrun⟩ := guarded_of_spared (fun s => (s.textOf p.key, s)) hrules
  have hsame : (s.withRules rules).bytesOf p.key = .ok (Bytes.ofText text) := h
  rw [hrun, textOf, hsame]
  simp only [Except.bind, Bytes.toText?_ofText]

/-- The bytes that are read are those of the file. -/
theorem readBytes_cases {r : Except IoFault Bytes}
    (h : (FileStore.readBytes p : StateM MemoryFiles _) s = (r, s')) :
    s.Same s' ∧ ∀ bytes, r = .ok bytes → s.files.get? p.key = some bytes := by
  change readBytes p s = (r, s') at h
  rw [readBytes] at h
  obtain ⟨rules, ⟨rfl, rfl⟩ | hrun⟩ := guarded_cases h
  · exact ⟨s.same_withRules rules, fun bytes hb => by cases hb⟩
  split at hrun
  · next bytes hbytes =>
    obtain ⟨rules', ⟨rfl, rfl⟩ | hread⟩ := guarded_cases hrun
    · exact ⟨s.same_withRules rules', fun bytes hb => by cases hb⟩
    · obtain ⟨rfl, rfl⟩ := Prod.ext_iff.1 hread
      refine ⟨s.same_withRules rules', ?_⟩
      rintro _ ⟨⟩
      exact (bytesOf_eq_ok hbytes).2
  · obtain ⟨rfl, rfl⟩ := Prod.ext_iff.1 hrun
    exact ⟨s.same_withRules rules, fun bytes hb => by cases hb⟩

/-! ### Writing and removing -/

theorem replaces_setUnlessDir {bytes : Bytes} {r : Except IoFault Unit}
    (h : setUnlessDir p bytes s = (r, s')) : s.Replaces p.key (some bytes) r s' := by
  unfold setUnlessDir at h
  split at h
  · obtain ⟨rfl, rfl⟩ := Prod.ext_iff.1 h
    exact .failed _ (.refl s)
  · next hdir =>
    obtain ⟨rfl, rfl⟩ := Prod.ext_iff.1 h
    exact .done (mt hasDir_iff.2 hdir) rfl fun k => Assoc.get?_insert ..

theorem Replaces.of_guarded {key : PathKey} {new : Option Bytes}
    {run : StateM MemoryFiles (Except IoFault Unit)} {r : Except IoFault Unit}
    (hrun : ∀ t, s.Same t → run t = (r, s') → t.Replaces key new r s')
    (h : guarded op p run s = (r, s')) : s.Replaces key new r s' := by
  obtain ⟨rules, ⟨rfl, rfl⟩ | h⟩ := guarded_cases h
  · exact .failed _ (s.same_withRules rules)
  · exact .of_same (s.same_withRules rules) (hrun _ (s.same_withRules rules) h)

theorem replaces_write {bytes : Bytes} {r : Except IoFault Unit}
    (h : (FileStore.write p bytes : StateM MemoryFiles _) s = (r, s')) :
    s.Replaces p.key (some bytes) r s' :=
  .of_guarded (fun _ _ => replaces_setUnlessDir) h

theorem replaces_create {r : Except IoFault Unit}
    (h : (FileStore.create p : StateM MemoryFiles _) s = (r, s')) :
    s.Replaces p.key (some []) r s' :=
  .of_guarded (fun _ _ => replaces_setUnlessDir) h

theorem replaces_append {bytes : Bytes} {r : Except IoFault Unit} (hdir : p.key ∉ s.dirs)
    (h : (FileStore.append p bytes : StateM MemoryFiles _) s = (r, s')) :
    s.Replaces p.key (some ((s.files.get? p.key).getD [] ++ bytes)) r s' := by
  change append p bytes s = (r, s') at h
  rw [append] at h
  refine .of_guarded (fun t hst hrun => ?_) h
  obtain ⟨rfl, rfl⟩ := Prod.ext_iff.1 hrun
  rw [← hst.files]
  exact .done (hst.dirs ▸ hdir) rfl fun k => Assoc.get?_insert ..

theorem replaces_remove {r : Except IoFault Unit}
    (h : (FileStore.remove p : StateM MemoryFiles _) s = (r, s')) :
    s.Replaces p.key none r s' := by
  change remove p s = (r, s') at h
  rw [remove] at h
  refine .of_guarded (fun t _ hrun => ?_) h
  split at hrun
  · obtain ⟨rfl, rfl⟩ := Prod.ext_iff.1 hrun
    exact .failed _ (.refl t)
  next hdir =>
  split at hrun
  · obtain ⟨rfl, rfl⟩ := Prod.ext_iff.1 hrun
    exact .done (mt hasDir_iff.2 hdir) rfl fun k => Assoc.get?_erase ..
  · obtain ⟨rfl, rfl⟩ := Prod.ext_iff.1 hrun
    exact .failed _ (.refl t)

/-- A file that no rule protects is removed, unless its path names a directory too. -/
theorem remove_eq_ok (hrules : ∀ rule ∈ s.rules, rule.op ≠ .remove) (hdir : p.key ∉ s.dirs)
    (hfile : s.hasFile p.key) {r : Except IoFault Unit}
    (h : (FileStore.remove p : StateM MemoryFiles _) s = (r, s')) : r = .ok () := by
  change remove p s = (r, s') at h
  rw [remove] at h
  obtain ⟨rules, hrun⟩ := guarded_of_spared _ hrules
  rw [hrun, hasDir_withRules, if_neg (mt hasDir_iff.1 hdir), hasFile_withRules, if_pos hfile] at h
  exact (Prod.ext_iff.1 h).1.symm

/-! ### Directories -/

theorem mem_addDirs {keys : List PathKey} {key : PathKey} :
    key ∈ (s.addDirs keys).dirs ↔ key ∈ s.dirs ∨ key ∈ keys := by
  induction keys generalizing s with
  | nil => simp [addDirs]
  | cons k keys ih =>
    by_cases hk : k ∈ s.dirs
    · have hsame : s.addDirs (k :: keys) = s.addDirs keys := by simp [addDirs, hk]
      rw [hsame, ih, List.mem_cons]
      constructor
      · exact Or.imp id .inr
      · rintro (h | rfl | h)
        · exact .inl h
        · exact .inl hk
        · exact .inr h
    · have hstep : s.addDirs (k :: keys) = { s with dirs := s.dirs ++ [k] }.addDirs keys := by
        simp [addDirs, hk]
      rw [hstep, ih, List.mem_append, List.mem_singleton, List.mem_cons, or_assoc]

theorem length_le_of_mem_ancestors : {key above : PathKey} → above ∈ PathKey.ancestors key →
    above.length ≤ key.length
  | c :: d :: rest, above, h => by
    rcases List.mem_cons.1 h with rfl | h
    · simp
    · obtain ⟨inner, hinner, rfl⟩ := List.mem_map.1 h
      simpa using length_le_of_mem_ancestors hinner

/-- Creating a directory touches no file and keeps all directories, and every directory that it adds
is that one or one above it. -/
theorem createDirs_adds {r : Except IoFault Unit}
    (h : (FileStore.createDirs p : StateM MemoryFiles _) s = (r, s')) :
    s'.files = s.files ∧ ∃ added : List PathKey, (∀ key ∈ added, key.length ≤ p.key.length) ∧
      ∀ key, key ∈ s'.dirs ↔ key ∈ s.dirs ∨ key ∈ added := by
  have hnone : ∀ rules, ∃ added : List PathKey, (∀ key ∈ added, key.length ≤ p.key.length) ∧
      ∀ key, key ∈ (s.withRules rules).dirs ↔ key ∈ s.dirs ∨ key ∈ added := fun rules =>
    ⟨[], List.forall_mem_nil _, fun key => (or_iff_left List.not_mem_nil).symm⟩
  change createDirs p s = (r, s') at h
  rw [createDirs] at h
  obtain ⟨rules, ⟨rfl, rfl⟩ | hrun⟩ := guarded_cases h
  · exact ⟨rfl, hnone rules⟩
  simp only at hrun
  split at hrun
  · obtain ⟨rfl, rfl⟩ := Prod.ext_iff.1 hrun
    exact ⟨rfl, hnone rules⟩
  split at hrun
  · obtain ⟨rfl, rfl⟩ := Prod.ext_iff.1 hrun
    exact ⟨rfl, hnone rules⟩
  · obtain ⟨rfl, rfl⟩ := Prod.ext_iff.1 hrun
    refine ⟨rfl, PathKey.ancestors p.key ++ [p.key], fun key hadded => ?_, fun _ => mem_addDirs⟩
    rcases List.mem_append.1 hadded with hadded | hadded
    · exact length_le_of_mem_ancestors hadded
    · exact Nat.le_of_eq (congrArg List.length (List.mem_singleton.1 hadded))

/-- No directory with a longer key than that of a new directory comes or goes. -/
theorem createDirs_cases {r : Except IoFault Unit}
    (h : (FileStore.createDirs p : StateM MemoryFiles _) s = (r, s')) :
    s'.files = s.files ∧ ∀ key, p.key.length < key.length → (key ∈ s'.dirs ↔ key ∈ s.dirs) := by
  obtain ⟨hfiles, added, hshort, hdirs⟩ := createDirs_adds h
  refine ⟨hfiles, fun key hlong => (hdirs key).trans (or_iff_left fun hadded => ?_)⟩
  have := hshort key hadded
  omega

end MemoryFiles

end Depot
