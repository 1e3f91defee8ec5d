import Depot.Proofs.Files
import Depot.Fetch.Download

/-!
# Worlds

A world is all that a download meets: the files, in memory, and an outside about which nothing is
assumed. The outside answers every request as it likes, also in the light of all that has happened
before, it makes the draws, and before each file operation it may change the rules by which
operations fail on purpose. What is proved of all worlds is proved of all servers, of all networks
and of all patterns of failing operations.

A world keeps a record of the requests that were made, each with the state of the outside at that
moment.

## Main definitions

* `Outside` : what a download cannot foresee.
* `World`, `World.file`, `World.dirs` : the worlds, the content of a file, and the directories.
* `World.Lacks` : nothing stands at a path.
* `World.ask` : a request, which is written down.
* `World.Moves` : how a world may change: at given files, and by given requests.
* `World.Replaces` : the outcomes of giving a file new content.

## Main results

* `World.has_cases`, `World.readText_cases`, `World.write_cases` and their like : what each
  operation does.
-/

namespace Depot

/-- What a transport is asked for. -/
inductive Asked
  | url (url : String)
  | object (location : ObjectLocation)
  deriving DecidableEq, Repr

/-- What surrounds the files of a download: its answers to requests with a tag or without one, its
draws, what passes while a session waits, and the rules that it puts in the place of others before a
file operation. -/
class Outside (ε : Type) where
  answer : Asked → Option String → ε → Except FetchFault Reply × ε
  draw : ε → Rat × ε
  wait : Nat → ε → ε
  rules : List FaultRule → ε → List FaultRule × ε

/-- A request that was made, with the outside at its moment. -/
structure Call (ε : Type) where
  asked : Asked
  /-- The tag of a conditional request. -/
  tag : Option String
  moment : ε
  deriving DecidableEq

/-- The answer to a request. -/
def Call.answer {ε : Type} [Outside ε] (call : Call ε) : Except FetchFault Reply :=
  (Outside.answer call.asked call.tag call.moment).1

/-- Files, an outside, and the requests that were made so far. -/
structure World (ε : Type) where
  files : MemoryFiles
  outside : ε
  calls : List (Call ε)
  deriving DecidableEq

namespace World

variable {ε : Type} [Outside ε]

/-! ### Worlds as contexts of downloads -/

/-- An operation on the files of a world, under the rules that the outside puts in force. -/
def onFiles {α : Type} (run : StateM MemoryFiles α) : StateM (World ε) α := fun w =>
  let (rules, outside) := Outside.rules w.files.rules w.outside
  let (a, files) := run (w.files.withRules rules)
  (a, { w with files, outside })

/-- A request to the outside, which is written down. -/
def ask (asked : Asked) (tag : Option String) : StateM (World ε) (Except FetchFault Reply) := fun w =>
  let (answer, outside) := Outside.answer asked tag w.outside
  (answer, { w with outside, calls := w.calls ++ [⟨asked, tag, w.outside⟩] })

instance : FileStore (StateM (World ε)) where
  has p := onFiles (FileStore.has p)
  isFile p := onFiles (FileStore.isFile p)
  createDirs p := onFiles (FileStore.createDirs p)
  readText p := onFiles (FileStore.readText p)
  write p bytes := onFiles (FileStore.write p bytes)
  remove p := onFiles (FileStore.remove p)
  readBytes p := onFiles (FileStore.readBytes p)
  create p := onFiles (FileStore.create p)
  append p bytes := onFiles (FileStore.append p bytes)
  listDirs p := onFiles (FileStore.listDirs p)

instance : Clock (StateM (World ε)) where
  draw := fun w => ((Outside.draw w.outside).1, { w with outside := (Outside.draw w.outside).2 })
  wait ns := fun w => ((), { w with outside := Outside.wait ns w.outside })

instance : Transports (StateM (World ε)) where
  getUrl url := ask (.url url)
  getObject location := ask (.object location)

/-! ### Scripted outsides -/

/-- An outside that gives its answers one after the other and lets every file operation do its
work. -/
structure Script where
  answers : List (Except FetchFault Reply)

instance : Outside Script where
  answer _ _ script := (script.answers.headD (.error (.invalidUrl "")), ⟨script.answers.tail⟩)
  draw script := (0, script)
  wait _ script := script
  rules _ script := ([], script)

/-- A world without files before any request, with the answers of a script. -/
def scripted (answers : List (Except FetchFault Reply)) : World Script :=
  ⟨MemoryFiles.empty, ⟨answers⟩, []⟩

/-! ### Views -/

omit [Outside ε] in
/-- The content of a file. -/
def file (w : World ε) (key : PathKey) : Option Bytes :=
  w.files.files.get? key

omit [Outside ε] in
/-- The directories. -/
def dirs (w : World ε) : List PathKey :=
  w.files.dirs

omit [Outside ε] in
/-- Neither a file nor a directory stands at a path. -/
def Lacks (w : World ε) (path : Path) : Prop :=
  w.file path.key = none ∧ path.key ∉ w.dirs

omit [Outside ε] in
/-- The world with another outside. -/
def withOutside (w : World ε) (outside : ε) : World ε :=
  { w with outside }

/-- Only the files at `keys` may change from one world to the next, no file whose path names a
directory too does, and the requests that are made on the way are `made`. -/
structure Moves (keys : List PathKey) (made : List (Call ε)) (w w' : World ε) : Prop where
  file_eq : ∀ key ∉ keys, w'.file key = w.file key
  file_eq_of_dir : ∀ key ∈ w.dirs, w'.file key = w.file key
  dirs_eq : w'.dirs = w.dirs
  calls_eq : w'.calls = w.calls ++ made

namespace Moves

omit [Outside ε]

variable {keys keys' : List PathKey} {made made' : List (Call ε)} {w w' w'' : World ε}

theorem refl (w : World ε) : Moves [] [] w w :=
  ⟨fun _ _ => rfl, fun _ _ => rfl, rfl, (List.append_nil _).symm⟩

theorem mono (h : Moves keys made w w') (hk : keys ⊆ keys') : Moves keys' made w w' :=
  ⟨fun key hkey => h.file_eq key fun hmem => hkey (hk hmem), h.file_eq_of_dir, h.dirs_eq,
    h.calls_eq⟩

/-- A world that does not change at any file may be taken for one that changes at some. -/
theorem widen (h : Moves [] made w w') : Moves keys made w w' :=
  h.mono (List.nil_subset _)

theorem trans (h : Moves keys made w w') (h' : Moves keys made' w' w'') :
    Moves keys (made ++ made') w w'' where
  file_eq key hkey := (h'.file_eq key hkey).trans (h.file_eq key hkey)
  file_eq_of_dir key hdir :=
    (h'.file_eq_of_dir key (h.dirs_eq ▸ hdir)).trans (h.file_eq_of_dir key hdir)
  dirs_eq := h'.dirs_eq.trans h.dirs_eq
  calls_eq := by rw [h'.calls_eq, h.calls_eq, List.append_assoc]

theorem file_eq' (h : Moves [] made w w') (key : PathKey) : w'.file key = w.file key :=
  h.file_eq key List.not_mem_nil

/-- No file and no request depends on the outside. -/
theorem withOutside (w : World ε) (outside : ε) : Moves [] [] w (w.withOutside outside) :=
  ⟨fun _ _ => rfl, fun _ _ => rfl, rfl, (List.append_nil _).symm⟩

theorem of_same (h : w.files.Same w'.files) (hcalls : w'.calls = w.calls) : Moves [] [] w w' where
  file_eq key _ := congrArg (Assoc.get? · key) h.files
  file_eq_of_dir key _ := congrArg (Assoc.get? · key) h.files
  dirs_eq := h.dirs
  calls_eq := by rw [hcalls, List.append_nil]

end Moves

/-- The outcomes of an operation that gives the file at `key` the content `new`, or takes it away. -/
inductive Replaces (w : World ε) (key : PathKey) (new : Option Bytes) :
    Except IoFault Unit → World ε → Prop
  | done {w' : World ε} (hkey : key ∉ w.dirs) (moves : Moves [key] [] w w')
      (hnew : w'.file key = new) : Replaces w key new (.ok ()) w'
  | failed {w' : World ε} (fault : IoFault) (moves : Moves [] [] w w') :
      Replaces w key new (.error fault) w'

omit [Outside ε] in
theorem Replaces.moves {w w' : World ε} {key : PathKey} {new : Option Bytes}
    {r : Except IoFault Unit} (h : w.Replaces key new r w') : Moves [key] [] w w' := by
  cases h with
  | done hkey moves hnew => exact moves
  | failed fault moves => exact moves.widen

omit [Outside ε] in
theorem Replaces.of_files {w w' : World ε} {key : PathKey} {new : Option Bytes}
    {r : Except IoFault Unit} (h : w.files.Replaces key new r w'.files)
    (hcalls : w'.calls = w.calls) : w.Replaces key new r w' := by
  generalize hfiles : w'.files = files at h
  cases h with
  | done hkey hdirs hget =>
    have hother : ∀ k ≠ key, w'.file k = w.file k := fun k hk => by
      rw [file, hfiles, hget k, if_neg (Ne.symm hk), file]
    refine .done hkey ⟨fun k hk => hother k (by simpa using hk), fun k hk => ?_, ?_, ?_⟩ ?_
    · exact hother k fun e => hkey (e ▸ hk)
    · rw [dirs, hfiles, hdirs, dirs]
    · rw [hcalls, List.append_nil]
    · rw [file, hfiles, hget key, if_pos rfl]
  | failed fault h => exact .failed fault (.of_same (hfiles ▸ h) hcalls)

/-! ### Operations on the files of a world -/

variable {w w' : World ε} {p : Path}

/-- An operation on the files of a world is one on its files under some rules. -/
theorem onFiles_cases {α : Type} {run : StateM MemoryFiles α} {a : α}
    (h : onFiles run w = (a, w')) :
    run (w.files.withRules (Outside.rules w.files.rules w.outside).1) = (a, w'.files) ∧
      w'.calls = w.calls := by
  obtain ⟨rfl, rfl⟩ := Prod.ext_iff.1 h
  exact ⟨rfl, rfl⟩

theorem has_cases {found : Bool} (h : (FileStore.has p : StateM (World ε) _) w = (found, w')) :
    Moves [] [] w w' ∧ (found = true ↔ (w.file p.key).isSome ∨ p.key ∈ w.dirs) := by
  obtain ⟨hrun, hcalls⟩ := onFiles_cases h
  rw [MemoryFiles.has_eq] at hrun
  obtain ⟨rfl, hfiles⟩ := Prod.mk.inj hrun
  refine ⟨.of_same (hfiles ▸ MemoryFiles.same_withRules ..) hcalls, ?_⟩
  rw [Bool.or_eq_true, MemoryFiles.hasDir_iff]
  rfl

theorem isFile_cases {found : Bool}
    (h : (FileStore.isFile p : StateM (World ε) _) w = (found, w')) :
    Moves [] [] w w' ∧ found = (w.file p.key).isSome := by
  obtain ⟨hrun, hcalls⟩ := onFiles_cases h
  rw [MemoryFiles.isFile_eq] at hrun
  obtain ⟨rfl, hfiles⟩ := Prod.mk.inj hrun
  exact ⟨.of_same (hfiles ▸ MemoryFiles.same_withRules ..) hcalls, rfl⟩

theorem readText_cases {r : Except IoFault String}
    (h : (FileStore.readText p : StateM (World ε) _) w = (r, w')) :
    Moves [] [] w w' ∧ ∀ text, r = .ok text →
      ∃ bytes, w.file p.key = some bytes ∧ Bytes.toText? bytes = some text := by
  obtain ⟨hrun, hcalls⟩ := onFiles_cases h
  obtain ⟨hsame, htext⟩ := MemoryFiles.readText_cases hrun
  exact ⟨.of_same ((MemoryFiles.same_withRules ..).trans hsame) hcalls, htext⟩

theorem readBytes_cases {r : Except IoFault Bytes}
    (h : (FileStore.readBytes p : StateM (World ε) _) w = (r, w')) :
    Moves [] [] w w' ∧ ∀ bytes, r = .ok bytes → w.file p.key = some bytes := by
  obtain ⟨hrun, hcalls⟩ := onFiles_cases h
  obtain ⟨hsame, hbytes⟩ := MemoryFiles.readBytes_cases hrun
  exact ⟨.of_same ((MemoryFiles.same_withRules ..).trans hsame) hcalls, hbytes⟩

theorem write_cases {bytes : Bytes} {r : Except IoFault Unit}
    (h : (FileStore.write p bytes : StateM (World ε) _) w = (r, w')) :
    w.Replaces p.key (some bytes) r w' := by
  obtain ⟨hrun, hcalls⟩ := onFiles_cases h
  exact .of_files (.of_same (MemoryFiles.same_withRules ..) (MemoryFiles.replaces_write hrun)) hcalls

theorem create_cases {r : Except IoFault Unit}
    (h : (FileStore.create p : StateM (World ε) _) w = (r, w')) :
    w.Replaces p.key (some []) r w' := by
  obtain ⟨hrun, hcalls⟩ := onFiles_cases h
  exact .of_files (.of_same (MemoryFiles.same_withRules ..) (MemoryFiles.replaces_create hrun)) hcalls

theorem append_cases {bytes : Bytes} {r : Except IoFault Unit} (hdir : p.key ∉ w.dirs)
    (h : (FileStore.append p bytes : StateM (World ε) _) w = (r, w')) :
    w.Replaces p.key (some ((w.file p.key).getD [] ++ bytes)) r w' := by
  obtain ⟨hrun, hcalls⟩ := onFiles_cases h
  generalize (Outside.rules w.files.rules w.outside).1 = rules at hrun
  have hreplaces := MemoryFiles.replaces_append (s := w.files.withRules rules) hdir hrun
  exact .of_files (.of_same (MemoryFiles.same_withRules ..) hreplaces) hcalls

theorem remove_cases {r : Except IoFault Unit}
    (h : (FileStore.remove p : StateM (World ε) _) w = (r, w')) :
    w.Replaces p.key none r w' := by
  obtain ⟨hrun, hcalls⟩ := onFiles_cases h
  exact .of_files (.of_same (MemoryFiles.same_withRules ..) (MemoryFiles.replaces_remove hrun)) hcalls

/-- Creating a directory touches no file and makes no request, and adds no directory with a longer
key. -/
theorem createDirs_cases {r : Except IoFault Unit}
    (h : (FileStore.createDirs p : StateM (World ε) _) w = (r, w')) :
    (∀ key, w'.file key = w.file key) ∧ w'.calls = w.calls ∧
      ∀ key, p.key.length < key.length → (key ∈ w'.dirs ↔ key ∈ w.dirs) := by
  obtain ⟨hrun, hcalls⟩ := onFiles_cases h
  obtain ⟨hfiles, hdirs⟩ := MemoryFiles.createDirs_cases hrun
  exact ⟨fun key => congrArg (Assoc.get? · key) hfiles, hcalls, hdirs⟩

/-- Creating a directory removes none. -/
theorem dirs_subset_of_createDirs {r : Except IoFault Unit}
    (h : (FileStore.createDirs p : StateM (World ε) _) w = (r, w')) : w.dirs ⊆ w'.dirs := by
  obtain ⟨hrun, -⟩ := onFiles_cases h
  obtain ⟨-, added, -, hdirs⟩ := MemoryFiles.createDirs_adds hrun
  exact fun key hkey => (hdirs key).2 (.inl hkey)

/-! ### Removals that no rule is against -/

/-- No rule of the outside is against removing files. -/
def SparesRemoval (ε : Type) [Outside ε] : Prop :=
  ∀ (rules : List FaultRule) (outside : ε), ∀ rule ∈ (Outside.rules rules outside).1,
    rule.op ≠ .remove

theorem sparesRemoval_script : SparesRemoval Script :=
  fun _ _ rule hrule => by cases hrule

/-- Where no rule is against it, a removal leaves no file behind, unless its path names a directory
too. -/
theorem file_of_remove (hs : SparesRemoval ε) (hdir : p.key ∉ w.dirs) {r : Except IoFault Unit}
    (h : (FileStore.remove p : StateM (World ε) _) w = (r, w')) : w'.file p.key = none := by
  obtain ⟨hrun, -⟩ := onFiles_cases h
  have hrules := hs w.files.rules w.outside
  generalize (Outside.rules w.files.rules w.outside).1 = rules at hrun hrules
  cases remove_cases h with
  | done hkey moves hnew => exact hnew
  | failed fault moves =>
    rw [moves.file_eq']
    cases hfile : w.file p.key with
    | none => rfl
    | some bytes =>
      have hthere : w.files.hasFile p.key := congrArg Option.isSome hfile
      cases MemoryFiles.remove_eq_ok (s := w.files.withRules rules) hrules hdir hthere hrun

end World

end Depot
