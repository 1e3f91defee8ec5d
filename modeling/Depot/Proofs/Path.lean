import Depot.Fetch.Download

/-!
# Keys of joined paths

A name below a directory adds one component to the key of the directory, whatever the spelling of
the directory is: with slashes at its end, with dots, relative or from the root. A path that ends in
a file name is spelled so, up to parts that say nothing, so that replacing the name replaces the last
component. The sidecar of a file stands beside it for that reason, it is another file, and two files
do not share one.

## Main definitions

* `Path.IsName` : the names that a file can have.
* `Path.dirKey` : the components of the parts in front of a name.

## Main results

* `Path.IsName.key_join` : the key of a name below a directory.
* `Path.key_withFileName` : the key of a path whose file name is replaced.
* `key_sidecar`, `key_ne_key_sidecar`, `key_sidecar_inj` : the sidecar of a file stands beside it, is
  another file, and belongs to it alone.
* `isName_contentAddress` : the name of a downloaded file is a name.
-/

namespace Depot

/-! ### Parts between separators -/

namespace Text

theorem splitAll_ne_nil (sep : Char) : (cs : List Char) → splitAll sep cs ≠ []
  | [] => by simp [splitAll]
  | c :: rest => by
    unfold splitAll
    split
    · exact List.cons_ne_nil _ _
    · split <;> exact List.cons_ne_nil _ _

theorem splitAll_of_notMem {sep : Char} {cs : List Char} (h : sep ∉ cs) :
    splitAll sep cs = [cs] := by
  induction cs with
  | nil => rfl
  | cons c rest ih =>
    rw [List.mem_cons, not_or] at h
    rw [splitAll, if_neg (Ne.symm h.1), ih h.2]

/-- A separator that is put between two texts cuts them apart. -/
theorem splitAll_append_cons (sep : Char) (cs ds : List Char) :
    splitAll sep (cs ++ sep :: ds) = splitAll sep cs ++ splitAll sep ds := by
  induction cs with
  | nil => simp [splitAll]
  | cons c rest ih =>
    by_cases hc : c = sep
    · simp [splitAll, hc, ih]
    · obtain ⟨part, parts, hrest⟩ := List.exists_cons_of_ne_nil (splitAll_ne_nil sep rest)
      simp [splitAll, hc, ih, hrest]

theorem notMem_of_mem_splitAll {sep : Char} {cs part : List Char} (h : part ∈ splitAll sep cs) :
    sep ∉ part := by
  induction cs generalizing part with
  | nil => simp_all [splitAll]
  | cons c rest ih =>
    obtain ⟨first, parts, hrest⟩ := List.exists_cons_of_ne_nil (splitAll_ne_nil sep rest)
    by_cases hc : c = sep
    · rw [splitAll, if_pos hc, List.mem_cons] at h
      rcases h with rfl | h
      · exact List.not_mem_nil
      · exact ih h
    · rw [splitAll, if_neg hc, hrest] at h
      rcases List.mem_cons.1 h with rfl | h
      · have hfirst : sep ∉ first := ih (hrest ▸ List.mem_cons_self)
        simp [hfirst, Ne.symm hc]
      · exact ih (hrest ▸ List.mem_cons_of_mem _ h)

theorem eq_nil_of_splitAll {sep : Char} : {cs : List Char} → splitAll sep cs = [[]] → cs = []
  | [], _ => rfl
  | c :: rest, h => by
    obtain ⟨part, parts, hrest⟩ := List.exists_cons_of_ne_nil (splitAll_ne_nil sep rest)
    by_cases hc : c = sep <;> simp [splitAll, hc, hrest] at h

/-- Parts without separators are found again after they have been put together. -/
theorem splitAll_intercalate {sep : Char} : {parts : List (List Char)} → parts ≠ [] →
    (∀ part ∈ parts, sep ∉ part) → splitAll sep ([sep].intercalate parts) = parts
  | [part], _, h => by
    rw [List.intercalate_singleton, splitAll_of_notMem (h part List.mem_cons_self)]
  | part :: next :: parts, _, h => by
    rw [List.intercalate_cons_cons, List.append_assoc, List.singleton_append,
      splitAll_append_cons, splitAll_of_notMem (h part List.mem_cons_self),
      splitAll_intercalate (List.cons_ne_nil _ _) fun p hp => h p (List.mem_cons_of_mem _ hp),
      List.singleton_append]

end Text

/-! ### Directories and names -/

namespace Path

/-- A name that a file can have: it is not empty, has no slash, and is neither a dot nor a double
dot. -/
structure IsName (name : String) : Prop where
  ne_empty : name ≠ ""
  ne_dot : name ≠ "."
  ne_dotdot : name ≠ ".."
  noSlash : '/' ∉ name.toList

/-- The components of the parts in front of a name. An empty first part is the root, also when it is
the only one. -/
def dirKey : List (List Char) → PathKey
  | [] => []
  | first :: rest =>
    (if first = [] then PathKey.root else String.ofList first) :: laterComponents rest

theorem keyOfParts_eq_dirKey {parts : List (List Char)} (h : parts ≠ [[]]) :
    keyOfParts parts = dirKey parts := by
  match parts with
  | [] => rfl
  | [] :: [] => exact absurd rfl h
  | [] :: _ :: _ => rfl
  | (_ :: _) :: _ => rfl

theorem laterComponents_append (parts more : List (List Char)) :
    laterComponents (parts ++ more) = laterComponents parts ++ laterComponents more := by
  simp [laterComponents]

theorem dirKey_append {parts : List (List Char)} (h : parts ≠ []) (more : List (List Char)) :
    dirKey (parts ++ more) = dirKey parts ++ laterComponents more := by
  obtain ⟨first, rest, rfl⟩ := List.exists_cons_of_ne_nil h
  simp [dirKey, laterComponents_append]

/-- Void parts behind the first one do not count. -/
theorem dirKey_append_void {parts : List (List Char)} (h : parts ≠ []) {part : List Char}
    (hp : isVoid part) : dirKey (parts ++ [part]) = dirKey parts := by
  rw [dirKey_append h]
  simp [laterComponents, hp]

/-- A part counts behind others if it is not void, and where there are no others. -/
theorem dirKey_concat {parts : List (List Char)} {part : List Char}
    (h : parts = [] ∨ isVoid part = false) :
    dirKey (parts ++ [part]) =
      dirKey parts ++ [if part = [] then PathKey.root else String.ofList part] := by
  by_cases hparts : parts = []
  · subst hparts
    rfl
  · have hvoid := h.resolve_left hparts
    have hpart : part ≠ [] := by
      rintro rfl
      cases hvoid
    rw [dirKey_append hparts, if_neg hpart]
    simp [laterComponents, hvoid]

/-- Leaving out the void parts at the end does not change what the parts name. -/
theorem dirKey_dropVoid (above : List (List Char)) :
    dirKey (dropVoid above).reverse = dirKey above.reverse := by
  induction above with
  | nil => rfl
  | cons part parts ih =>
    match parts with
    | [] => rfl
    | next :: rest =>
      by_cases hp : isVoid part
      · rw [dropVoid, if_pos hp, ih, List.reverse_cons (a := part)]
        · exact (dirKey_append_void (by simp) hp).symm
        · exact List.cons_ne_nil _ _
      · rw [dropVoid, if_neg hp]
        exact List.cons_ne_nil _ _

theorem mem_of_mem_dropVoid {part : List Char} : {parts : List (List Char)} →
    part ∈ dropVoid parts → part ∈ parts
  | [first], h => h
  | first :: next :: rest, h => by
    rw [dropVoid] at h
    · split at h
      · exact List.mem_cons_of_mem _ (mem_of_mem_dropVoid h)
      · exact h
    · exact List.cons_ne_nil _ _

/-- The path that some parts spell has the components of these parts. -/
theorem key_ofParts {above : List (List Char)} (h : ∀ part ∈ above, '/' ∉ part) :
    (ofParts above).key = dirKey above := by
  by_cases hroot : above = [[]]
  · subst hroot
    decide
  by_cases hnil : above = []
  · subst hnil
    decide
  have htext : (ofParts above).text.toList = ['/'].intercalate above := by
    simp [ofParts, String.toList_intercalate, Function.comp_def]
  rw [key, parts, htext, Text.splitAll_intercalate hnil h, keyOfParts_eq_dirKey hroot]

namespace IsName

variable {name : String} (h : IsName name)

include h

theorem toList_ne_nil : name.toList ≠ [] :=
  mt String.toList_eq_nil_iff.1 h.ne_empty

theorem not_isVoid : isVoid name.toList = false := by
  have hdot : name.toList ≠ ['.'] := fun hn => h.ne_dot (String.toList_inj.1 hn)
  simp [isVoid, h.toList_ne_nil, hdot]

theorem ne_root : name ≠ PathKey.root := by
  rintro rfl
  exact h.noSlash (by decide)

theorem dirKey_append (parts : List (List Char)) :
    dirKey (parts ++ [name.toList]) = dirKey parts ++ [name] := by
  rw [dirKey_concat (.inr h.not_isVoid), if_neg h.toList_ne_nil, String.ofList_toList]

theorem isRelative : (Path.mk name).isAbsolute = false := by
  match hn : name.toList with
  | [] => exact absurd hn h.toList_ne_nil
  | c :: rest =>
    have hc : c ≠ '/' := fun hc => h.noSlash (by simp [hn, hc])
    simp [isAbsolute, hn, hc]

/-- The parts of a name below a directory, and what those in front of the name say of the
directory. -/
theorem parts_join (dir : Path) :
    ∃ above, (dir.join name).parts = above ++ [name.toList] ∧ dir.key = dirKey above := by
  have hlone : Text.splitAll '/' name.toList = [name.toList] := Text.splitAll_of_notMem h.noSlash
  by_cases hempty : dir.text = ""
  · refine ⟨[], ?_, ?_⟩
    · simp [join, h.isRelative, hempty, parts, hlone]
    · simp [key, parts, hempty, Text.splitAll, keyOfParts, dirKey]
  by_cases hslash : dir.text.toList.getLast? = some '/'
  · obtain ⟨above, htext⟩ := List.getLast?_eq_some_iff.1 hslash
    refine ⟨Text.splitAll '/' above, ?_, ?_⟩
    · simp [join, h.isRelative, parts, htext, Text.splitAll_append_cons, hlone]
    · have hparts : dir.parts = Text.splitAll '/' above ++ [[]] := by
        rw [parts, htext, Text.splitAll_append_cons]
        rfl
      have hne : Text.splitAll '/' above ≠ [] := Text.splitAll_ne_nil _ _
      rw [key, hparts, keyOfParts_eq_dirKey (by simp [hne]), dirKey_append_void hne rfl]
  · refine ⟨dir.parts, ?_, ?_⟩
    · simp [join, h.isRelative, hempty, hslash, parts, Text.splitAll_append_cons, hlone]
    · refine keyOfParts_eq_dirKey fun hparts => hempty ?_
      exact String.toList_eq_nil_iff.1 (Text.eq_nil_of_splitAll hparts)

/-- **A name below a directory adds one component to its key.** -/
theorem key_join (dir : Path) : (dir.join name).key = dir.key ++ [name] := by
  obtain ⟨above, hparts, hdir⟩ := h.parts_join dir
  rw [key, hparts, keyOfParts_eq_dirKey, h.dirKey_append, hdir]
  intro hone
  have hlast := congrArg List.getLast? hone
  rw [List.getLast?_concat] at hlast
  exact h.toList_ne_nil (by simpa using hlast)

theorem fileName?_join (dir : Path) : (dir.join name).fileName? = some name := by
  rw [fileName?, h.key_join, List.getLast?_concat]
  simp [h.ne_root, h.ne_dot, h.ne_dotdot]

end IsName

/-! ### The name of a file -/

section Named

variable {p : Path} {name : String}

/-- What is left of some parts without the void ones is a lone part, or ends in one that is not
void. -/
theorem dropVoid_eq_cons {part : List Char} {above : List (List Char)} :
    {parts : List (List Char)} → dropVoid parts = part :: above → above = [] ∨ isVoid part = false
  | [first], h => .inl (List.cons.inj h).2.symm
  | first :: next :: rest, h => by
    rw [dropVoid] at h
    · split at h
      · exact dropVoid_eq_cons h
      · next hvoid =>
        obtain ⟨rfl, -⟩ := List.cons.inj h
        exact .inr (Bool.eq_false_iff.2 hvoid)
    · exact List.cons_ne_nil _ _

theorem notMem_of_mem_dropVoid {part : List Char} (h : part ∈ dropVoid p.parts.reverse) :
    '/' ∉ part := by
  have hparts : part ∈ p.parts := by simpa using mem_of_mem_dropVoid h
  exact Text.notMem_of_mem_splitAll hparts

/-- A path with a file name ends in a part that spells it, up to void parts. -/
theorem dropVoid_of_fileName? (h : p.fileName? = some name) :
    IsName name ∧ ∃ above, dropVoid p.parts.reverse = name.toList :: above ∧
      p.key = dirKey above.reverse ++ [name] := by
  obtain ⟨hlast, hplain⟩ := Option.filter_eq_some_iff.1 h
  simp only [Bool.and_eq_true, bne_iff_ne] at hplain
  obtain ⟨⟨hroot, hdot⟩, hdotdot⟩ := hplain
  have hsome : p.parts ≠ [[]] := fun hparts => by
    rw [key, hparts] at hlast
    cases hlast
  have hkey : p.key = dirKey (dropVoid p.parts.reverse).reverse := by
    rw [dirKey_dropVoid, List.reverse_reverse, key, keyOfParts_eq_dirKey hsome]
  cases hdrop : dropVoid p.parts.reverse with
  | nil =>
    rw [hkey, hdrop] at hlast
    cases hlast
  | cons part above =>
    rw [hdrop, List.reverse_cons] at hkey
    have hend : above.reverse = [] ∨ isVoid part = false :=
      (dropVoid_eq_cons hdrop).imp_left List.reverse_eq_nil_iff.2
    rw [dirKey_concat hend] at hkey
    rw [hkey, List.getLast?_concat, Option.some_inj] at hlast
    have hpart : part ≠ [] := fun hpart => hroot (by rw [← hlast, if_pos hpart])
    rw [if_neg hpart] at hkey hlast
    obtain rfl : part = name.toList := by rw [← hlast, String.toList_ofList]
    rw [hlast] at hkey
    have hslash : '/' ∉ name.toList := notMem_of_mem_dropVoid (hdrop ▸ List.mem_cons_self)
    exact ⟨⟨mt String.toList_eq_nil_iff.2 hpart, hdot, hdotdot, hslash⟩, above, rfl, hkey⟩

/-- The path above a file is spelled by the parts in front of the name. -/
theorem parent?_of_fileName? (h : p.fileName? = some name) :
    ∃ dir, p.parent? = some dir ∧ p.key = dir.key ++ [name] := by
  obtain ⟨hname, above, hdrop, hkey⟩ := dropVoid_of_fileName? h
  have hslash : ∀ part ∈ (dropVoid above).reverse, '/' ∉ part := fun part hpart =>
    notMem_of_mem_dropVoid
      (hdrop ▸ List.mem_cons_of_mem _ (mem_of_mem_dropVoid (List.mem_reverse.1 hpart)))
  refine ⟨ofParts (dropVoid above).reverse, ?_, ?_⟩
  · obtain ⟨c, cs, hcons⟩ := List.exists_cons_of_ne_nil hname.toList_ne_nil
    rw [parent?, hdrop, hcons]
  · rw [key_ofParts hslash, dirKey_dropVoid, hkey]

/-- **Replacing the name of a file replaces the last component of its key.** -/
theorem key_withFileName (h : p.fileName? = some name) :
    ∃ above, p.key = above ++ [name] ∧
      ∀ other, IsName other → (p.withFileName other).key = above ++ [other] := by
  obtain ⟨dir, hparent, hkey⟩ := parent?_of_fileName? h
  refine ⟨dir.key, hkey, fun other ho => ?_⟩
  rw [withFileName, h, hparent]
  exact ho.key_join dir

end Named

end Path

/-! ### Sidecars -/

theorem length_add_etag (name : String) : (name ++ ".etag").length = name.length + 5 := by
  rw [String.length_append]
  rfl

theorem Path.IsName.etag {name : String} (h : Path.IsName name) :
    Path.IsName (name ++ ".etag") where
  ne_empty := by simp
  ne_dot hn := by
    have hlength := congrArg String.length hn
    rw [length_add_etag, show ".".length = 1 from rfl] at hlength
    omega
  ne_dotdot hn := by
    have hlength := congrArg String.length hn
    rw [length_add_etag, show "..".length = 2 from rfl] at hlength
    omega
  noSlash := by simpa using h.noSlash

/-- The sidecar of a file stands beside it, and its name is longer. -/
theorem key_sidecar {destination : Path} (h : destination.fileName?.isSome) :
    ∃ above name, destination.key = above ++ [name] ∧
      (sidecar destination).key = above ++ [name ++ ".etag"] := by
  obtain ⟨name, hname⟩ := Option.isSome_iff_exists.1 h
  obtain ⟨above, hkey, hother⟩ := Path.key_withFileName hname
  refine ⟨above, name, hkey, ?_⟩
  rw [sidecar, hname]
  exact hother _ (Path.dropVoid_of_fileName? hname).1.etag

/-- No file is its own sidecar. -/
theorem key_ne_key_sidecar {destination : Path} (h : destination.fileName?.isSome) :
    destination.key ≠ (sidecar destination).key := by
  obtain ⟨above, name, hkey, hsidecar⟩ := key_sidecar h
  rw [hkey, hsidecar]
  intro heq
  have hname : name = name ++ ".etag" := by simpa using heq
  have hlength := congrArg String.length hname
  rw [length_add_etag] at hlength
  omega

/-- **Two files have the same sidecar only if they are the same.** -/
theorem key_sidecar_inj {d e : Path} (hd : d.fileName?.isSome) (he : e.fileName?.isSome) :
    (sidecar d).key = (sidecar e).key ↔ d.key = e.key := by
  obtain ⟨above, name, hkey, hsidecar⟩ := key_sidecar hd
  obtain ⟨above', name', hkey', hsidecar'⟩ := key_sidecar he
  simp [hkey, hkey', hsidecar, hsidecar']

/-- The sidecar of a file below a directory stands there too. -/
theorem key_sidecar_join {name : String} (h : Path.IsName name) (dir : Path) :
    (sidecar (dir.join name)).key = dir.key ++ [name ++ ".etag"] := by
  obtain ⟨above, name', hkey, hsidecar⟩ :=
    key_sidecar (Option.isSome_of_eq_some (h.fileName?_join dir))
  rw [h.key_join] at hkey
  obtain ⟨rfl, hname⟩ := List.append_inj' hkey rfl
  rw [hsidecar, List.singleton_inj.1 hname]

theorem key_sidecar_join_ne {name : String} (h : Path.IsName name) (dir : Path) :
    (dir.join name).key ≠ (sidecar (dir.join name)).key :=
  key_ne_key_sidecar (Option.isSome_of_eq_some (h.fileName?_join dir))

/-! ### The name of a download -/

namespace Digest

theorem hexDigit_ne_slash_dot {n : Nat} (h : n < 16) : hexDigit n ≠ '/' ∧ hexDigit n ≠ '.' := by
  revert h
  revert n
  decide

theorem notMem_hexText {c : Char} (h : ∀ n < 16, hexDigit n ≠ c) (bytes : Bytes) :
    c ∉ (hexText bytes).toList := by
  simp only [hexText, String.toList_ofList, List.mem_flatMap, not_exists, not_and, hexByte]
  intro b _ hc
  have hb := b.toNat_lt
  rcases List.mem_cons.1 hc with hc | hc
  · exact h (b.toNat / 16) (by omega) hc.symm
  · exact h (b.toNat % 16) (by omega) (List.mem_singleton.1 hc).symm

theorem length_hexText (bytes : Bytes) : (hexText bytes).toList.length = 2 * bytes.length := by
  induction bytes with
  | nil => rfl
  | cons b rest ih =>
    simp only [hexText, String.toList_ofList, List.flatMap_cons, List.length_append] at ih ⊢
    rw [ih, hexByte, List.length_cons, List.length_singleton, List.length_cons]
    omega

end Digest

/-- The name under which a download is kept can be the name of a file. -/
theorem isName_contentAddress (source : String) : Path.IsName (contentAddress source) := by
  have hlength : (contentAddress source).toList.length = 40 := by
    rw [contentAddress, Digest.length_hexText, Digest.Sha1.length_digest]
  have hdot : '.' ∉ (contentAddress source).toList :=
    Digest.notMem_hexText (fun _ hn => (Digest.hexDigit_ne_slash_dot hn).2) _
  refine ⟨fun hn => ?_, fun hn => ?_, fun hn => ?_, ?_⟩
  · rw [hn] at hlength
    exact absurd hlength (by decide)
  · exact hdot (hn ▸ by decide)
  · exact hdot (hn ▸ by decide)
  · exact Digest.notMem_hexText (fun _ hn => (Digest.hexDigit_ne_slash_dot hn).1) _

end Depot
