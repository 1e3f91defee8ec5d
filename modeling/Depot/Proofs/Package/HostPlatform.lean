import Depot.Package.HostPlatform
import Depot.Proofs.Files
import Depot.Proofs.Text
import Depot.Proofs.Text.Blank

/-!
# Files that tell the platform

The fields of a host can be written in many ways: in lines `KEY=value` with blanks around every
part, with values bare or between quotation marks of one of two kinds, and with blank lines, comments
and lines without an equals sign in between. However they are written, every key has the last value
that was written for it, and no other key has one. A bare value must not look as if it stood between
quotation marks; everything else may stand in it, marks, number signs and equals signs too.

A carriage return at the end of a line is a blank like any other, so that lines may end in either
way.

## Main definitions

* `OsRelease.Spells` : the ways to write a value.
* `OsRelease.WritesField`, `OsRelease.WritesNothing` : the lines that write a field, and those that
  write none.
* `OsRelease.WrittenIn` : the texts in which fields are written.
* `OsRelease.IsLast` : the last value of a key.
* `OsRelease.Detects` : what is detected of a host, by its fields.

## Main results

* `OsRelease.unquoted_of_spells` : what is read of a value.
* `OsRelease.field?_of_writesField` : what is read of a line.
* `OsRelease.parse_eq` : what is read of a text.
* `OsRelease.detect_writtenIn` : written fields are read back, and the host is told by them.
-/

namespace Depot

open Text (isBlank trimChars IsTrimmed)

namespace OsRelease

/-! ### Values -/

/-- A text is a value between quotation marks. -/
inductive IsQuoted (value : List Char) : List Char → Prop
  | double : IsQuoted value ('"' :: value ++ ['"'])
  | single : IsQuoted value ('\'' :: value ++ ['\''])

/-- The ways to write a value: between quotation marks, whatever it is, or bare, if it has no blanks
at its ends and does not look as if it were between quotation marks. -/
inductive Spells (value : List Char) : List Char → Prop
  | quoted {cs : List Char} (h : IsQuoted value cs) : Spells value cs
  | bare (htrimmed : IsTrimmed value) (hplain : ∀ inner, ¬IsQuoted inner value) : Spells value value

variable {mark c : Char} {cs inner key value line : List Char}

theorem IsQuoted.marks (h : IsQuoted value cs) :
    (cs.head? = some '"' ∨ cs.head? = some '\'') ∧ cs.length = value.length + 2 := by
  cases h with
  | double => exact ⟨.inl rfl, by simp⟩
  | single => exact ⟨.inr rfl, by simp⟩

theorem between?_eq_some_iff : between? mark cs = some inner ↔ cs = mark :: inner ++ [mark] := by
  cases cs with
  | nil => simp [between?]
  | cons c rest =>
    rw [between?, List.cons_append, List.cons.injEq]
    constructor
    · intro h
      split_ifs at h with hmarks
      obtain ⟨hc, hlast⟩ := hmarks
      obtain ⟨front, rfl⟩ := List.getLast?_eq_some_iff.1 hlast
      rw [List.dropLast_concat, Option.some.injEq] at h
      exact ⟨hc, by rw [h]⟩
    · rintro ⟨rfl, rfl⟩
      rw [if_pos ⟨rfl, List.getLast?_concat⟩, List.dropLast_concat]

theorem unquoted_of_isQuoted (h : IsQuoted value cs) : unquoted cs = value := by
  unfold unquoted
  cases h with
  | double => rw [between?_eq_some_iff.2 rfl, Option.some_or, Option.getD_some]
  | single =>
    have hdouble : between? '"' ('\'' :: value ++ ['\'']) = none := rfl
    rw [hdouble, between?_eq_some_iff.2 rfl, Option.none_or, Option.getD_some]

theorem unquoted_of_not_isQuoted (h : ∀ inner, ¬IsQuoted inner cs) : unquoted cs = cs := by
  have hdouble : between? '"' cs = none := Option.eq_none_iff_forall_ne_some.2 fun inner heq =>
    h inner (between?_eq_some_iff.1 heq ▸ .double)
  have hsingle : between? '\'' cs = none := Option.eq_none_iff_forall_ne_some.2 fun inner heq =>
    h inner (between?_eq_some_iff.1 heq ▸ .single)
  unfold unquoted
  rw [hdouble, hsingle, Option.none_or, Option.getD_none]

/-- **What is read of a value** that is written in one of the ways is the value. -/
theorem unquoted_of_spells (h : Spells value cs) : unquoted cs = value := by
  cases h with
  | quoted h => exact unquoted_of_isQuoted h
  | bare htrimmed hplain => exact unquoted_of_not_isQuoted hplain

theorem isTrimmed_around_marks (h : isBlank mark = false) (cs : List Char) :
    IsTrimmed (mark :: cs ++ [mark]) := by
  have hmark : IsTrimmed [mark] := Text.isTrimmed_of_forall (by simpa using h)
  exact hmark.around hmark (List.cons_ne_nil _ _) (List.cons_ne_nil _ _) cs

theorem isTrimmed_of_spells (h : Spells value cs) : IsTrimmed cs := by
  cases h with
  | quoted h =>
    cases h with
    | double => exact isTrimmed_around_marks (by decide) value
    | single => exact isTrimmed_around_marks (by decide) value
  | bare htrimmed hplain => exact htrimmed

theorem lineFeed_notMem_of_spells (h : Spells value cs) (hvalue : '\n' ∉ value) : '\n' ∉ cs := by
  cases h with
  | quoted h => cases h <;> simpa using hvalue
  | bare htrimmed hplain => exact hvalue

/-! ### Lines -/

/-- A key that can stand on a line. -/
structure IsKey (key : List Char) : Prop where
  ne_nil : key ≠ []
  trimmed : IsTrimmed key
  noEquals : '=' ∉ key
  noLineFeed : '\n' ∉ key
  noComment : key.head? ≠ some '#'

theorem isKey_of_forall (hne : key ≠ [])
    (h : ∀ c ∈ key, isBlank c = false ∧ c ≠ '=' ∧ c ≠ '#') : IsKey key where
  ne_nil := hne
  trimmed := Text.isTrimmed_of_forall fun c hc => (h c hc).1
  noEquals hmem := (h _ hmem).2.1 rfl
  noLineFeed hmem := absurd (h _ hmem).1 (by decide)
  noComment hhead := (h _ (List.mem_of_head? hhead)).2.2 rfl

/-- The lines that write a field: its key, an equals sign and its value, with blanks around each of
them. -/
inductive WritesField (key value : List Char) : List Char → Prop
  | mk {front before after back cs : List Char} (hfront : IsGap front) (hbefore : IsGap before)
      (hafter : IsGap after) (hback : IsGap back) (hvalue : Spells value cs) :
    WritesField key value (front ++ (key ++ before ++ '=' :: (after ++ cs)) ++ back)

/-- The lines that write no field: blank ones, comments, and those without an equals sign. -/
inductive WritesNothing : List Char → Prop
  | blank {gap : List Char} (hgap : IsGap gap) : WritesNothing gap
  | comment {gap cs : List Char} (hgap : IsGap gap) (h : '\n' ∉ cs) :
    WritesNothing (gap ++ '#' :: cs)
  | noEquals {line : List Char} (h : '=' ∉ line) (hline : '\n' ∉ line) : WritesNothing line

/-- The lines in which some fields are written in their order, each on one line. -/
inductive AreWrittenIn : List (String × String) → List (List Char) → Prop
  | nil : AreWrittenIn [] []
  | nothing {fields : List (String × String)} {line : List Char} {lines : List (List Char)}
      (hline : WritesNothing line) (h : AreWrittenIn fields lines) :
    AreWrittenIn fields (line :: lines)
  | field {fields : List (String × String)} {key value : String} {line : List Char}
      {lines : List (List Char)} (hline : WritesField key.toList value.toList line)
      (h : AreWrittenIn fields lines) : AreWrittenIn ((key, value) :: fields) (line :: lines)

/-- The texts in which some fields are written in their order. -/
def WrittenIn (fields : List (String × String)) (text : String) : Prop :=
  ∃ lines, text.toList = ['\n'].intercalate lines ∧ AreWrittenIn fields lines

theorem field?_of_writesNothing (h : WritesNothing line) : field? line = none := by
  unfold field?
  cases h with
  | blank hgap =>
    have hnone : trimChars line = [] := by
      rw [trimChars, Text.trimLeft_eq_nil hgap.blank]
      rfl
    rw [hnone]
    rfl
  | @comment gap cs hgap h =>
    have hsign : trimChars (gap ++ '#' :: cs) = '#' :: Text.trimRight cs := by
      have hhead : ∀ c ∈ ('#' :: cs).head?, isBlank c = false := by simp; decide
      rw [trimChars, Text.trimLeft_append hgap.blank, Text.trimLeft_of_head hhead,
        Text.trimRight_cons (by decide)]
    rw [hsign]
    rfl
  | noEquals h hline =>
    dsimp only
    rw [Text.splitOnce_of_notMem (mt Text.mem_of_mem_trimChars h), Option.map_none, ite_self]

/-- What is left of a line that writes a field when it is trimmed: nothing is taken from between the
key and a value, and for an empty value the blanks behind the equals sign are taken too. -/
theorem trimChars_writing {front after back : List Char} (before : List Char) (hkey : IsKey key)
    (hfront : IsGap front) (hafter : IsGap after) (hback : IsGap back) (hcs : IsTrimmed cs) :
    ∃ rest, trimChars (front ++ (key ++ before ++ '=' :: (after ++ cs)) ++ back) =
      key ++ before ++ '=' :: rest ∧ trimChars rest = cs := by
  cases cs with
  | nil =>
    have hequals : IsTrimmed ['='] :=
      Text.isTrimmed_of_forall (List.forall_mem_singleton.2 (by decide))
    have hends : IsTrimmed (key ++ before ++ ['=']) :=
      hkey.trimmed.around hequals hkey.ne_nil (List.cons_ne_nil _ _) _
    have hblank : ∀ c ∈ after ++ back, isBlank c := fun c hc =>
      (List.mem_append.1 hc).elim (hafter.blank c) (hback.blank c)
    refine ⟨[], ?_, rfl⟩
    have htrim := Text.trimChars_append hfront.blank hblank hends
    simpa using htrim
  | cons c cs =>
    have hends : IsTrimmed (key ++ (before ++ '=' :: after) ++ c :: cs) :=
      hkey.trimmed.around hcs hkey.ne_nil (List.cons_ne_nil _ _) _
    have htrim := Text.trimChars_append hfront.blank hback.blank hends
    have hvalue : trimChars (after ++ c :: cs ++ []) = c :: cs :=
      Text.trimChars_append hafter.blank (by simp) hcs
    rw [List.append_nil] at hvalue
    exact ⟨after ++ c :: cs, by simpa using htrim, hvalue⟩

/-- **What is read of a line** that writes a field is the field. -/
theorem field?_of_writesField (h : WritesField key value line) (hkey : IsKey key) :
    field? line = some (String.ofList key, String.ofList value) := by
  obtain @⟨front, before, after, back, cs, hfront, hbefore, hafter, hback, hvalue⟩ := h
  obtain ⟨rest, htrim, hrest⟩ :=
    trimChars_writing before hkey hfront hafter hback (isTrimmed_of_spells hvalue)
  obtain ⟨c, key', rfl⟩ := List.exists_cons_of_ne_nil hkey.ne_nil
  have hsign : c ≠ '#' := fun hc => hkey.noComment (by rw [hc]; rfl)
  have hequals : '=' ∉ c :: key' ++ before := fun hmem =>
    (List.mem_append.1 hmem).elim hkey.noEquals fun hmem =>
      absurd (hbefore.blank _ hmem) (by decide)
  have hkeyTrim : trimChars (c :: key' ++ before) = c :: key' := by
    have htrim : trimChars ([] ++ c :: key' ++ before) = c :: key' :=
      Text.trimChars_append (by simp) hbefore.blank hkey.trimmed
    rwa [List.nil_append] at htrim
  unfold field?
  dsimp only
  rw [htrim, if_neg (by simpa using hsign), Text.splitOnce_append_cons _ hequals, Option.map_some,
    hkeyTrim, hrest, unquoted_of_spells hvalue]

theorem field?_dropReturn (line : List Char) : field? (Text.dropReturn line) = field? line := by
  rcases Text.dropReturn_cases line with h | h
  · rw [h]
  · have htrim : trimChars (Text.dropReturn line ++ ['\r']) = trimChars (Text.dropReturn line) :=
      Text.trimChars_concat _ (by decide)
    rw [← h] at htrim
    unfold field?
    rw [htrim]

/-! ### Texts -/

variable {fields : List (String × String)} {lines : List (List Char)} {text : String}

/-- Fields that can stand on lines. -/
structure ArePlain (fields : List (String × String)) : Prop where
  key : ∀ field ∈ fields, IsKey field.1.toList
  value : ∀ field ∈ fields, '\n' ∉ field.2.toList

theorem ArePlain.tail {field : String × String} (h : ArePlain (field :: fields)) :
    ArePlain fields where
  key other hother := h.key other (List.mem_cons_of_mem _ hother)
  value other hother := h.value other (List.mem_cons_of_mem _ hother)

theorem filterMap_field? (h : AreWrittenIn fields lines) (hplain : ArePlain fields) :
    lines.filterMap field? = fields := by
  induction h with
  | nil => rfl
  | nothing hline _ ih => rw [List.filterMap_cons, field?_of_writesNothing hline, ih hplain]
  | @field fields key value line lines hline _ ih =>
    have hkey := hplain.key _ List.mem_cons_self
    rw [List.filterMap_cons, field?_of_writesField hline hkey, ih hplain.tail,
      String.ofList_toList, String.ofList_toList]

theorem lineFeed_notMem (h : AreWrittenIn fields lines) (hplain : ArePlain fields) :
    ∀ line ∈ lines, '\n' ∉ line := by
  induction h with
  | nil => nofun
  | nothing hline _ ih =>
    refine List.forall_mem_cons.2 ⟨?_, ih hplain⟩
    cases hline with
    | blank hgap => exact hgap.noLineFeed
    | comment hgap h => simp [hgap.noLineFeed, h]
    | noEquals h hline => exact hline
  | field hline _ ih =>
    have hkey := (hplain.key _ List.mem_cons_self).noLineFeed
    have hvalue := hplain.value _ List.mem_cons_self
    obtain ⟨hfront, hbefore, hafter, hback, hspells⟩ := hline
    refine List.forall_mem_cons.2 ⟨?_, ih hplain.tail⟩
    simp [hfront.noLineFeed, hkey, hbefore.noLineFeed, hafter.noLineFeed,
      lineFeed_notMem_of_spells hspells hvalue, hback.noLineFeed]

/-- **What is read of a text** in which fields are written is the dictionary of the fields. -/
theorem parse_eq (h : WrittenIn fields text) (hplain : ArePlain fields) :
    parse text = Dict.ofList fields := by
  obtain ⟨lines, htext, hlines⟩ := h
  unfold parse
  rw [htext, Text.filterMap_lines rfl field?_dropReturn (lineFeed_notMem hlines hplain),
    filterMap_field? hlines hplain]

/-! ### The last value of a key -/

/-- A value is the last one of a key. -/
def IsLast (fields : List (String × String)) (key value : String) : Prop :=
  ∃ before after, fields = before ++ (key, value) :: after ∧ ∀ field ∈ after, field.1 ≠ key

theorem isLast_cons {field : String × String} {key value : String} :
    IsLast (field :: fields) key value ↔
      IsLast fields key value ∨ field = (key, value) ∧ ∀ other ∈ fields, other.1 ≠ key := by
  constructor
  · rintro ⟨before, after, heq, hafter⟩
    cases before with
    | nil =>
      obtain ⟨rfl, rfl⟩ := List.cons.inj heq
      exact .inr ⟨rfl, hafter⟩
    | cons first before =>
      obtain ⟨rfl, rfl⟩ := List.cons.inj heq
      exact .inl ⟨before, after, rfl, hafter⟩
  · rintro (⟨before, after, rfl, hafter⟩ | ⟨rfl, hafter⟩)
    · exact ⟨field :: before, after, rfl, hafter⟩
    · exact ⟨[], fields, rfl, hafter⟩

theorem get?_foldl_insert_eq_some_iff {d : Dict String} {key value : String} :
    (fields.foldl (fun d (key, value) => d.insert key value) d).get? key = some value ↔
      IsLast fields key value ∨ (∀ field ∈ fields, field.1 ≠ key) ∧ d.get? key = some value := by
  induction fields generalizing d with
  | nil => simp [IsLast]
  | cons field fields ih =>
    obtain ⟨k, v⟩ := field
    rw [List.foldl_cons, ih, isLast_cons, List.forall_mem_cons, Dict.get?_insert]
    by_cases hk : k = key <;> simp [hk, and_comm]

/-- **A dictionary of a list of fields** has the last value of each key, and no other keys. -/
theorem get?_ofList_eq_some_iff {key value : String} :
    (Dict.ofList fields).get? key = some value ↔ IsLast fields key value := by
  rw [Dict.ofList, get?_foldl_insert_eq_some_iff]
  simp

theorem IsLast.unique {key value value' : String} (h : IsLast fields key value)
    (h' : IsLast fields key value') : value = value' :=
  Option.some.inj ((get?_ofList_eq_some_iff.2 h).symm.trans (get?_ofList_eq_some_iff.2 h'))

/-! ### The host -/

/-- What is detected of a host with an architecture, by its fields: the platform in small letters and
the version of its operating system. The first of the two fields that is not there or is empty is
the fault. -/
inductive Detects (fields : List (String × String)) (arch : String) :
    Except ManifestFault HostPlatform → Prop
  | found {id version : String} (hid : IsLast fields "ID" id) (hne : id ≠ "")
      (hversion : IsLast fields "VERSION_ID" version) (hne' : version ≠ "") :
    Detects fields arch (.ok ⟨Unicode.lowercase id, version, arch⟩)
  | noPlatform (h : ∀ id, IsLast fields "ID" id → id = "") :
    Detects fields arch (.error (.detection .platform (.missingField "ID")))
  | noVersion {id : String} (hid : IsLast fields "ID" id) (hne : id ≠ "")
      (h : ∀ version, IsLast fields "VERSION_ID" version → version = "") :
    Detects fields arch (.error (.detection .osVersion (.missingField "VERSION_ID")))

theorem field_cases (fields : List (String × String)) (dimension : Dimension) (name : String) :
    (∃ value, IsLast fields name value ∧ value ≠ "" ∧
        field (Dict.ofList fields) dimension name = .ok value) ∨
      (∀ value, IsLast fields name value → value = "") ∧
        field (Dict.ofList fields) dimension name =
          .error (.detection dimension (.missingField name)) := by
  unfold field
  cases hvalue : (Dict.ofList fields).get? name with
  | none =>
    refine .inr ⟨fun value hlast => ?_, rfl⟩
    cases hvalue.symm.trans (get?_ofList_eq_some_iff.2 hlast)
  | some value =>
    have hlast := get?_ofList_eq_some_iff.1 hvalue
    by_cases hne : value = ""
    · refine .inr ⟨fun other hother => (hother.unique hlast).trans hne, ?_⟩
      rw [Option.filter_some_neg (by simp [hne])]
    · refine .inl ⟨value, hlast, hne, ?_⟩
      rw [Option.filter_some_pos (by simp [hne])]

/-- A host is told by its fields in one of these ways. -/
theorem detects_platform (h : WrittenIn fields text) (hplain : ArePlain fields) (arch : String) :
    Detects fields arch ((platform text).map fun (p, v) => ⟨p, v, arch⟩) := by
  unfold platform
  rw [parse_eq h hplain]
  rcases field_cases fields .platform "ID" with ⟨id, hid, hne, hfield⟩ | ⟨hnone, hfield⟩
  · rcases field_cases fields .osVersion "VERSION_ID" with
      ⟨v, hv, hne', hfield'⟩ | ⟨hnone', hfield'⟩
    · simp only [hfield, hfield', bind, Except.bind]
      exact .found hid hne hv hne'
    · simp only [hfield, hfield', bind, Except.bind]
      exact .noVersion hid hne hnone'
  · simp only [hfield, bind, Except.bind]
    exact .noPlatform hnone

/-- A host is told in one way alone. -/
theorem Detects.unique {arch : String} {r r' : Except ManifestFault HostPlatform}
    (h : Detects fields arch r) (h' : Detects fields arch r') : r = r' := by
  cases h with
  | found hid hne hversion hne' =>
    cases h' with
    | found hid' _ hversion' _ => rw [hid.unique hid', hversion.unique hversion']
    | noPlatform hnone => exact absurd (hnone _ hid) hne
    | noVersion _ _ hnone => exact absurd (hnone _ hversion) hne'
  | noPlatform hnone =>
    cases h' with
    | found hid' hne' _ _ => exact absurd (hnone _ hid') hne'
    | noPlatform _ => rfl
    | noVersion hid' hne' _ => exact absurd (hnone _ hid') hne'
  | noVersion hid hne hnone =>
    cases h' with
    | found _ _ hversion' hne' => exact absurd (hnone _ hversion') hne'
    | noPlatform hnone' => exact absurd (hnone' _ hid) hne
    | noVersion _ _ _ => rfl

variable {σ : Type} [FileStore (StateM σ)]

theorem detect_eq {archName arch : String} {s : σ} (harch : manifestArch? archName = some arch)
    (hread : ((FileStore.readText path : StateM σ _) s).1 = .ok text) :
    ((HostPlatform.detect archName : StateM σ _) s).1 =
      (platform text).map fun (p, v) => ⟨p, v, arch⟩ := by
  cases hrun : (HostPlatform.detect archName : StateM σ _) s with
  | mk result s' =>
    unfold HostPlatform.detect at hrun
    simp only [harch] at hrun
    obtain ⟨read, s₁, hread', hrun⟩ := bind_eq_iff.1 hrun
    obtain rfl : read = .ok text := by rw [← hread, hread']
    exact (pure_eq_iff.1 hrun).1.symm

/-- **Written fields are read back,** whatever the layout. Every key has the last value that was
written for it, and no other key has one; and a host of a known architecture is told by just these
fields. -/
theorem detect_writtenIn (hplain : ArePlain fields) (h : WrittenIn fields text) :
    (∀ key value, (parse text).get? key = some value ↔ IsLast fields key value) ∧
    ∀ (archName arch : String) (s : σ), manifestArch? archName = some arch →
      ((FileStore.readText path : StateM σ _) s).1 = .ok text →
      ∀ result, ((HostPlatform.detect archName : StateM σ _) s).1 = result ↔
        Detects fields arch result := by
  refine ⟨fun key value => ?_, fun archName arch s harch hread result => ?_⟩
  · rw [parse_eq h hplain, get?_ofList_eq_some_iff]
  · have hdetects := detects_platform h hplain arch
    rw [detect_eq harch hread]
    exact ⟨fun heq => heq ▸ hdetects, hdetects.unique⟩

/-- Fields with a key that is written twice, and a value that is a lone quotation mark. -/
def ubuntuFields : List (String × String) :=
  [("ID", "debian"), ("NAME", "it's \"A=B\" #1 "), ("ID", "Ubuntu"), ("MARK", "\""),
    ("VERSION_ID", "22.04")]

/-- The fields of `ubuntuFields`, with both ends of lines. -/
def ubuntuText : String :=
  "# ID=none\r\nID=debian\nNAME = \"it's \"A=B\" #1 \"\n\n\tID\t=Ubuntu \r\n" ++
    "MARK=\"\r\nno field\nVERSION_ID='22.04'"

theorem arePlain_ubuntuFields : ArePlain ubuntuFields where
  key field hfield := by
    have hkeys : ∀ field ∈ ubuntuFields, field.1.toList ≠ [] ∧
        field.1.toList.all fun c => !isBlank c && c != '=' && c != '#' := by decide
    obtain ⟨hne, hall⟩ := hkeys field hfield
    exact isKey_of_forall hne (by simpa [and_assoc] using hall)
  value := by decide

theorem writtenIn_ubuntuText : WrittenIn ubuntuFields ubuntuText := by
  have hnone : IsGap [] := ⟨nofun, by decide⟩
  have hspace : IsGap [' '] := ⟨Text.forall_mem_of_all (by decide), by decide⟩
  have htab : IsGap ['\t'] := ⟨Text.forall_mem_of_all (by decide), by decide⟩
  have hreturn : IsGap ['\r'] := ⟨Text.forall_mem_of_all (by decide), by decide⟩
  have hback : IsGap [' ', '\r'] := ⟨Text.forall_mem_of_all (by decide), by decide⟩
  have hdebian : Spells "debian".toList "debian".toList :=
    .bare (Text.isTrimmed_of_forall (Text.forall_mem_of_all (by decide)))
      fun inner h => absurd h.marks.1 (by decide)
  have hubuntu : Spells "Ubuntu".toList "Ubuntu".toList :=
    .bare (Text.isTrimmed_of_forall (Text.forall_mem_of_all (by decide)))
      fun inner h => absurd h.marks.1 (by decide)
  have hmark : Spells "\"".toList "\"".toList :=
    .bare (Text.isTrimmed_of_forall (Text.forall_mem_of_all (by decide)))
      fun inner h => absurd h.marks.2 (by simp)
  have hcomment : WritesNothing ([] ++ '#' :: " ID=none\r".toList) := .comment hnone (by decide)
  have hnoEquals : WritesNothing "no field".toList := .noEquals (by decide) (by decide)
  refine ⟨_, ?_, .nothing hcomment
    (.field (.mk hnone hnone hnone hnone hdebian)
    (.field (.mk hnone hspace hspace hnone (.quoted .double)) (.nothing (.blank hnone)
    (.field (.mk htab htab hnone hback hubuntu) (.field (.mk hnone hnone hnone hreturn hmark)
    (.nothing hnoEquals
    (.field (.mk hnone hnone hnone hnone (.quoted .single)) .nil)))))))⟩
  decide

/-- A store with the text of `ubuntuText`. -/
def ubuntuFiles : MemoryFiles :=
  MemoryFiles.empty.put path (Bytes.ofText ubuntuText)

theorem readText_ubuntuFiles :
    ((FileStore.readText path : StateM MemoryFiles _) ubuntuFiles).1 = .ok ubuntuText :=
  MemoryFiles.readText_of_spared (by decide +kernel) (eq_ok_of_toOption (by decide +kernel))

theorem detect_writtenIn_ubuntu :
    (ArePlain ubuntuFields ∧ WrittenIn ubuntuFields ubuntuText) ∧
      (parse ubuntuText).get? "NAME" = some "it's \"A=B\" #1 " ∧
      ((HostPlatform.detect "aarch64" : StateM MemoryFiles _) ubuntuFiles).1 =
        .ok ⟨"ubuntu", "22.04", "arm64"⟩ := by
  obtain ⟨hparse, hdetect⟩ :=
    @detect_writtenIn _ _ MemoryFiles _ arePlain_ubuntuFields writtenIn_ubuntuText
  have hid : IsLast ubuntuFields "ID" "Ubuntu" :=
    ⟨[("ID", "debian"), ("NAME", "it's \"A=B\" #1 ")], [("MARK", "\""), ("VERSION_ID", "22.04")],
      rfl, by decide⟩
  have hversion : IsLast ubuntuFields "VERSION_ID" "22.04" :=
    ⟨ubuntuFields.dropLast, [], rfl, nofun⟩
  have hname : IsLast ubuntuFields "NAME" "it's \"A=B\" #1 " :=
    ⟨[("ID", "debian")], _, rfl, by decide⟩
  have hlower : Unicode.lowercase "Ubuntu" = "ubuntu" := by decide +kernel
  have hfound : Detects ubuntuFields "arm64" (.ok ⟨"ubuntu", "22.04", "arm64"⟩) :=
    hlower ▸ .found hid (by decide) hversion (by decide)
  exact ⟨⟨arePlain_ubuntuFields, writtenIn_ubuntuText⟩, (hparse _ _).2 hname,
    (hdetect "aarch64" "arm64" ubuntuFiles rfl readText_ubuntuFiles _).2 hfound⟩

end OsRelease

end Depot
