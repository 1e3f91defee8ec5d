import Depot.Package.Manifest
import Depot.Proofs.Json.Record
import Depot.Proofs.Json.Taken

/-!
# Package manifests as values

A package manifest is read from every spelling of the value that it is written as, whatever the
order of the members, as long as none of the other data of a variant goes by the key of its file and
all of it is legible. All manifests that are taken from anywhere are like that, be it from an object
or from an array of their fields, so that none of them is lost.

## Main definitions

* `PackageVariant.IsLegible` : variants that are read from what they are written as.
* `PackageManifest.AllVariants` : tables all of whose variants have a property.
* `PackageManifest.IsMember`, `FileEntry.IsMember` : the members of what is written.

## Main results

* `PackageVariant.reads_read`, `FileEntry.reads_read` : variants and entries are read as they are.
* `PackageManifest.reads_readRecord` : so are manifests whose variants are legible.
* `PackageManifest.gives_readRecord` : the variants of manifests that are taken are legible.
-/

namespace Depot

open Json (Gives IsDenoted Reads held)

variable {depth : Nat} {N : JsonNumber → Prop}

/-! ### Variants -/

namespace PackageVariant

variable {v : PackageVariant} {key : String} {value : Json} {met : List String}
  {state : Option String × Dict Json}

/-- None of the other data of a variant is taken for the file. It is legible, and its numbers are
denoted. -/
structure IsLegible (depth : Nat) (v : PackageVariant) : Prop where
  file : v.extra.get? "file" = none
  extra : v.extra.All fun value => value.Legible depth
  numbers : v.extra.All fun value => value.AllNumbers IsDenoted

/-- The members of a variant are its file and its other data. -/
theorem mem_members_iff :
    (key, value) ∈ (v.extra.insert "file" (.text v.file)).pairs ↔
      (key = "file" ∧ value = .text v.file) ∨ (key ≠ "file" ∧ v.extra.get? key = some value) := by
  rw [← Dict.get?_eq_some_iff, Dict.get?_insert]
  by_cases hkey : key = "file"
  · simp [hkey, eq_comm]
  · simp [hkey, Ne.symm hkey]

/-- The members that a variant is written with. -/
inductive IsMember (v : PackageVariant) : String → Json → Prop
  | file : IsMember v "file" (.text v.file)
  | extra {key : String} {value : Json} (h : v.extra.get? key = some value) : IsMember v key value

theorem hasMembers_toJson (h : v.extra.get? "file" = none) : v.toJson.HasMembers v.IsMember := by
  refine ⟨_, rfl, Dict.nodup_keys _, fun key value => mem_members_iff.trans ?_⟩
  constructor
  · rintro (⟨rfl, rfl⟩ | ⟨-, hvalue⟩)
    · exact .file
    · exact .extra hvalue
  · rintro (_ | hvalue)
    · exact .inl ⟨rfl, rfl⟩
    · refine .inr ⟨?_, hvalue⟩
      rintro rfl
      cases h.symm.trans hvalue

theorem allNumbers_toJson (h : v.extra.All fun value => value.AllNumbers N) :
    v.toJson.AllNumbers N :=
  .object fun _ hmember => h.insert (.text v.file) _ hmember

/-- The value of one member of a variant. -/
def readMember (depth : Nat) (key : String) :
    Option String × Dict Json → Json.Reader (Option String × Dict Json)
  | (file, extra), ts =>
    if key = "file" then do
      let (file, rest) ← Json.readField file Json.readText ts
      .ok ((file, extra), rest)
    else do
      let (value, rest) ← Json.afterColon (Json.readValue depth) ts
      .ok ((file, extra.insert key value), rest)

theorem read_openObject (rest : List Json.Token) :
    read (depth + 1) (.openObject :: rest) = (do
      let ((file, extra), rest) ← Json.readMembers (readMember depth) (none, Dict.empty) rest
      .ok (⟨← Json.required file, extra⟩, rest)) :=
  rfl

/-- What has been read of a variant when certain keys have been met: the file if its key is one of
them, and the data of all others. -/
structure HasRead (v : PackageVariant) (met : List String) (state : Option String × Dict Json) :
    Prop where
  file : state.1 = held met "file" v.file
  extra : v.extra.EntriesAt met state.2

theorem HasRead.member (h : v.HasRead met state) (hv : v.IsLegible depth)
    (hmem : (key, value) ∈ (v.extra.insert "file" (.text v.file)).pairs) (hnew : key ∉ met) :
    ∃ next, v.HasRead (key :: met) next ∧
      Reads (fun ts => readMember depth key state (.colon :: ts)) value next := by
  obtain ⟨file, extra⟩ := state
  obtain ⟨rfl, hextra⟩ := h
  rcases mem_members_iff.1 hmem with ⟨rfl, rfl⟩ | ⟨hkey, hvalue⟩
  · -- Meeting the key of the file adds no other data, as none goes by that key.
    refine ⟨(some v.file, extra), ⟨by simp, hextra.cons_of_none hv.file⟩, ?_⟩
    simpa only [readMember, if_true] using
      ((Json.reads_readText v.file).field hnew v.file).map fun file => (file, extra)
  · refine ⟨(held met "file" v.file, extra.insert key value),
      ⟨(Json.held_cons_of_ne (Ne.symm hkey)).symm, hextra.insert hvalue⟩, ?_⟩
    have hlegible := hv.extra _ (Dict.get?_eq_some_iff.1 hvalue)
    simpa only [readMember, if_neg hkey] using (Json.reads_readValue hlegible).afterColon.map
      fun value => (held met "file" v.file, extra.insert key value)

/-- **A variant that is legible is read as it is.** -/
theorem reads_read (h : v.IsLegible depth) : Reads (read (depth + 1)) v.toJson v := by
  intro ts hts rest
  obtain ⟨inner, ⟨file, extra⟩, met, rfl, ⟨hfile, hextra⟩, hmet, hread⟩ :=
    Json.readMembers_spells (readMember depth) (Dict.nodup_keys _)
      (show v.HasRead [] (none, Dict.empty) from ⟨rfl, v.extra.entriesAt_nil⟩)
      (fun key value hmem met state hnew hstate => hstate.member h hmem hnew) hts
  have hmet (key : String) :
      key ∈ met ↔ key = "file" ∨ ∃ value, v.extra.get? key = some value := by
    refine (hmet key).trans (Dict.mem_keys_iff.trans ?_)
    simp only [Dict.get?_eq_some_iff, mem_members_iff]
    by_cases hkey : key = "file" <;> simp [hkey]
  have hfile : file = some v.file := hfile.trans (Json.held_of_mem ((hmet "file").2 (.inl rfl)))
  have hextra : extra = v.extra :=
    hextra.eq fun key value hvalue => (hmet key).2 (.inr ⟨value, hvalue⟩)
  rw [List.cons_append, read_openObject, hread, hfile, hextra]
  rfl

/-- None of the other data that has been read is taken for the file. It is legible, and its numbers
are denoted. -/
def ReadsLegible (depth : Nat) (state : Option String × Dict Json) : Prop :=
  state.2.get? "file" = none ∧
    state.2.All fun value => value.Legible depth ∧ value.AllNumbers IsDenoted

theorem gives_readMember (h : ReadsLegible depth state) :
    Gives (readMember depth key state) (ReadsLegible depth) := by
  obtain ⟨file, extra⟩ := state
  intro ts next rest hread
  unfold readMember at hread
  split_ifs at hread with hkey
  · obtain ⟨⟨file', rest'⟩, -, hread⟩ := bind_eq_ok_iff.1 hread
    cases hread
    exact h
  · obtain ⟨⟨value, rest'⟩, hvalue, hread⟩ := bind_eq_ok_iff.1 hread
    cases hread
    refine ⟨by simp [hkey, h.1], h.2.insert ?_⟩
    exact Json.gives_afterColon (Json.gives_readValue depth) _ _ _ hvalue

/-- **A variant that is taken is legible.** -/
theorem gives_read (depth : Nat) : Gives (read (depth + 1)) (IsLegible depth) := by
  intro ts v rest hread
  cases ts with
  | nil => cases hread
  | cons t ts =>
    cases t with
    | openObject =>
      rw [read_openObject] at hread
      obtain ⟨⟨⟨file, extra⟩, rest'⟩, hmembers, hread⟩ := bind_eq_ok_iff.1 hread
      obtain ⟨file', -, hread⟩ := bind_eq_ok_iff.1 hread
      cases hread
      have hlegible := Json.gives_readMembers (fun key state => gives_readMember)
        (show ReadsLegible depth (none, Dict.empty) from ⟨rfl, Dict.all_empty _⟩) _ _ _ hmembers
      exact ⟨hlegible.1, hlegible.2.imp fun _ h => h.1, hlegible.2.imp fun _ h => h.2⟩
    | _ => cases hread

end PackageVariant

/-! ### Entries of files -/

theorem Dict.allNumbers_toJson {α : Type} {write : α → Json} {d : Dict α}
    (h : d.All fun a => (write a).AllNumbers N) : (d.toJson write).AllNumbers N :=
  .object (List.forall_mem_map.2 h)

theorem reads_readTexts (depth : Nat) (d : Dict String) :
    Reads (readTexts (depth + 1)) (d.toJson .text) d :=
  Json.reads_readDict fun pair _ => Json.reads_readText pair.2

namespace FileEntry

variable {e : FileEntry} {key : String} {value : Json} {met : List String}

/-- The value of one field of an entry. -/
def readFieldOf (depth : Nat) (key : String) :
    Option (Option String) × Option (Dict String) →
      Json.Reader (Option (Option String) × Option (Dict String))
  | (location, checksums), ts =>
    match key with
    | "downloadLocation" => do
      let (location, rest) ← Json.readField location (Json.readOptional Json.readText) ts
      .ok ((location, checksums), rest)
    | "checksums" => do
      let (checksums, rest) ← Json.readField checksums (readTexts depth) ts
      .ok ((location, checksums), rest)
    | _ => do
      let ((), rest) ← Json.afterColon Json.skipValue ts
      .ok ((location, checksums), rest)

theorem readObject_eq (ts : List Json.Token) :
    readObject depth ts = (do
      let ((location, checksums), ts) ← Json.readMembers (readFieldOf depth) (none, none) ts
      .ok (⟨location.join, checksums.getD Dict.empty⟩, ts)) :=
  rfl

/-- The members that an entry is written with. -/
inductive IsMember (e : FileEntry) : String → Json → Prop
  | location {l : String} (h : e.location = some l) : IsMember e "downloadLocation" (.text l)
  | checksums : IsMember e "checksums" (e.checksums.toJson .text)

/-- The members of an entry in the order in which they are written. -/
def members (e : FileEntry) : List (String × Json) :=
  (e.location.map fun l => ("downloadLocation", Json.text l)).toList ++
    [("checksums", e.checksums.toJson .text)]

theorem nodup_members (e : FileEntry) : (e.members.map Prod.fst).Nodup := by
  unfold members
  cases e.location <;> simp

theorem mem_members_iff : (key, value) ∈ e.members ↔ e.IsMember key value := by
  simp only [members, List.mem_append, List.mem_singleton, Option.mem_toList,
    Option.map_eq_some_iff, Prod.mk.injEq]
  constructor
  · rintro (⟨l, hl, rfl, rfl⟩ | ⟨rfl, rfl⟩)
    · exact .location hl
    · exact .checksums
  · rintro (hl | _)
    · exact .inl ⟨_, hl, rfl, rfl⟩
    · exact .inr ⟨rfl, rfl⟩

theorem hasMembers_toJson (e : FileEntry) : e.toJson.HasMembers e.IsMember :=
  ⟨_, rfl, e.nodup_members, fun _ _ => mem_members_iff⟩

theorem allNumbers_toJson (e : FileEntry) : e.toJson.AllNumbers N := by
  refine .object ?_
  rintro ⟨key, value⟩ hmember
  cases mem_members_iff.1 hmember with
  | location hl => exact .text _
  | checksums => exact Dict.allNumbers_toJson fun pair _ => .text pair.2

/-- What has been read of an entry when certain keys have been met. -/
def fieldsAt (e : FileEntry) (met : List String) : Option (Option String) × Option (Dict String) :=
  (held met "downloadLocation" e.location, held met "checksums" e.checksums)

theorem reads_readFieldOf (h : e.IsMember key value) (hnew : key ∉ met) :
    Reads (fun ts => readFieldOf (depth + 1) key (e.fieldsAt met) (.colon :: ts)) value
      (e.fieldsAt (key :: met)) := by
  cases h with
  | @location l hl =>
    have hread := ((Json.reads_optionalText l).field hnew e.location).map
      fun location => (location, held met "checksums" e.checksums)
    simpa [readFieldOf, fieldsAt, Json.held_cons_of_ne, hl] using hread
  | checksums =>
    have hread := ((reads_readTexts depth e.checksums).field hnew e.checksums).map
      fun checksums => (held met "downloadLocation" e.location, checksums)
    simpa [readFieldOf, fieldsAt, Json.held_cons_of_ne] using hread

/-- **An entry is read as it is.** -/
theorem reads_read (e : FileEntry) : Reads (read (depth + 2)) e.toJson e := by
  refine e.hasMembers_toJson.reads (readFieldOf (depth + 1)) e.fieldsAt readObject_eq
    (fun key value met => reads_readFieldOf) fun met hmet rest => ?_
  have hlocation : (held met "downloadLocation" e.location).join = e.location :=
    Json.join_held fun l hl => hmet (.location hl)
  have hchecksums : held met "checksums" e.checksums = some e.checksums :=
    Json.held_of_mem (hmet .checksums)
  simp only [fieldsAt, hlocation, hchecksums, Option.getD_some]

end FileEntry

/-! ### Manifests -/

namespace PackageManifest

variable {m : PackageManifest} {table : PackageTable} {key : String} {value : Json}
  {met : List String}

/-- All variants of a table have a property. -/
def AllVariants (P : PackageVariant → Prop) (table : PackageTable) : Prop :=
  table.All fun versions => versions.All fun arches => arches.All P

theorem AllVariants.imp {P Q : PackageVariant → Prop} (h : AllVariants P table)
    (hPQ : ∀ v, P v → Q v) : AllVariants Q table :=
  Dict.All.imp h fun _ h => Dict.All.imp h fun _ h => Dict.All.imp h hPQ

/-- The value that a table is written as. -/
def tableJson (table : PackageTable) : Json :=
  table.toJson fun d => d.toJson fun d => d.toJson PackageVariant.toJson

theorem allNumbers_tableJson
    (h : AllVariants (fun v => v.extra.All fun value => value.AllNumbers N) table) :
    (tableJson table).AllNumbers N :=
  Dict.allNumbers_toJson (Dict.All.imp h fun _ h => Dict.allNumbers_toJson
    (Dict.All.imp h fun _ h => Dict.allNumbers_toJson
      (Dict.All.imp h fun _ h => PackageVariant.allNumbers_toJson h)))

theorem reads_readTable (h : AllVariants (PackageVariant.IsLegible depth) table) :
    Reads (readTable (depth + 4)) (tableJson table) table :=
  Json.reads_readDict (Dict.All.imp h fun _ h => Json.reads_readDict
    (Dict.All.imp h fun _ h => Json.reads_readDict
      (Dict.All.imp h fun _ h => PackageVariant.reads_read h)))

theorem reads_readFiles (depth : Nat) (files : Dict FileEntry) :
    Reads (Json.readDict FileEntry.read (depth + 3)) (files.toJson FileEntry.toJson) files :=
  Json.reads_readDict fun pair _ => FileEntry.reads_read pair.2

/-! #### What is written -/

/-- The members that a manifest is written with. -/
inductive IsMember (m : PackageManifest) : String → Json → Prop
  | name : IsMember m "name" (.text m.name)
  | version : IsMember m "version" (.text m.version)
  | schemaVersion {s : String} (h : m.schemaVersion = some s) :
    IsMember m "schemaVersion" (.text s)
  | publisher {s : String} (h : m.publisher = some s) : IsMember m "publisher" (.text s)
  | packages : IsMember m "packages" (tableJson m.packages)
  | files : IsMember m "files" (m.files.toJson FileEntry.toJson)

/-- The members of a manifest in the order in which they are written. -/
def members (m : PackageManifest) : List (String × Json) :=
  [("name", Json.text m.name), ("version", Json.text m.version)] ++
    (m.schemaVersion.map fun v => ("schemaVersion", Json.text v)).toList ++
    (m.publisher.map fun v => ("publisher", Json.text v)).toList ++
    [("packages", tableJson m.packages), ("files", m.files.toJson FileEntry.toJson)]

theorem nodup_members (m : PackageManifest) : (m.members.map Prod.fst).Nodup := by
  unfold members
  cases m.schemaVersion <;> cases m.publisher <;> simp

theorem mem_members_iff : (key, value) ∈ m.members ↔ m.IsMember key value := by
  simp only [members, List.mem_append, List.mem_cons, Option.mem_toList, Option.map_eq_some_iff,
    Prod.mk.injEq, List.not_mem_nil, or_false]
  constructor
  · rintro ((((⟨rfl, rfl⟩ | ⟨rfl, rfl⟩) | ⟨s, hs, rfl, rfl⟩) | ⟨s, hs, rfl, rfl⟩) |
      ⟨rfl, rfl⟩ | ⟨rfl, rfl⟩)
    · exact .name
    · exact .version
    · exact .schemaVersion hs
    · exact .publisher hs
    · exact .packages
    · exact .files
  · intro h
    cases h <;> simp_all

theorem hasMembers_toJson (m : PackageManifest) : m.toJson.HasMembers m.IsMember :=
  ⟨_, rfl, m.nodup_members, fun _ _ => mem_members_iff⟩

theorem allNumbers_toJson
    (h : AllVariants (fun v => v.extra.All fun value => value.AllNumbers N) m.packages) :
    m.toJson.AllNumbers N := by
  refine .object ?_
  rintro ⟨key, value⟩ hmember
  cases mem_members_iff.1 hmember with
  | name | version | schemaVersion | publisher => exact .text _
  | packages => exact allNumbers_tableJson h
  | files => exact Dict.allNumbers_toJson fun pair _ => pair.2.allNumbers_toJson

/-! #### What is read -/

/-- What has been read of a manifest when certain keys have been met. -/
def fieldsAt (m : PackageManifest) (met : List String) : Fields where
  name := held met "name" m.name
  version := held met "version" m.version
  schemaVersion := held met "schemaVersion" m.schemaVersion
  publisher := held met "publisher" m.publisher
  packages := held met "packages" m.packages
  files := held met "files" m.files

theorem reads_readFieldOf (h : AllVariants (PackageVariant.IsLegible depth) m.packages)
    (hmember : m.IsMember key value) (hnew : key ∉ met) :
    Reads (fun ts => readFieldOf (depth + 4) key (m.fieldsAt met) (.colon :: ts)) value
      (m.fieldsAt (key :: met)) := by
  cases hmember with
  | name =>
    have hread := ((Json.reads_readText m.name).field hnew m.name).map
      fun name => ({ m.fieldsAt met with name } : Fields)
    simpa [readFieldOf, fieldsAt, Json.held_cons_of_ne] using hread
  | version =>
    have hread := ((Json.reads_readText m.version).field hnew m.version).map
      fun version => ({ m.fieldsAt met with version } : Fields)
    simpa [readFieldOf, fieldsAt, Json.held_cons_of_ne] using hread
  | @schemaVersion s hs =>
    have hread := ((Json.reads_optionalText s).field hnew m.schemaVersion).map
      fun schemaVersion => ({ m.fieldsAt met with schemaVersion } : Fields)
    simpa [readFieldOf, fieldsAt, Json.held_cons_of_ne, hs] using hread
  | @publisher s hs =>
    have hread := ((Json.reads_optionalText s).field hnew m.publisher).map
      fun publisher => ({ m.fieldsAt met with publisher } : Fields)
    simpa [readFieldOf, fieldsAt, Json.held_cons_of_ne, hs] using hread
  | packages =>
    have hread := ((reads_readTable h).field hnew m.packages).map
      fun packages => ({ m.fieldsAt met with packages } : Fields)
    simpa [readFieldOf, fieldsAt, Json.held_cons_of_ne] using hread
  | files =>
    have hread := ((reads_readFiles (depth + 1) m.files).field hnew m.files).map
      fun files => ({ m.fieldsAt met with files } : Fields)
    simpa [readFieldOf, fieldsAt, Json.held_cons_of_ne] using hread

/-- A manifest has all its fields when all its keys have been met. -/
theorem ofFields_fieldsAt (hmet : ∀ {key value}, m.IsMember key value → key ∈ met) :
    ofFields (m.fieldsAt met) = .ok m := by
  have hschema : (held met "schemaVersion" m.schemaVersion).join = m.schemaVersion :=
    Json.join_held fun s hs => hmet (.schemaVersion hs)
  have hpublisher : (held met "publisher" m.publisher).join = m.publisher :=
    Json.join_held fun s hs => hmet (.publisher hs)
  simp only [ofFields, fieldsAt, hschema, hpublisher, Json.held_of_mem (hmet .name),
    Json.held_of_mem (hmet .version), Json.held_of_mem (hmet .packages),
    Json.held_of_mem (hmet .files), Json.required, Option.getD_some, bind, Except.bind]

/-- **A manifest whose variants are legible is read as it is.** -/
theorem reads_readRecord (h : AllVariants (PackageVariant.IsLegible depth) m.packages) :
    Reads (Json.readRecord readArray readObject (depth + 5)) m.toJson m := by
  refine m.hasMembers_toJson.reads (readFieldOf (depth + 4)) m.fieldsAt (fun _ => rfl)
    (fun key value met => reads_readFieldOf h) fun met hmet rest => ?_
  simp only [ofFields_fieldsAt hmet, bind, Except.bind]

/-! #### What is taken -/

theorem gives_readTable (depth : Nat) :
    Gives (readTable (depth + 4)) (AllVariants (PackageVariant.IsLegible depth)) :=
  Json.gives_readDict (Json.gives_readDict (Json.gives_readDict (PackageVariant.gives_read depth)))

theorem gives_readArray (depth : Nat) :
    Gives (readArray (depth + 4)) fun m =>
      AllVariants (PackageVariant.IsLegible depth) m.packages := by
  intro ts m rest hread
  obtain ⟨⟨name, ts⟩, -, hread⟩ := bind_eq_ok_iff.1 hread
  obtain ⟨name, -, hread⟩ := bind_eq_ok_iff.1 hread
  obtain ⟨⟨version, ts⟩, -, hread⟩ := bind_eq_ok_iff.1 hread
  obtain ⟨version, -, hread⟩ := bind_eq_ok_iff.1 hread
  obtain ⟨⟨schemaVersion, ts⟩, -, hread⟩ := bind_eq_ok_iff.1 hread
  obtain ⟨⟨publisher, ts⟩, -, hread⟩ := bind_eq_ok_iff.1 hread
  obtain ⟨⟨packages, ts⟩, hpackages, hread⟩ := bind_eq_ok_iff.1 hread
  obtain ⟨⟨files, ts⟩, -, hread⟩ := bind_eq_ok_iff.1 hread
  cases hread
  have h := Json.gives_readElement (gives_readTable depth) _ _ _ _ hpackages
  cases packages with
  | none => exact Dict.all_empty _
  | some packages => exact h packages rfl

/-- The variants that have been read are legible. -/
def Fields.ReadsLegible (depth : Nat) (f : Fields) : Prop :=
  ∀ packages, f.packages = some packages → AllVariants (PackageVariant.IsLegible depth) packages

theorem gives_readFieldOf {f : Fields} (h : f.ReadsLegible depth) :
    Gives (readFieldOf (depth + 4) key f) (Fields.ReadsLegible depth) := by
  intro ts next rest hread
  unfold readFieldOf at hread
  split at hread
  case h_5 =>
    obtain ⟨⟨packages, rest'⟩, hpackages, hread⟩ := bind_eq_ok_iff.1 hread
    cases hread
    exact Json.gives_readField (gives_readTable depth) _ _ _ _ hpackages
  -- No other field has to do with the variants.
  all_goals
    obtain ⟨⟨value, rest'⟩, -, hread⟩ := bind_eq_ok_iff.1 hread
    cases hread
    exact h

theorem gives_readObject (depth : Nat) :
    Gives (readObject (depth + 4)) fun m =>
      AllVariants (PackageVariant.IsLegible depth) m.packages := by
  intro ts m rest hread
  obtain ⟨⟨fields, ts⟩, hfields, hread⟩ := bind_eq_ok_iff.1 hread
  have h := Json.gives_readMembers (fun key f => gives_readFieldOf)
    (show Fields.ReadsLegible depth ⟨none, none, none, none, none, none⟩ from nofun) _ _ _ hfields
  obtain ⟨m', hm, hread⟩ := bind_eq_ok_iff.1 hread
  cases hread
  obtain ⟨name, -, hm⟩ := bind_eq_ok_iff.1 hm
  obtain ⟨version, -, hm⟩ := bind_eq_ok_iff.1 hm
  cases hm
  obtain ⟨name, version, schemaVersion, publisher, packages, files⟩ := fields
  cases packages with
  | none => exact Dict.all_empty _
  | some packages => exact h packages rfl

/-- **The variants of a manifest that is taken are legible,** from an object and from an array. -/
theorem gives_readRecord (depth : Nat) :
    Gives (Json.readRecord readArray readObject (depth + 5)) fun m =>
      AllVariants (PackageVariant.IsLegible depth) m.packages :=
  Json.gives_readRecord (gives_readArray depth) (gives_readObject depth)

theorem parse?_eq_ok_iff {text : String} :
    parse? text = .ok m ↔
      Json.readAll (Json.readRecord readArray readObject Json.maxDepth) (Json.tokens text) =
        .ok m := by
  unfold parse?
  dsimp only
  split
  · next h => rw [h, Except.ok.injEq, Except.ok.injEq]
  · next h => exact iff_of_false nofun (by rw [h]; nofun)

end PackageManifest

end Depot
