import Depot.Proofs.Json.Written
import Depot.Proofs.Package.Component
import Depot.Proofs.Package.Manifest

/-!
# Manifests survive being written

What is read from a text as a manifest, of a package or of a component, is written as a value from
which the same manifest is read again: from the members in any order, and from numbers in any digits
that denote them. Every field has a member of its own, and a field that is not there has none. The
other data of a variant stays what it is and is never taken for its file, as no such data that was
read goes by the key of the file.

A text in which the value is written is read as the manifest again, too, be it on one line or over
several lines. Only of numbers of the binary64 format this has to be asked: reading rounds more than
once, so that such a number need not be read back from its own text. Component manifests have no
numbers.

## Main definitions

* `PackageManifest.Survives`, `ComponentManifest.Survives` : manifests that survive being written.

## Main results

* `ComponentManifest.reads_readRecord` : component manifests are read as they are.
* `PackageManifest.survives_of_parse?`, `ComponentManifest.survives_of_parse?` : manifests of texts
  survive.
* `manifests_survive` : both together.
-/

namespace Depot

open Json (IsDenoted Reads held)

/-! ### Component manifests as values -/

namespace ComponentManifest

variable {c : ComponentManifest} {key : String} {value : Json} {met : List String} {depth : Nat}

/-- The members that a manifest is written with. -/
inductive IsMember (c : ComponentManifest) : String → Json → Prop
  | name : IsMember c "name" (.text c.name)
  | version : IsMember c "version" (.text c.version)
  | install {s : String} (h : c.install = some s) : IsMember c "install" (.text s)
  | uninstall {s : String} (h : c.uninstall = some s) : IsMember c "uninstall" (.text s)
  | launch {s : String} (h : c.launch = some s) : IsMember c "launch" (.text s)
  | reboot : IsMember c "reboot" (.text c.reboot)

/-- The members of a manifest in the order in which they are written. -/
def members (c : ComponentManifest) : List (String × Json) :=
  [("name", Json.text c.name), ("version", Json.text c.version)] ++
    (c.install.map fun v => ("install", Json.text v)).toList ++
    (c.uninstall.map fun v => ("uninstall", Json.text v)).toList ++
    (c.launch.map fun v => ("launch", Json.text v)).toList ++ [("reboot", Json.text c.reboot)]

theorem nodup_members (c : ComponentManifest) : (c.members.map Prod.fst).Nodup := by
  unfold members
  cases c.install <;> cases c.uninstall <;> cases c.launch <;> simp

theorem mem_members_iff : (key, value) ∈ c.members ↔ c.IsMember key value := by
  simp only [members, List.mem_append, List.mem_cons, Option.mem_toList, Option.map_eq_some_iff,
    Prod.mk.injEq, List.not_mem_nil, or_false]
  constructor
  · rintro (((((⟨rfl, rfl⟩ | ⟨rfl, rfl⟩) | ⟨s, hs, rfl, rfl⟩) | ⟨s, hs, rfl, rfl⟩) |
      ⟨s, hs, rfl, rfl⟩) | ⟨rfl, rfl⟩)
    · exact .name
    · exact .version
    · exact .install hs
    · exact .uninstall hs
    · exact .launch hs
    · exact .reboot
  · intro h
    cases h <;> simp_all

theorem hasMembers_toJson (c : ComponentManifest) : c.toJson.HasMembers c.IsMember :=
  ⟨_, rfl, c.nodup_members, fun _ _ => mem_members_iff⟩

theorem allNumbers_toJson {N : JsonNumber → Prop} (c : ComponentManifest) :
    c.toJson.AllNumbers N := by
  refine .object ?_
  rintro ⟨key, value⟩ hmember
  cases mem_members_iff.1 hmember <;> exact .text _

/-- What has been read of a manifest when certain keys have been met. -/
def fieldsAt (c : ComponentManifest) (met : List String) : Fields where
  name := held met "name" c.name
  version := held met "version" c.version
  install := held met "install" c.install
  uninstall := held met "uninstall" c.uninstall
  launch := held met "launch" c.launch
  reboot := held met "reboot" c.reboot

theorem reads_readFieldOf (h : c.IsMember key value) (hnew : key ∉ met) :
    Reads (fun ts => readFieldOf key (c.fieldsAt met) (.colon :: ts)) value
      (c.fieldsAt (key :: met)) := by
  cases h with
  | name =>
    have hread := ((Json.reads_readText c.name).field hnew c.name).map
      fun name => ({ c.fieldsAt met with name } : Fields)
    simpa [readFieldOf, fieldsAt, Json.held_cons_of_ne] using hread
  | version =>
    have hread := ((Json.reads_readText c.version).field hnew c.version).map
      fun version => ({ c.fieldsAt met with version } : Fields)
    simpa [readFieldOf, fieldsAt, Json.held_cons_of_ne] using hread
  | @install s hs =>
    have hread := ((Json.reads_optionalText s).field hnew c.install).map
      fun install => ({ c.fieldsAt met with install } : Fields)
    simpa [readFieldOf, fieldsAt, Json.held_cons_of_ne, hs] using hread
  | @uninstall s hs =>
    have hread := ((Json.reads_optionalText s).field hnew c.uninstall).map
      fun uninstall => ({ c.fieldsAt met with uninstall } : Fields)
    simpa [readFieldOf, fieldsAt, Json.held_cons_of_ne, hs] using hread
  | @launch s hs =>
    have hread := ((Json.reads_optionalText s).field hnew c.launch).map
      fun launch => ({ c.fieldsAt met with launch } : Fields)
    simpa [readFieldOf, fieldsAt, Json.held_cons_of_ne, hs] using hread
  | reboot =>
    have hread := ((Json.reads_readText c.reboot).field hnew c.reboot).map
      fun reboot => ({ c.fieldsAt met with reboot } : Fields)
    simpa [readFieldOf, fieldsAt, Json.held_cons_of_ne] using hread

/-- A manifest has all its fields when all its keys have been met. -/
theorem ofFields_fieldsAt (hmet : ∀ {key value}, c.IsMember key value → key ∈ met) :
    ofFields (c.fieldsAt met) = .ok c := by
  have hinstall : (held met "install" c.install).join = c.install :=
    Json.join_held fun s hs => hmet (.install hs)
  have huninstall : (held met "uninstall" c.uninstall).join = c.uninstall :=
    Json.join_held fun s hs => hmet (.uninstall hs)
  have hlaunch : (held met "launch" c.launch).join = c.launch :=
    Json.join_held fun s hs => hmet (.launch hs)
  simp only [ofFields, fieldsAt, hinstall, huninstall, hlaunch, Json.held_of_mem (hmet .name),
    Json.held_of_mem (hmet .version), Json.held_of_mem (hmet .reboot), Json.required,
    Option.getD_some, bind, Except.bind]

/-- **A component manifest is read as it is.** -/
theorem reads_readRecord (c : ComponentManifest) :
    Reads (Json.readRecord readArray readObject (depth + 1)) c.toJson c := by
  refine c.hasMembers_toJson.reads readFieldOf c.fieldsAt (fun _ => rfl)
    (fun key value met => reads_readFieldOf) fun met hmet rest => ?_
  simp only [ofFields_fieldsAt hmet, bind, Except.bind]

end ComponentManifest

/-! ### Survival -/

namespace PackageManifest

variable {m : PackageManifest} {text : String}

/-- A package manifest survives being written as a value. It is read back from the value, and from
every text whose tokens spell the value. The members of the value are the fields that are there, and
nothing that a variant has besides its file goes by the key of the file. If the numbers of the
binary64 format among the other data are read back from their own texts, then so is the manifest
from the text of the value, on one line and over several lines. -/
structure Survives (m : PackageManifest) : Prop where
  readsBack : Json.ReadsBack (Json.readRecord readArray readObject Json.maxDepth) m.toJson m
  members : m.toJson.HasMembers m.IsMember
  variants : AllVariants
    (fun v => v.extra.get? "file" = none ∧ v.toJson.HasMembers v.IsMember) m.packages
  files : m.files.All fun e => e.toJson.HasMembers e.IsMember
  parse?_eq : ∀ text, m.toJson.Spells (Json.tokens text) → parse? text = .ok m
  written : m.toJson.AllNumbers Json.RereadsBinary →
    parse? m.toJson.compact = .ok m ∧ parse? m.toJson.pretty = .ok m

/-- **Package manifests of texts survive.** -/
theorem survives_of_parse? (h : parse? text = .ok m) : m.Survives := by
  have hvariants : AllVariants (PackageVariant.IsLegible 122) m.packages :=
    (gives_readRecord 122).of_readAll (parse?_eq_ok_iff.1 h)
  have hnumbers : m.toJson.AllNumbers IsDenoted :=
    allNumbers_toJson (hvariants.imp fun _ h => h.numbers)
  have hread := reads_readRecord hvariants
  have hparse (text : String) (hts : m.toJson.Spells (Json.tokens text)) : parse? text = .ok m :=
    parse?_eq_ok_iff.2 (hread.readAll_eq hts)
  refine ⟨⟨Json.exists_spells hnumbers, fun ts => hread.readAll_eq⟩, m.hasMembers_toJson,
    hvariants.imp fun v h => ⟨h.file, v.hasMembers_toJson h.file⟩,
    fun pair _ => pair.2.hasMembers_toJson, hparse, fun hbinary => ?_⟩
  have hrereads : m.toJson.AllNumbers Json.Rereads :=
    hnumbers.imp₂ hbinary fun n ⟨l, hl⟩ hn => hn.of_value? hl
  exact ⟨hparse _ (Json.writes_compact hrereads).spells_tokens,
    hparse _ (Json.writes_pretty hrereads).spells_tokens⟩

end PackageManifest

namespace ComponentManifest

variable {c : ComponentManifest} {text : String}

/-- A component manifest survives being written as a value. It is read back from the value, nothing
is wrong with it, and it is read from every text whose tokens spell the value, among them the texts
of the value on one line and over several lines. The members of the value are the fields that are
there. -/
structure Survives (c : ComponentManifest) : Prop where
  readsBack : Json.ReadsBack (Json.readRecord readArray readObject Json.maxDepth) c.toJson c
  flawless : c.flaw? = none
  members : c.toJson.HasMembers c.IsMember
  parse?_eq : ∀ text, c.toJson.Spells (Json.tokens text) → parse? text = .ok c
  written : parse? c.toJson.compact = .ok c ∧ parse? c.toJson.pretty = .ok c

/-- **Component manifests of texts survive.** -/
theorem survives_of_parse? (h : parse? text = .ok c) : c.Survives := by
  have hsound := (parse?_eq_ok_iff.1 h).2
  have hread : Reads (Json.readRecord readArray readObject Json.maxDepth) c.toJson c :=
    c.reads_readRecord
  have hparse (text : String) (hts : c.toJson.Spells (Json.tokens text)) : parse? text = .ok c :=
    parse?_eq_ok_iff.2 ⟨hread.readAll_eq hts, hsound⟩
  refine ⟨⟨Json.exists_spells c.allNumbers_toJson, fun ts => hread.readAll_eq⟩,
    flaw?_eq_none_iff.2 hsound, c.hasMembers_toJson, hparse, ?_⟩
  exact ⟨hparse _ (Json.writes_compact c.allNumbers_toJson).spells_tokens,
    hparse _ (Json.writes_pretty c.allNumbers_toJson).spells_tokens⟩

end ComponentManifest

/-- **Manifests survive being written.** Whatever a text holds as a manifest of a package or of a
component is read back from the value that it is written as. -/
theorem manifests_survive (text : String) :
    (∀ m, PackageManifest.parse? text = .ok m → m.Survives) ∧
      ∀ c, ComponentManifest.parse? text = .ok c → c.Survives :=
  ⟨fun _ => PackageManifest.survives_of_parse?, fun _ => ComponentManifest.survives_of_parse?⟩

/-- A text that holds manifests of both kinds, with an entry of a file as an array. -/
def toolText : String :=
  "\x7b\"version\":\"2.1.0\", \"launch\":\"run\",\n\"name\":\"tool\", \"packages\":" ++
    "\x7b\"linux\":\x7b\"_any\":\x7b\"x64\":\x7b\"size\":7, \"file\":\"tool.tar\"," ++
    "\"scale\":[1.5, -2]\x7d\x7d\x7d\x7d," ++
    "\"files\":\x7b\"tool.tar\":[null, \x7b\"sha256\":\"ab\"\x7d]\x7d\x7d"

open Json.Token in
/-- The tokens of the text. -/
def toolTokens : List Json.Token :=
  [openObject, text "version", colon, text "2.1.0", comma, text "launch", colon, text "run", comma,
    text "name", colon, text "tool", comma, text "packages", colon, openObject, text "linux", colon,
    openObject, text "_any", colon, openObject, text "x64", colon, openObject, text "size", colon,
    number ⟨false, ['7'], none, none⟩, comma, text "file", colon, text "tool.tar", comma,
    text "scale", colon, openArray, number ⟨false, ['1'], some ['5'], none⟩, comma,
    number ⟨true, ['2'], none, none⟩, closeArray, closeObject, closeObject, closeObject,
    closeObject, comma, text "files", colon, openObject, text "tool.tar", colon, openArray, null,
    comma, openObject, text "sha256", colon, text "ab", closeObject, closeArray, closeObject,
    closeObject]

/-- One and a half. -/
abbrev toolScale : JsonNumber :=
  .binary (.finite false (3 * Nat.pow 2 51) (-52))

/-- The variant in the text. -/
def toolVariant : PackageVariant where
  file := "tool.tar"
  extra := (Dict.empty.insert "size" (.number (.natural 7))).insert "scale"
    (.array [.number toolScale, .number (.negative 2)])

/-- The package manifest that the text holds. -/
def toolManifest : PackageManifest where
  name := "tool"
  version := "2.1.0"
  schemaVersion := none
  publisher := none
  packages := Dict.empty.insert "linux" (Dict.empty.insert "_any"
    (Dict.empty.insert "x64" toolVariant))
  files := Dict.empty.insert "tool.tar" ⟨none, Dict.empty.insert "sha256" "ab"⟩

theorem tokens_toolText : Json.tokens toolText = toolTokens := by
  decide +kernel

theorem parse?_toolText : PackageManifest.parse? toolText = .ok toolManifest := by
  rw [PackageManifest.parse?_eq_ok_iff, tokens_toolText]
  rfl

theorem rereads_toolScale : Json.Rereads toolScale := by
  refine ⟨⟨false, ['1'], some ['5'], none⟩, ?_, by decide +kernel⟩
  have htext : toolScale.text.toList = ['1', '.', '5'] := by decide +kernel
  rw [htext]
  exact .plain rfl

theorem allNumbers_toolManifest : toolManifest.toJson.AllNumbers Json.RereadsBinary := by
  have hsize : (Json.number (.natural 7)).AllNumbers Json.RereadsBinary := .number nofun
  have hscale : (Json.number toolScale).AllNumbers Json.RereadsBinary :=
    .number fun _ _ => rereads_toolScale
  have hnegative : (Json.number (.negative 2)).AllNumbers Json.RereadsBinary := .number nofun
  have hitems : (Json.array [.number toolScale, .number (.negative 2)]).AllNumbers
      Json.RereadsBinary :=
    .array (List.forall_mem_cons.2 ⟨hscale, List.forall_mem_singleton.2 hnegative⟩)
  have hextra : toolVariant.extra.All fun value => value.AllNumbers Json.RereadsBinary :=
    ((Dict.all_empty _).insert hsize).insert hitems
  exact PackageManifest.allNumbers_toJson ((Dict.all_empty _).insert
    ((Dict.all_empty _).insert ((Dict.all_empty _).insert hextra)))

/-- The component manifest that the text holds. -/
def toolComponent : ComponentManifest :=
  ⟨"tool", "2.1.0", none, none, some "run", "false"⟩

theorem parse?_toolText_component : ComponentManifest.parse? toolText = .ok toolComponent := by
  have hsound : toolComponent.IsSound :=
    ComponentManifest.flaw?_eq_none_iff.1 (by decide +kernel)
  refine ComponentManifest.parse?_eq_ok_iff.2 ⟨?_, hsound⟩
  rw [ComponentManifest.Holds, tokens_toolText]
  rfl

/-- Both manifests of a text survive, and its package manifest is read back from its lines. -/
theorem manifests_survive_toolText :
    toolManifest.Survives ∧ toolComponent.Survives ∧
      PackageManifest.parse? toolManifest.toJson.pretty = .ok toolManifest := by
  obtain ⟨hpackage, hcomponent⟩ := manifests_survive toolText
  have hsurvives := hpackage _ parse?_toolText
  exact ⟨hsurvives, hcomponent _ parse?_toolText_component,
    (hsurvives.written allNumbers_toolManifest).2⟩

end Depot
