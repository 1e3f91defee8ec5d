import Depot.Package.Component
import Depot.Proofs.Files
import Depot.Proofs.Package.Version
import Depot.Proofs.Text.Blank

/-!
# Manifests of installed versions

A manifest is read in two steps: its text must hold the fields of one, and nothing may be wrong with
what they say. A manifest that is loaded has passed both, and it describes the component and the
version whose directory it stands in. So no version that is not written as three numbers and no
blank name has a manifest that could be loaded, whatever its file holds.

## Main definitions

* `ComponentManifest.Holds` : the texts that hold the fields of a manifest.
* `ComponentManifest.IsSound` : manifests with which nothing is wrong.
* `ComponentManifest.Loads` : the ways loading can go.

## Main results

* `ComponentManifest.flaw?_eq_none_iff` : the checks find what is wrong.
* `ComponentManifest.parse?_eq_ok_iff` : what is read from a text.
* `ComponentManifest.loads_load` : loading goes one of these ways.
* `ComponentManifest.load_describes` : what is loaded, and when.
-/

namespace Depot

namespace ComponentManifest

variable {m : ComponentManifest} {text word : String} {b : Bool}

/-! ### Sound manifests -/

/-- The word for a truth value. -/
def flagName : Bool → String
  | true => "true"
  | false => "false"

theorem flag?_eq_some_iff :
    flag? word = some b ↔ Text.asciiLower (Text.trim word) = flagName b := by
  unfold flag?
  split
  · next h => cases b <;> simp [h, flagName]
  · next h => cases b <;> simp [h, flagName]
  · next htrue hfalse =>
    cases b with
    | true => exact ⟨nofun, fun h => absurd h htrue⟩
    | false => exact ⟨nofun, fun h => absurd h hfalse⟩

/-- Nothing is wrong with a manifest: its name is not blank, its version is one, and its word on
reboots is the name of a truth value, in any case and with blanks about it, which is the one that
counts. -/
structure IsSound (m : ComponentManifest) : Prop where
  name : ∃ c ∈ m.name.toList, Text.isBlank c = false
  version : ∃ v, Version.parse? m.version = some v
  reboot : Text.asciiLower (Text.trim m.reboot) = flagName m.requiresReboot

/-- **The checks find what is wrong,** and nothing else. -/
theorem flaw?_eq_none_iff : m.flaw? = none ↔ m.IsSound := by
  have hname : ¬Text.trim m.name = "" ↔ ∃ c ∈ m.name.toList, Text.isBlank c = false := by
    rw [Text.trim_eq_empty_iff]
    simp
  have hversion : ¬(Version.parse? m.version).isNone ↔ ∃ v, Version.parse? m.version = some v := by
    rw [← Option.isSome_iff_exists, Option.isSome_iff_ne_none, Option.isNone_iff_eq_none]
  have hreboot : ¬(flag? m.reboot).isNone ↔
      Text.asciiLower (Text.trim m.reboot) = flagName m.requiresReboot := by
    rw [← flag?_eq_some_iff, requiresReboot]
    cases flag? m.reboot <;> simp
  unfold flaw?
  constructor
  · intro h
    split_ifs at h with hblank hbad hword
    exact ⟨hname.1 hblank, hversion.1 hbad, hreboot.1 hword⟩
  · intro h
    rw [if_neg (hname.2 h.name), if_neg (hversion.2 h.version), if_neg (hreboot.2 h.reboot)]

/-! ### Reading -/

/-- A text holds the fields of a manifest, whatever may be wrong with what they say. -/
def Holds (text : String) (m : ComponentManifest) : Prop :=
  Json.readAll (Json.readRecord readArray readObject Json.maxDepth) (Json.tokens text) = .ok m

/-- **What is read from a text** is the manifest that it holds, if nothing is wrong with it. -/
theorem parse?_eq_ok_iff : parse? text = .ok m ↔ Holds text m ∧ m.IsSound := by
  rw [← flaw?_eq_none_iff]
  unfold parse? Holds
  cases Json.readAll (Json.readRecord readArray readObject Json.maxDepth) (Json.tokens text) with
  | error fault => simp
  | ok found =>
    simp only [Except.ok.injEq]
    constructor
    · intro h
      split at h
      · cases h
      · next hflaw =>
        cases h
        exact ⟨rfl, hflaw⟩
    · rintro ⟨rfl, hflaw⟩
      simp only [hflaw]

/-! ### Loading -/

/-- The ways loading a manifest from a file can go, by what is read from the file. -/
inductive Loads (file : Path) (name version : String) :
    Except IoFault String → Except ManifestFault ComponentManifest → Prop
  | unreadable (fault : IoFault) : Loads file name version (.error fault) (.error (.io file fault))
  | malformed {text : String} {fault : ManifestFault} (h : parse? text = .error fault) :
    Loads file name version (.ok text) (.error fault)
  | foreign {text : String} {m : ComponentManifest} (h : parse? text = .ok m)
      (hother : ¬(m.name = name ∧ m.version = version)) :
    Loads file name version (.ok text)
      (.error (.invalidComponent (.describes file m.name m.version)))
  | found {text : String} {m : ComponentManifest} (h : parse? text = .ok m) (hname : m.name = name)
      (hversion : m.version = version) : Loads file name version (.ok text) (.ok m)

variable {σ : Type} [FileStore (StateM σ)]

/-- **Loading goes one of these ways,** and does nothing but read the file. -/
theorem loads_load {root : Path} {name version : String} {s s' : σ}
    {result : Except ManifestFault ComponentManifest}
    (h : (load root name version : StateM σ _) s = (result, s')) :
    ∃ read, (FileStore.readText (path root name version) : StateM σ _) s = (read, s') ∧
      Loads (path root name version) name version read result := by
  unfold load at h
  obtain ⟨read, s₁, hread, h⟩ := bind_eq_iff.1 h
  refine ⟨read, ?_⟩
  cases read with
  | error fault =>
    obtain ⟨rfl, rfl⟩ := pure_eq_iff.1 h
    exact ⟨hread, .unreadable fault⟩
  | ok text =>
    dsimp only at h
    cases hparse : parse? text with
    | error fault =>
      simp only [hparse] at h
      obtain ⟨rfl, rfl⟩ := pure_eq_iff.1 h
      exact ⟨hread, .malformed hparse⟩
    | ok m =>
      simp only [hparse] at h
      split at h
      · next heq =>
        obtain ⟨rfl, rfl⟩ := pure_eq_iff.1 h
        exact ⟨hread, .found hparse heq.1 heq.2⟩
      · next hother =>
        obtain ⟨rfl, rfl⟩ := pure_eq_iff.1 h
        exact ⟨hread, .foreign hparse hother⟩

theorem load_eq_ok_iff {root : Path} {name version : String} {s : σ} :
    ((load root name version : StateM σ _) s).1 = .ok m ↔
      ∃ text, ((FileStore.readText (path root name version) : StateM σ _) s).1 = .ok text ∧
        parse? text = .ok m ∧ m.name = name ∧ m.version = version := by
  cases hload : (load root name version : StateM σ _) s with
  | mk result s' =>
    obtain ⟨read, hread, hloads⟩ := loads_load hload
    rw [hread]
    cases hloads with
    | unreadable fault => simp
    | malformed h => simp [h]
    | @foreign text found h hother =>
      refine ⟨nofun, ?_⟩
      rintro ⟨text', htext, hparse, hname, hversion⟩
      cases htext
      cases h.symm.trans hparse
      exact absurd ⟨hname, hversion⟩ hother
    | found h hname hversion =>
      constructor
      · rintro ⟨⟩
        exact ⟨_, rfl, h, hname, hversion⟩
      · rintro ⟨text', htext, hparse, -, -⟩
        cases htext
        exact h.symm.trans hparse

/-- **A manifest that is loaded is sound and describes what was asked for.** What is loaded is what
is read from the text of the file, if it has the name and the version that were asked for, and what
is read from a text is the manifest that it holds, if nothing is wrong with it. So for a blank name,
and for a version that is not written as three numbers, no file has a manifest to load. -/
theorem load_describes (root : Path) (name version : String) (s : σ) :
    (∀ m, ((load root name version : StateM σ _) s).1 = .ok m ↔
      ∃ text, ((FileStore.readText (path root name version) : StateM σ _) s).1 = .ok text ∧
        parse? text = .ok m ∧ m.name = name ∧ m.version = version) ∧
    (∀ text m, parse? text = .ok m ↔ Holds text m ∧ m.IsSound) ∧
    ((∀ c ∈ name.toList, Text.isBlank c) ∨
        (¬∃ v, Version.IsWord v ∧ ∃ major minor build, Version.Spells version major minor build v) →
      ∃ fault, ((load root name version : StateM σ _) s).1 = .error fault) := by
  refine ⟨fun m => load_eq_ok_iff, fun text m => parse?_eq_ok_iff, fun hbad => ?_⟩
  cases hload : ((load root name version : StateM σ _) s).1 with
  | error fault => exact ⟨fault, rfl⟩
  | ok m =>
    obtain ⟨text, -, hparse, rfl, rfl⟩ := load_eq_ok_iff.1 hload
    have hsound := (parse?_eq_ok_iff.1 hparse).2
    obtain ⟨c, hc, hblank⟩ := hsound.name
    obtain ⟨v, hv⟩ := hsound.version
    rcases hbad with hblanks | hnone
    · exact absurd (hblanks c hc) (by simp [hblank])
    · exact absurd ⟨v, Version.parse?_eq_some_iff.1 hv⟩ hnone

/-- A manifest that asks for a reboot in capitals, with a field that means nothing. -/
def agentText : String :=
  "\x7b\"name\":\"agent\", \"size\":[1,[]], \"version\":\"1.02.0\",\"reboot\":\" TRUE\\n\"\x7d"

/-- The files of a component that is installed. -/
def agentFiles : MemoryFiles :=
  MemoryFiles.empty.put ⟨"/packages/agent/1.02.0/manifest.json"⟩ (Bytes.ofText agentText)

theorem parse?_agentText :
    parse? agentText = .ok ⟨"agent", "1.02.0", none, none, none, " TRUE\n"⟩ :=
  eq_ok_of_toOption (by decide +kernel)

theorem readText_agentFiles :
    ((FileStore.readText (path ⟨"/packages"⟩ "agent" "1.02.0") : StateM MemoryFiles _)
      agentFiles).1 = .ok agentText := by
  refine MemoryFiles.readText_of_spared (by decide +kernel) ?_
  exact eq_ok_of_toOption (by decide +kernel)

/-- A manifest is loaded for its own directory, and for no blank name. -/
theorem load_describes_agent :
    (∃ m, ((load ⟨"/packages"⟩ "agent" "1.02.0" : StateM MemoryFiles _) agentFiles).1 = .ok m ∧
      m.requiresReboot = true) ∧
    ∃ fault, ((load ⟨"/packages/agent"⟩ "" "1.02.0" : StateM MemoryFiles _) agentFiles).1 =
      .error fault := by
  obtain ⟨hload, -, -⟩ := load_describes ⟨"/packages"⟩ "agent" "1.02.0" agentFiles
  obtain ⟨-, -, hfails⟩ := load_describes ⟨"/packages/agent"⟩ "" "1.02.0" agentFiles
  exact ⟨⟨_, (hload _).2 ⟨_, readText_agentFiles, parse?_agentText, rfl, rfl⟩, by decide +kernel⟩,
    hfails (.inl nofun)⟩

end ComponentManifest

end Depot
