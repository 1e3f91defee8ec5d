import Depot.Package.Version
import Depot.Proofs.Number
import Depot.Proofs.Text

/-!
# Texts of versions

A text denotes a version exactly if it consists of three numerals with dots between them, each of a
number below `2 ^ 64`; zeros may stand in front of each. Of the texts of one version only one has no
zero too many, and that is the one that is written.

The numbers of a version are of any size here. Those that are read fit into 64 bits, and the written
text of a version is read again exactly if its numbers do.

## Main definitions

* `Version.IsWord` : versions whose numbers fit into 64 bits.
* `Version.Spells` : the texts of a version, with the three numerals that they consist of.

## Main results

* `Version.parse?_eq_some_iff` : what is read as a version.
* `Version.read_grammar` : reading and writing together.
-/

namespace Depot

open Number (IsNumeral IsShort)

namespace Version

/-- The numbers of a version fit into 64 bits. -/
structure IsWord (v : Version) : Prop where
  major : v.major < Nat.pow 2 64
  minor : v.minor < Nat.pow 2 64
  build : v.build < Nat.pow 2 64

/-- A text consists of numerals of the numbers of a version, with dots between them. -/
structure Spells (s : String) (major minor build : List Char) (v : Version) : Prop where
  text : s.toList = major ++ '.' :: minor ++ '.' :: build
  major : IsNumeral major v.major
  minor : IsNumeral minor v.minor
  build : IsNumeral build v.build

variable {s : String} {major minor build : List Char} {v : Version}

/-- The numerals of a text are its parts between dots. -/
theorem Spells.splitAll_eq (h : Spells s major minor build v) :
    Text.splitAll '.' s.toList = [major, minor, build] := by
  have hjoin : s.toList = ['.'].intercalate [major, minor, build] := by
    rw [h.text]
    simp [List.intercalate_cons_cons]
  rw [hjoin]
  refine Text.splitAll_intercalate (List.cons_ne_nil _ _) fun part hpart => ?_
  simp only [List.mem_cons, List.not_mem_nil, or_false] at hpart
  rcases hpart with rfl | rfl | rfl
  · exact h.major.notMem rfl
  · exact h.minor.notMem rfl
  · exact h.build.notMem rfl

/-- **What is read as a version** is what spells one whose numbers fit into 64 bits. -/
theorem parse?_eq_some_iff :
    parse? s = some v ↔ v.IsWord ∧ ∃ major minor build, Spells s major minor build v := by
  constructor
  · intro h
    unfold parse? at h
    split at h
    · next major minor build hparts =>
      simp only [Option.bind_eq_bind, Option.bind_eq_some_iff] at h
      obtain ⟨m, hm, n, hn, k, hk, heq⟩ := h
      obtain rfl := Option.some.inj heq
      obtain ⟨hm, hmlt⟩ := Number.naturalBelow?_eq_some_iff.1 hm
      obtain ⟨hn, hnlt⟩ := Number.naturalBelow?_eq_some_iff.1 hn
      obtain ⟨hk, hklt⟩ := Number.naturalBelow?_eq_some_iff.1 hk
      refine ⟨⟨hmlt, hnlt, hklt⟩, major, minor, build, ?_, hm, hn, hk⟩
      rw [← Text.intercalate_splitAll '.' s.toList, hparts]
      simp [List.intercalate_cons_cons]
    · cases h
  · rintro ⟨hword, major, minor, build, hspells⟩
    unfold parse?
    simp only [hspells.splitAll_eq, Option.bind_eq_bind]
    rw [Number.naturalBelow?_eq_some_iff.2 ⟨hspells.major, hword.major⟩,
      Number.naturalBelow?_eq_some_iff.2 ⟨hspells.minor, hword.minor⟩,
      Number.naturalBelow?_eq_some_iff.2 ⟨hspells.build, hword.build⟩]
    rfl

theorem read_eq_ok_iff : read s = .ok v ↔ parse? s = some v := by
  unfold read
  cases parse? s <;> simp

theorem read_eq_error_iff {fault : ManifestFault} :
    read s = .error fault ↔ parse? s = none ∧ fault = .invalidVersion s := by
  unfold read
  cases parse? s with
  | none => simp [eq_comm]
  | some v => simp

/-! ### Written texts -/

/-- The written text of a version spells it in its digits. -/
theorem spells_text (v : Version) :
    Spells v.text (Number.digits v.major) (Number.digits v.minor) (Number.digits v.build) v where
  text := by rw [Version.text, String.toList_ofList]
  major := Number.isNumeral_digits _
  minor := Number.isNumeral_digits _
  build := Number.isNumeral_digits _

/-- A text of a version is its written text exactly if none of its numerals has a zero too many. -/
theorem Spells.text_eq_iff (h : Spells s major minor build v) :
    v.text = s ↔ IsShort major ∧ IsShort minor ∧ IsShort build := by
  rw [← Number.digits_eq_iff h.major, ← Number.digits_eq_iff h.minor,
    ← Number.digits_eq_iff h.build]
  constructor
  · intro heq
    have hparts := (heq ▸ v.spells_text).splitAll_eq
    rw [h.splitAll_eq] at hparts
    simpa [eq_comm] using hparts
  · rintro ⟨hmajor, hminor, hbuild⟩
    rw [Version.text, hmajor, hminor, hbuild, ← h.text, String.ofList_toList]

/-! ### Reading and writing together -/

/-- **Reading accepts exactly the texts of versions.** A text is read as the version that it spells,
if the numbers fit into 64 bits, and every other text is an invalid version. The written text of a
version with such numbers is read again, and a text that spells a version is its written text
exactly if none of its numerals has a zero too many. -/
theorem read_grammar (s : String) :
    (∀ v, read s = .ok v ↔ v.IsWord ∧ ∃ major minor build, Spells s major minor build v) ∧
    (∀ fault, read s = .error fault ↔ fault = .invalidVersion s ∧
      ¬∃ v, IsWord v ∧ ∃ major minor build, Spells s major minor build v) ∧
    (∀ v : Version, read v.text = .ok v ↔ v.IsWord) ∧
    ∀ v major minor build, Spells s major minor build v →
      (v.text = s ↔ IsShort major ∧ IsShort minor ∧ IsShort build) := by
  refine ⟨fun v => ?_, fun fault => ?_, fun v => ?_, fun v major minor build h => h.text_eq_iff⟩
  · rw [read_eq_ok_iff, parse?_eq_some_iff]
  · rw [read_eq_error_iff, and_comm, Option.eq_none_iff_forall_ne_some]
    simp only [ne_eq, parse?_eq_some_iff, not_exists]
  · rw [read_eq_ok_iff, parse?_eq_some_iff]
    exact and_iff_left ⟨_, _, _, v.spells_text⟩

theorem read_grammar_zeros :
    Spells "01.0.10" ['0', '1'] ['0'] ['1', '0'] ⟨1, 0, 10⟩ ∧
      read "01.0.10" = .ok ⟨1, 0, 10⟩ ∧ text ⟨1, 0, 10⟩ ≠ "01.0.10" := by
  have hspells : Spells "01.0.10" ['0', '1'] ['0'] ['1', '0'] ⟨1, 0, 10⟩ :=
    ⟨by decide, ⟨by decide, Text.forall_mem_of_all (by decide), by decide⟩,
      ⟨by decide, Text.forall_mem_of_all (by decide), by decide⟩,
      ⟨by decide, Text.forall_mem_of_all (by decide), by decide⟩⟩
  have hread : read "01.0.10" = .ok ⟨1, 0, 10⟩ :=
    ((read_grammar _).1 _).2 ⟨⟨by decide, by decide, by decide⟩, _, _, _, hspells⟩
  refine ⟨hspells, hread, fun htext => ?_⟩
  have hshort := ((read_grammar _).2.2.2 _ _ _ _ hspells).1 htext
  exact absurd hshort.1 (by decide)

end Version

end Depot
