import Depot.Package.Manifest

/-!
# Selecting variants

A variant is selected level by level, and at each level at most one key comes into question: the
requested one if it is there, else the one that stands for any. What has been taken is not given
back, so that a fault at a deeper level is a fault of the whole selection, and all entries under
other keys might as well not be there.

## Main definitions

* `Dict.Takes`, `Dict.Lacks` : the key that is taken at a level, and levels at which none is.
* `PackageManifest.Selects` : the ways a selection can go.
* `PackageManifest.relevant` : the entries that can matter to a request.

## Main results

* `PackageManifest.select_eq_iff` : a selection goes one of these ways.
* `PackageManifest.select_relevant` : the other entries may be left out.
* `PackageManifest.select_greedy` : both together.
-/

namespace Depot

namespace Dict

variable {α β : Type} {d : Dict α} {key k : String} {a : α} {dimension : Dimension}
  {fault : ManifestFault}

/-! ### One level -/

/-- The key that is taken at a level, with what stands there. -/
inductive Takes (d : Dict α) (key : String) : String → α → Prop
  | exact {a : α} (h : d.get? key = some a) : Takes d key key a
  | any {a : α} (hkey : d.get? key = none) (h : d.get? anyKey = some a) : Takes d key anyKey a

/-- Neither the requested key nor the one that stands for any is there. -/
structure Lacks (d : Dict α) (key : String) : Prop where
  key : d.get? key = none
  any : d.get? anyKey = none

theorem resolve_cases (d : Dict α) (dimension : Dimension) (key : String) :
    (∃ k a, d.Takes key k a ∧ d.resolve dimension key = .ok (k, a)) ∨
      d.Lacks key ∧ d.resolve dimension key = .error (.noMatch dimension key) := by
  unfold resolve resolve?
  cases hkey : d.get? key with
  | some a => exact .inl ⟨key, a, .exact hkey, rfl⟩
  | none =>
    cases hany : d.get? anyKey with
    | some a => exact .inl ⟨anyKey, a, .any hkey hany, rfl⟩
    | none => exact .inr ⟨⟨hkey, hany⟩, rfl⟩

theorem Takes.resolve_eq (h : d.Takes key k a) : d.resolve dimension key = .ok (k, a) := by
  unfold resolve resolve?
  cases h with
  | exact h => simp [h]
  | any hkey h => simp [hkey, h]

theorem Lacks.resolve_eq (h : d.Lacks key) :
    d.resolve dimension key = .error (.noMatch dimension key) := by
  unfold resolve resolve?
  simp [h.key, h.any]

/-! ### Leaving entries out -/

/-- The entries whose keys have a property. -/
def keep (d : Dict α) (p : String → Bool) : Dict α :=
  ⟨d.pairs.filter fun pair => p pair.1, d.ordered.filter _⟩

/-- The entries with their values changed by a function. -/
def mapValues (d : Dict α) (f : α → β) : Dict β :=
  ⟨d.pairs.map fun pair => (pair.1, f pair.2), List.pairwise_map.2 d.ordered⟩

/-- The entries that matter to a request at their level: the requested one, or else the one that
stands for any. -/
def relevant (d : Dict α) (key : String) : Dict α :=
  d.keep fun k => k = key ∨ k = anyKey ∧ d.get? key = none

theorem get?_keep (d : Dict α) (p : String → Bool) (key : String) :
    (d.keep p).get? key = if p key then d.get? key else none := by
  change lookup key (d.pairs.filter fun pair => p pair.1) =
    if p key then lookup key d.pairs else none
  induction d.pairs with
  | nil => simp [lookup]
  | cons pair pairs ih =>
    obtain ⟨k, a⟩ := pair
    by_cases hk : k = key
    · subst hk
      cases hp : p k <;> simp_all [lookup]
    · cases hp : p k <;> simp_all [lookup]

theorem get?_mapValues (d : Dict α) (f : α → β) (key : String) :
    (d.mapValues f).get? key = (d.get? key).map f := by
  change lookup key (d.pairs.map fun pair => (pair.1, f pair.2)) = (lookup key d.pairs).map f
  induction d.pairs with
  | nil => rfl
  | cons pair pairs ih =>
    obtain ⟨k, a⟩ := pair
    by_cases hk : k = key <;> simp [lookup, hk, ih]

theorem resolve_mapValues (d : Dict α) (f : α → β) (dimension : Dimension) (key : String) :
    (d.mapValues f).resolve dimension key =
      (d.resolve dimension key).map fun (k, a) => (k, f a) := by
  unfold resolve resolve?
  rw [get?_mapValues, get?_mapValues]
  cases d.get? key with
  | some a => rfl
  | none => cases d.get? anyKey <;> rfl

/-- Where only the entries are left that matter, the same key is taken. -/
theorem resolve_relevant (d : Dict α) (dimension : Dimension) (key : String) :
    (d.relevant key).resolve dimension key = d.resolve dimension key := by
  have hkey : (d.relevant key).get? key = d.get? key := by simp [relevant, get?_keep]
  rcases d.resolve_cases dimension key with ⟨k, a, htakes, heq⟩ | ⟨hlacks, heq⟩
  · rw [heq]
    refine Takes.resolve_eq ?_
    cases htakes with
    | exact h => exact .exact (hkey.trans h)
    | any hnone h => exact .any (hkey.trans hnone) (by simp [relevant, get?_keep, hnone, h])
  · rw [heq]
    exact Lacks.resolve_eq ⟨hkey.trans hlacks.key, by simp [relevant, get?_keep, hlacks.any]⟩

end Dict

namespace PackageManifest

variable {m : PackageManifest} {platform osVersion arch : String}
  {result : Except ManifestFault VariantSelection}

/-! ### All levels -/

/-- The ways a selection can go: the first level at which no key is taken is the fault, and nothing
is tried instead. -/
inductive Selects (m : PackageManifest) (platform osVersion arch : String) :
    Except ManifestFault VariantSelection → Prop
  | noPlatform (h : m.packages.Lacks platform) :
    Selects m platform osVersion arch (.error (.noMatch .platform platform))
  | noOsVersion {p : String} {versions : Dict (Dict PackageVariant)}
      (hplatform : m.packages.Takes platform p versions) (h : versions.Lacks osVersion) :
    Selects m platform osVersion arch (.error (.noMatch .osVersion osVersion))
  | noArch {p v : String} {versions : Dict (Dict PackageVariant)} {arches : Dict PackageVariant}
      (hplatform : m.packages.Takes platform p versions)
      (hversion : versions.Takes osVersion v arches) (h : arches.Lacks arch) :
    Selects m platform osVersion arch (.error (.noMatch .arch arch))
  | found {p v a : String} {versions : Dict (Dict PackageVariant)} {arches : Dict PackageVariant}
      {variant : PackageVariant} (hplatform : m.packages.Takes platform p versions)
      (hversion : versions.Takes osVersion v arches) (harch : arches.Takes arch a variant) :
    Selects m platform osVersion arch (.ok ⟨p, v, a, variant⟩)

/-- Every way leads to what is selected. -/
theorem Selects.select_eq (h : m.Selects platform osVersion arch result) :
    m.select platform osVersion arch = result := by
  unfold select
  cases h with
  | noPlatform h => simp only [bind, Except.bind, h.resolve_eq]
  | noOsVersion hplatform h => simp only [bind, Except.bind, hplatform.resolve_eq, h.resolve_eq]
  | noArch hplatform hversion h =>
    simp only [bind, Except.bind, hplatform.resolve_eq, hversion.resolve_eq, h.resolve_eq]
  | found hplatform hversion harch =>
    simp only [bind, Except.bind, hplatform.resolve_eq, hversion.resolve_eq, harch.resolve_eq]

theorem exists_selects (m : PackageManifest) (platform osVersion arch : String) :
    ∃ result, m.Selects platform osVersion arch result := by
  rcases m.packages.resolve_cases .platform platform with ⟨p, versions, hp, -⟩ | ⟨hp, -⟩
  · rcases versions.resolve_cases .osVersion osVersion with ⟨v, arches, hv, -⟩ | ⟨hv, -⟩
    · rcases arches.resolve_cases .arch arch with ⟨a, variant, ha, -⟩ | ⟨ha, -⟩
      · exact ⟨_, .found hp hv ha⟩
      · exact ⟨_, .noArch hp hv ha⟩
    · exact ⟨_, .noOsVersion hp hv⟩
  · exact ⟨_, .noPlatform hp⟩

/-- **A selection goes one of the ways,** and only one of them. -/
theorem select_eq_iff :
    m.select platform osVersion arch = result ↔ m.Selects platform osVersion arch result := by
  refine ⟨fun h => ?_, Selects.select_eq⟩
  obtain ⟨result', h'⟩ := m.exists_selects platform osVersion arch
  rwa [← h, h'.select_eq]

/-! ### Tables with the same relevant entries -/

/-- The entries of the table that matter to a request: at every level the one with the requested
key, or else the one with the key that stands for any. -/
def relevant (m : PackageManifest) (platform osVersion arch : String) : PackageTable :=
  (m.packages.relevant platform).mapValues fun versions =>
    (versions.relevant osVersion).mapValues fun arches => arches.relevant arch

/-- **The other entries may be left out.** -/
theorem select_relevant (m : PackageManifest) (platform osVersion arch : String) :
    { m with packages := m.relevant platform osVersion arch }.select platform osVersion arch =
      m.select platform osVersion arch := by
  unfold select relevant
  simp only [Dict.resolve_mapValues, Dict.resolve_relevant]
  cases m.packages.resolve .platform platform with
  | error fault => rfl
  | ok p =>
    simp only [bind, Except.bind, Except.map, Dict.resolve_mapValues, Dict.resolve_relevant]
    cases p.2.resolve .osVersion osVersion with
    | error fault => rfl
    | ok v => simp only [Dict.resolve_relevant]

/-- **A selection descends greedily and looks at nothing else.** At every level it takes the
requested key if it is there, else the one that stands for any, and gives the keys that were taken
with the variant, or the first level at which neither is there with what was requested of it.
Manifests with the same relevant entries select the same. -/
theorem select_greedy (m : PackageManifest) (platform osVersion arch : String) :
    (∀ result, m.select platform osVersion arch = result ↔
      m.Selects platform osVersion arch result) ∧
    ∀ m' : PackageManifest,
      m'.relevant platform osVersion arch = m.relevant platform osVersion arch →
      m'.select platform osVersion arch = m.select platform osVersion arch := by
  refine ⟨fun result => select_eq_iff, fun m' h => ?_⟩
  rw [← select_relevant m', ← select_relevant m, h]
  rfl

/-- A manifest of a table. -/
def ofTable (packages : PackageTable) : PackageManifest :=
  ⟨"agent", "1.2.0", none, none, packages, Dict.empty⟩

/-- A variant that names a file. -/
def variantOf (file : String) : PackageVariant :=
  ⟨file, Dict.empty⟩

/-- The variants for a platform and an architecture, with others for any of them. -/
def wideTable : PackageTable :=
  .ofList [("ubuntu", .ofList [("22.04", .ofList [("x86_64", variantOf "agent-jammy.zip")]),
    ("_any", .ofList [("arm64", variantOf "agent-ubuntu.zip")])]),
    ("_any", .ofList [("_any", .ofList [("_any", variantOf "agent.zip")])])]

/-- The variants for one version of a platform. -/
def narrowTable : PackageTable :=
  .ofList [("ubuntu", .ofList [("22.04", .ofList [("i386", variantOf "agent-i386.zip")])])]

/-- There is no way back to other entries from a version without the architecture. -/
theorem select_greedy_noWayBack :
    (ofTable wideTable).relevant "ubuntu" "22.04" "arm64" =
      (ofTable narrowTable).relevant "ubuntu" "22.04" "arm64" ∧
    (ofTable wideTable).select "ubuntu" "22.04" "arm64" = .error (.noMatch .arch "arm64") := by
  have hrelevant : (ofTable wideTable).relevant "ubuntu" "22.04" "arm64" =
      (ofTable narrowTable).relevant "ubuntu" "22.04" "arm64" := by
    rfl
  refine ⟨hrelevant, ?_⟩
  rw [((ofTable narrowTable).select_greedy "ubuntu" "22.04" "arm64").2 _ hrelevant]
  rfl

end PackageManifest

end Depot
