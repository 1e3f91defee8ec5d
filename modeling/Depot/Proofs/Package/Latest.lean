import Mathlib.Data.List.Induction
import Mathlib.Data.Prod.Lex
import Depot.Package.Version

/-!
# The latest version

Of some candidates the latest version is chosen: a candidate whose version is the greatest among
those that count, and the first one of that version. Two candidates may denote the same version in
different texts, such as `01.0.0` and `1.0.0`; the text that is left out is left out as a text, so
that another spelling of its version still counts.

The best of two lists is the later one of the best of each. Comparing the best so far with one more
candidate is the same for a list of one, so that what is known of the choice follows by induction on
the candidates from their end.

## Main definitions

* `CountsAs` : the candidates that count, with their versions.
* `IsLatest` : the latest of some candidates.
* `laterOf`, `laterText` : the later one of two choices.

## Main results

* `Version.before_iff_lt` : versions are compared by their first different number.
* `isBest_foldl` : what is known of the best after any candidates.
* `latestVersion?_isLatest` : the choice is a maximum.
-/

namespace Depot

/-! ### The order of versions -/

namespace Version

/-- The numbers of a version in the order in which they count. -/
def numbers (v : Version) : ℕ ×ₗ ℕ ×ₗ ℕ :=
  toLex (v.major, toLex (v.minor, v.build))

theorem numbers_injective : Function.Injective numbers := by
  rintro ⟨major, minor, build⟩ ⟨major', minor', build'⟩ h
  simpa [numbers] using h

/-- Versions are ordered by the first number in which they differ. -/
instance : LinearOrder Version :=
  LinearOrder.lift' numbers numbers_injective

variable {v w : Version}

theorem lt_iff :
    v < w ↔ v.major < w.major ∨
      v.major = w.major ∧ (v.minor < w.minor ∨ v.minor = w.minor ∧ v.build < w.build) := by
  change v.numbers < w.numbers ↔ _
  simp [numbers, Prod.Lex.lt_iff]

theorem before_iff_lt : v.before w = true ↔ v < w := by
  simp [before, lt_iff]

end Version

/-! ### Candidates -/

/-- A candidate counts as a version: it denotes it, and it is not the text that is left out. -/
def CountsAs (excluded candidate : String) (v : Version) : Prop :=
  candidate ≠ excluded ∧ Version.parse? candidate = some v

instance (excluded candidate : String) (v : Version) : Decidable (CountsAs excluded candidate v) :=
  inferInstanceAs (Decidable (_ ∧ _))

/-- The first of the candidates that count as the greatest version. -/
structure IsLatest (excluded : String) (candidates : List String) (c : String) (v : Version) :
    Prop where
  counts : CountsAs excluded c v
  greatest : ∀ d ∈ candidates, ∀ w, CountsAs excluded d w → w ≤ v
  first : ∃ earlier later, candidates = earlier ++ c :: later ∧
    ∀ d ∈ earlier, ¬CountsAs excluded d v

/-- The best of some candidates: the latest one with its version, if there are any that count. -/
inductive IsBest (excluded : String) (candidates : List String) :
    Option (Version × String) → Prop
  | none (h : ∀ c ∈ candidates, ∀ v, ¬CountsAs excluded c v) : IsBest excluded candidates none
  | some {c : String} {v : Version} (h : IsLatest excluded candidates c v) :
    IsBest excluded candidates (some (v, c))

/-- A candidate with its version, if it counts. -/
def counted (excluded candidate : String) : Option (Version × String) :=
  if candidate = excluded then none else (Version.parse? candidate).map (·, candidate)

/-- The later one of two choices, and the first one of equal versions. -/
def laterOf : Option (Version × String) → Option (Version × String) → Option (Version × String)
  | none, b => b
  | some a, none => some a
  | some a, some b => if a.1 < b.1 then some b else some a

/-- The later one of two chosen texts, and the first one of equal versions. -/
def laterText (c d : Option String) : Option String :=
  match c.bind Version.parse?, d.bind Version.parse? with
  | none, _ => d
  | some _, none => c
  | some v, some w => if v < w then d else c

variable {excluded : String} {candidates more : List String} {c d : String} {v w : Version}
  {a b : Option (Version × String)}

/-- Comparing with the best so far takes the later one. -/
theorem betterVersion_eq (excluded : String) (best : Option (Version × String)) (c : String) :
    betterVersion excluded best c = laterOf best (counted excluded c) := by
  unfold betterVersion counted
  split
  · cases best <;> rfl
  · cases Version.parse? c with
    | none => cases best <;> rfl
    | some v =>
      cases best with
      | none => rfl
      | some a =>
        simp only [Version.before_iff_lt]
        rfl

theorem counted_eq_some_iff : counted excluded c = some (v, d) ↔ c = d ∧ CountsAs excluded c v := by
  unfold counted CountsAs
  split
  · next h => simp [h]
  · next h =>
    rw [Option.map_eq_some_iff]
    simp only [Prod.mk.injEq, ne_eq, h, not_false_eq_true, true_and]
    exact ⟨fun ⟨_, hv, rfl, hcd⟩ => ⟨hcd, hv⟩, fun ⟨hcd, hv⟩ => ⟨v, hv, rfl, hcd⟩⟩

/-! ### Two lists -/

theorem IsLatest.append_left (h : IsLatest excluded candidates c v)
    (hmore : ∀ d ∈ more, ∀ w, CountsAs excluded d w → w ≤ v) :
    IsLatest excluded (candidates ++ more) c v where
  counts := h.counts
  greatest d hd := (List.mem_append.1 hd).elim (h.greatest d) (hmore d)
  first := by
    obtain ⟨earlier, later, rfl, hearlier⟩ := h.first
    exact ⟨earlier, later ++ more, by simp, hearlier⟩

theorem IsLatest.append_right (h : IsLatest excluded more c v)
    (hbefore : ∀ d ∈ candidates, ∀ w, CountsAs excluded d w → w < v) :
    IsLatest excluded (candidates ++ more) c v where
  counts := h.counts
  greatest d hd w hw :=
    (List.mem_append.1 hd).elim (fun hd => (hbefore d hd w hw).le) fun hd => h.greatest d hd w hw
  first := by
    obtain ⟨earlier, later, rfl, hearlier⟩ := h.first
    refine ⟨candidates ++ earlier, later, by simp, fun d hd hcounts => ?_⟩
    rcases List.mem_append.1 hd with hd | hd
    · exact lt_irrefl v (hbefore d hd v hcounts)
    · exact hearlier d hd hcounts

/-- **The best of two lists** is the later one of the best of each. -/
theorem IsBest.append (ha : IsBest excluded candidates a) (hb : IsBest excluded more b) :
    IsBest excluded (candidates ++ more) (laterOf a b) := by
  cases ha with
  | none hnone =>
    cases hb with
    | none hnone' => exact .none fun c hc => (List.mem_append.1 hc).elim (hnone c) (hnone' c)
    | some h => exact .some (h.append_right fun c hc v hv => absurd hv (hnone c hc v))
  | @some c v h =>
    cases hb with
    | none hnone => exact .some (h.append_left fun d hd w hw => absurd hw (hnone d hd w))
    | @some d w h' =>
      rw [laterOf]
      split
      · next hlt => exact .some (h'.append_right fun e he u hu =>
          (h.greatest e he u hu).trans_lt hlt)
      · next hge =>
        exact .some (h.append_left fun e he u hu =>
          (h'.greatest e he u hu).trans (not_lt.1 hge))

theorem isBest_singleton (excluded c : String) : IsBest excluded [c] (counted excluded c) := by
  cases hc : counted excluded c with
  | none =>
    refine .none fun d hd v hv => ?_
    obtain rfl := List.mem_singleton.1 hd
    rw [counted_eq_some_iff.2 ⟨rfl, hv⟩] at hc
    cases hc
  | some pair =>
    obtain ⟨v, d⟩ := pair
    obtain ⟨rfl, hcounts⟩ := counted_eq_some_iff.1 hc
    refine .some ⟨hcounts, fun d hd w hw => ?_, [], [], rfl, nofun⟩
    obtain rfl := List.mem_singleton.1 hd
    exact (Option.some.inj (hw.2.symm.trans hcounts.2)).le

/-- **The best after any candidates.** -/
theorem isBest_foldl (excluded : String) (candidates : List String) :
    IsBest excluded candidates (candidates.foldl (betterVersion excluded) none) := by
  induction candidates using List.reverseRecOn with
  | nil => exact .none nofun
  | append_singleton candidates c ih =>
    rw [List.foldl_append, List.foldl_cons, List.foldl_nil, betterVersion_eq]
    exact ih.append (isBest_singleton excluded c)

/-! ### The choice -/

theorem IsLatest.mem (h : IsLatest excluded candidates c v) : c ∈ candidates := by
  obtain ⟨earlier, later, rfl, -⟩ := h.first
  exact List.mem_append_right _ List.mem_cons_self

theorem IsLatest.find?_eq (h : IsLatest excluded candidates c v) :
    candidates.find? (CountsAs excluded · v) = some c := by
  obtain ⟨earlier, later, hcut, hnot⟩ := h.first
  exact List.find?_eq_some_iff_append.2
    ⟨decide_eq_true h.counts, earlier, later, hcut, by simpa using hnot⟩

/-- There is only one latest candidate. -/
theorem IsLatest.unique (h : IsLatest excluded candidates c v)
    (h' : IsLatest excluded candidates d w) : c = d ∧ v = w := by
  obtain rfl : v = w :=
    le_antisymm (h'.greatest c h.mem v h.counts) (h.greatest d h'.mem w h'.counts)
  exact ⟨Option.some.inj (h.find?_eq.symm.trans h'.find?_eq), rfl⟩

theorem IsBest.unique (ha : IsBest excluded candidates a) (hb : IsBest excluded candidates b) :
    a = b := by
  cases ha with
  | none hnone =>
    cases hb with
    | none => rfl
    | some h => exact absurd h.counts (hnone _ h.mem _)
  | some h =>
    cases hb with
    | none hnone => exact absurd h.counts (hnone _ h.mem _)
    | some h' =>
      obtain ⟨rfl, rfl⟩ := h.unique h'
      rfl

/-- The choice from any candidates, with its version. -/
theorem exists_isBest (excluded : String) (candidates : List String) :
    ∃ best, IsBest excluded candidates best ∧
      latestVersion? candidates excluded = best.map Prod.snd :=
  ⟨_, isBest_foldl excluded candidates, rfl⟩

theorem latestVersion?_eq_none_iff :
    latestVersion? candidates excluded = none ↔
      ∀ c ∈ candidates, ∀ v, ¬CountsAs excluded c v := by
  obtain ⟨best, hbest, heq⟩ := exists_isBest excluded candidates
  rw [heq]
  cases hbest with
  | none hnone => exact iff_of_true rfl hnone
  | some h => exact iff_of_false nofun fun hnone => hnone _ h.mem _ h.counts

theorem latestVersion?_eq_some_iff :
    latestVersion? candidates excluded = some c ↔ ∃ v, IsLatest excluded candidates c v := by
  obtain ⟨best, hbest, heq⟩ := exists_isBest excluded candidates
  rw [heq]
  cases hbest with
  | none hnone => exact iff_of_false nofun fun ⟨v, h⟩ => hnone _ h.mem _ h.counts
  | some h =>
    exact ⟨fun hc => Option.some.inj hc ▸ ⟨_, h⟩, fun ⟨_, h'⟩ => congrArg some (h.unique h').1⟩

/-- The version that is chosen is the greatest one that counts, wherever its candidates stand. -/
theorem bind_latestVersion?_eq_some_iff :
    (latestVersion? candidates excluded).bind Version.parse? = some v ↔
      (∃ c ∈ candidates, CountsAs excluded c v) ∧
        ∀ d ∈ candidates, ∀ w, CountsAs excluded d w → w ≤ v := by
  rw [Option.bind_eq_some_iff]
  constructor
  · rintro ⟨c, hc, hv⟩
    obtain ⟨w, h⟩ := latestVersion?_eq_some_iff.1 hc
    obtain rfl := Option.some.inj (h.counts.2.symm.trans hv)
    exact ⟨⟨c, h.mem, h.counts⟩, h.greatest⟩
  · rintro ⟨⟨c, hc, hcounts⟩, hgreatest⟩
    cases hlatest : latestVersion? candidates excluded with
    | none => exact absurd hcounts (latestVersion?_eq_none_iff.1 hlatest c hc v)
    | some d =>
      obtain ⟨w, h⟩ := latestVersion?_eq_some_iff.1 hlatest
      obtain rfl : w = v :=
        le_antisymm (hgreatest d h.mem w h.counts) (h.greatest c hc v hcounts)
      exact ⟨d, rfl, h.counts.2⟩

theorem latestVersion?_append (candidates more : List String) (excluded : String) :
    latestVersion? (candidates ++ more) excluded =
      laterText (latestVersion? candidates excluded) (latestVersion? more excluded) := by
  obtain ⟨a, ha, hcandidates⟩ := exists_isBest excluded candidates
  obtain ⟨b, hb, hmore⟩ := exists_isBest excluded more
  obtain ⟨best, hbest, hboth⟩ := exists_isBest excluded (candidates ++ more)
  rw [hboth, hcandidates, hmore, hbest.unique (ha.append hb)]
  cases ha with
  | none =>
    cases hb with
    | none => rfl
    | some => rfl
  | some h =>
    cases hb with
    | none => simp [laterText, laterOf, h.counts.2]
    | some h' =>
      simp only [laterText, laterOf, Option.map_some, Option.bind_some, h.counts.2, h'.counts.2]
      split <;> rfl

/-- **The latest version is a maximum.** Nothing is chosen exactly if no candidate counts, and else
the first candidate of the greatest version that counts. The version that is chosen depends on the
candidates alone, not on their order and on how often each of them stands there; and the choice from
two lists is the later one of the choices from each, or the first of them if the versions are
equal. -/
theorem latestVersion?_isLatest (candidates : List String) (excluded : String) :
    (latestVersion? candidates excluded = none ↔
      ∀ c ∈ candidates, ∀ v, ¬CountsAs excluded c v) ∧
    (∀ c, latestVersion? candidates excluded = some c ↔
      ∃ v, IsLatest excluded candidates c v) ∧
    (∀ others : List String, (∀ c, c ∈ others ↔ c ∈ candidates) →
      (latestVersion? others excluded).bind Version.parse? =
        (latestVersion? candidates excluded).bind Version.parse?) ∧
    ∀ more, latestVersion? (candidates ++ more) excluded =
      laterText (latestVersion? candidates excluded) (latestVersion? more excluded) := by
  refine ⟨latestVersion?_eq_none_iff, fun c => latestVersion?_eq_some_iff, fun others h => ?_,
    fun more => latestVersion?_append candidates more excluded⟩
  ext v
  simp only [bind_latestVersion?_eq_some_iff, h]

/-- The same candidates in another order and one of them twice: another text of the version that is
chosen, which is not the one that is left out. -/
theorem latestVersion?_isLatest_spellings :
    (∀ c, c ∈ ["2.0.0", "10.0.0", "010.0.0", "2.0.0"] ↔ c ∈ ["010.0.0", "2.0.0", "10.0.0"]) ∧
      (latestVersion? ["2.0.0", "10.0.0", "010.0.0", "2.0.0"] "3.0.0").bind Version.parse? =
        some ⟨10, 0, 0⟩ := by
  have hmem : ∀ c, c ∈ ["2.0.0", "10.0.0", "010.0.0", "2.0.0"] ↔
      c ∈ ["010.0.0", "2.0.0", "10.0.0"] := fun c => by
    simp only [List.mem_cons, List.not_mem_nil, or_false]
    tauto
  refine ⟨hmem, ?_⟩
  rw [(latestVersion?_isLatest ["010.0.0", "2.0.0", "10.0.0"] "3.0.0").2.2.1 _ hmem]
  decide

end Depot
