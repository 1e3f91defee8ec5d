import Depot.ObjectStore.HostShape
import Depot.Proofs.Text

/-!
# Hosts of the object store, by their labels

A service host without its bucket begins with the label `s3`, or with one that begins with `s3-`.
So the bucket of a service host is what stands before the last such label, whatever labels the
bucket itself has. An endpoint host ends in labels of its own, which no region of a service host
is mistaken for.

## Main definitions

* `ObjectStore.endpointOf` : the host of an endpoint.
* `ObjectStore.serviceFronts` : all that stands in front of the end of a service host.
* `ObjectStore.IsServiceLabel` : the labels that a service host can begin with.

## Main results

* `ObjectStore.exists_of_endpointRegion?`, `ObjectStore.exists_of_serviceRegion?` : what a host
  without a bucket is put together from.
* `ObjectStore.serviceParts?_of_labels` : the bucket ends before the last label of a service.
* `ObjectStore.ofHost?_of_labels` : the parts of a service host, with and without a bucket.
-/

namespace Depot.ObjectStore

/-! ### Cuts -/

theorem dotSplits_dot (c : Char) (back : List Char) :
    dotSplits (c :: '.' :: back) =
      ([c], back) :: (dotSplits ('.' :: back)).map fun (front, back) => (c :: front, back) :=
  rfl

theorem dotSplits_cons {c : Char} {rest : List Char} (h : ∀ back, rest ≠ '.' :: back) :
    dotSplits (c :: rest) = (dotSplits rest).map fun (front, back) => (c :: front, back) := by
  cases rest with
  | nil => rfl
  | cons d rest =>
    have hd : d ≠ '.' := by
      rintro rfl
      exact h rest rfl
    conv => lhs; unfold dotSplits
    split
    · next heq => exact absurd (List.cons.inj heq).1 hd
    · rfl

/-- A cut of a text is at one of its dots, with something before it. -/
theorem of_mem_dotSplits {cs : List Char} {cut : List Char × List Char} (h : cut ∈ dotSplits cs) :
    cut.1 ≠ [] ∧ cs = cut.1 ++ '.' :: cut.2 := by
  induction cs generalizing cut with
  | nil => cases h
  | cons c rest ih =>
    have hlater : ∀ {cut}, cut ∈ (dotSplits rest).map (fun (front, back) => (c :: front, back)) →
        cut.1 ≠ [] ∧ c :: rest = cut.1 ++ '.' :: cut.2 := by
      simp only [List.mem_map]
      rintro _ ⟨cut, hmem, rfl⟩
      exact ⟨List.cons_ne_nil _ _, congrArg (c :: ·) (ih hmem).2⟩
    by_cases hdot : ∃ back, rest = '.' :: back
    · obtain ⟨back, rfl⟩ := hdot
      rw [dotSplits_dot, List.mem_cons] at h
      rcases h with rfl | h
      · exact ⟨List.cons_ne_nil _ _, rfl⟩
      · exact hlater h
    · rw [dotSplits_cons fun back h => hdot ⟨back, h⟩] at h
      exact hlater h

theorem exists_dotSplits_append {front : List Char} (h : front ≠ []) (back : List Char) :
    ∃ shorter longer, dotSplits (front ++ '.' :: back) = shorter ++ (front, back) :: longer ∧
      ∀ cut ∈ longer, ∃ more, back = more ++ '.' :: cut.2 := by
  induction front with
  | nil => exact absurd rfl h
  | cons c front ih =>
    cases front with
    | nil =>
      refine ⟨[], _, dotSplits_dot c back, ?_⟩
      simp only [List.mem_map]
      rintro _ ⟨⟨front, rest⟩, hmem, rfl⟩
      obtain ⟨hne, heq⟩ := of_mem_dotSplits hmem
      obtain ⟨d, more, hfront⟩ := List.exists_cons_of_ne_nil hne
      exact ⟨more, (List.cons.inj (hfront ▸ heq)).2⟩
    | cons d front =>
      obtain ⟨shorter, longer, hcuts, hlonger⟩ := ih (List.cons_ne_nil _ _)
      have hmap : ∃ first, dotSplits (c :: (d :: front ++ '.' :: back)) = first ++
          (dotSplits (d :: front ++ '.' :: back)).map fun (front, back) => (c :: front, back) := by
        by_cases hd : d = '.'
        · subst hd
          exact ⟨[_], dotSplits_dot c _⟩
        · exact ⟨[], dotSplits_cons fun back' heq => hd (List.cons.inj heq).1⟩
      obtain ⟨first, hmap⟩ := hmap
      rw [hcuts, List.map_append, List.map_cons, ← List.append_assoc] at hmap
      refine ⟨_, _, hmap, ?_⟩
      · simp only [List.mem_map]
        rintro _ ⟨cut, hmem, rfl⟩
        exact hlonger cut hmem

variable {region? : List Char → Option (List Char)}

theorem firstCut?_eq_none_iff {cuts : List (List Char × List Char)} :
    firstCut? region? cuts = none ↔ ∀ cut ∈ cuts, region? cut.2 = none := by
  simp [firstCut?]

/-- The longest front is taken whose back has the shape. -/
theorem firstCut?_reverse {front back region : List Char} (hfront : front ≠ [])
    (hback : region? back = some region)
    (hlonger : ∀ more rest, back = more ++ '.' :: rest → region? rest = none) :
    firstCut? region? (dotSplits (front ++ '.' :: back)).reverse = some ⟨front, region⟩ := by
  obtain ⟨shorter, longer, hcuts, hmem⟩ := exists_dotSplits_append hfront back
  have hnone : firstCut? region? longer.reverse = none := by
    rw [firstCut?_eq_none_iff]
    intro cut hcut
    obtain ⟨more, hmore⟩ := hmem cut (List.mem_reverse.1 hcut)
    exact hlonger more cut.2 hmore
  rw [firstCut?] at hnone
  simp [firstCut?, hcuts, List.findSome?_append, hnone, hback]

theorem firstCut?_cons (front back : List Char) (cuts : List (List Char × List Char)) :
    firstCut? region? ((front, back) :: cuts) =
      ((region? back).map fun region => ⟨front, region⟩).or (firstCut? region? cuts) := by
  cases h : region? back with
  | none => simp [firstCut?, h]
  | some region => simp [firstCut?, h]

theorem firstCut?_map_cons (c : Char) (cuts : List (List Char × List Char)) :
    firstCut? region? (cuts.map fun (front, back) => (c :: front, back)) =
      (firstCut? region? cuts).map fun parts => ⟨c :: parts.bucket, parts.region⟩ := by
  induction cuts with
  | nil => rfl
  | cons cut cuts ih =>
    rw [List.map_cons, firstCut?_cons, ih, firstCut?_cons, Option.map_or, Option.map_map]
    rfl

/-- The shortest front is taken whose back has the shape. -/
theorem firstCut?_shortest {front back region : List Char} (hfront : front ≠ [])
    (hback : region? back = some region)
    (hshorter : ∀ more, region? (more ++ '.' :: back) = none) :
    firstCut? region? (dotSplits (front ++ '.' :: back)) = some ⟨front, region⟩ := by
  induction front with
  | nil => exact absurd rfl hfront
  | cons c front ih =>
    cases front with
    | nil =>
      rw [List.singleton_append, dotSplits_dot, firstCut?_cons, hback, Option.map_some,
        Option.some_or]
    | cons d front =>
      -- The cuts after the first character are those of what follows it.
      have hlater : firstCut? region? ((dotSplits (d :: front ++ '.' :: back)).map
          fun (front, back) => (c :: front, back)) = some ⟨c :: d :: front, region⟩ := by
        rw [firstCut?_map_cons, ih (List.cons_ne_nil _ _), Option.map_some]
      by_cases hd : d = '.'
      · subst hd
        rwa [List.cons_append, List.cons_append, dotSplits_dot, firstCut?_cons, hshorter front,
          Option.map_none, Option.none_or]
      · rwa [List.cons_append, List.cons_append,
          dotSplits_cons fun back' heq => hd (List.cons.inj heq).1]

/-! ### Words -/

theorem optionally_of_none {α : Type} {words : List String} {read : List Char → Option α}
    {cs : List Char} (h : ∀ word ∈ words, Text.beginsWith word.toList cs = false) :
    optionally words read cs = read cs := by
  have hwords :
      words.findSome? (fun word => (Text.afterBeginning word.toList cs).bind read) = none := by
    rw [List.findSome?_eq_none_iff]
    intro word hword
    rw [Text.beginsWith_eq_false_iff.1 (h word hword), Option.bind_none]
  rw [optionally, hwords, Option.none_or]

/-- What is read after optional words is read behind one of them, or behind none. -/
theorem exists_of_optionally {α : Type} {words : List String} {read : List Char → Option α}
    {cs : List Char} {a : α} (h : optionally words read cs = some a) :
    ∃ word ∈ "" :: words, ∃ back, cs = word.toList ++ back ∧ read back = some a := by
  rcases Option.or_eq_some_iff.1 h with h | ⟨-, h⟩
  · obtain ⟨word, hmem, hword⟩ := List.exists_of_findSome?_eq_some h
    obtain ⟨back, hback, hread⟩ := Option.bind_eq_some_iff.1 hword
    exact ⟨word, List.mem_cons_of_mem _ hmem, back, Text.afterBeginning_eq_some_iff.1 hback, hread⟩
  · exact ⟨"", List.mem_cons_self, cs, rfl, h⟩

/-- Of optional words the one that a text begins with is read, or none, if the text begins with no
other one. -/
theorem optionally_of_word {α : Type} {words : List String} {read : List Char → Option α}
    {word : String} {back : List Char} {a : α} (hmem : word ∈ "" :: words)
    (hread : read back = some a)
    (hother : ∀ other ∈ words, other ≠ word →
      Text.beginsWith other.toList (word.toList ++ back) = false) :
    optionally words read (word.toList ++ back) = some a := by
  by_cases hword : word ∈ words
  · have hfound : (Text.afterBeginning word.toList (word.toList ++ back)).bind read = some a := by
      rw [Text.afterBeginning_append, Option.bind_some, hread]
    have hsome : (words.findSome? fun other =>
        (Text.afterBeginning other.toList (word.toList ++ back)).bind read).isSome := by
      rw [List.findSome?_isSome_iff]
      exact ⟨word, hword, Option.isSome_of_eq_some hfound⟩
    obtain ⟨b, hb⟩ := Option.isSome_iff_exists.1 hsome
    obtain ⟨other, hmem', hfound'⟩ := List.exists_of_findSome?_eq_some hb
    have hsame : other = word := Decidable.byContradiction fun hne => by
      rw [Text.beginsWith_eq_false_iff.1 (hother other hmem' hne)] at hfound'
      cases hfound'
    rw [hsame, hfound] at hfound'
    rw [optionally, hb, Option.some_or, hfound']
  · have hnone : ∀ other ∈ words, Text.beginsWith other.toList (word.toList ++ back) = false :=
      fun other h => hother other h fun heq => hword (heq ▸ h)
    obtain rfl := (List.mem_cons.1 hmem).resolve_right hword
    rw [optionally_of_none hnone]
    exact hread

theorem regionAndRest?_eq_some {cs run rest : List Char}
    (h : regionAndRest? cs = some (run, rest)) :
    cs = run ++ '.' :: rest ∧ ∀ c ∈ run, isRegionChar c = true := by
  have hcs := List.takeWhile_append_dropWhile (p := isRegionChar) (l := cs)
  have hchars : ∀ c ∈ cs.takeWhile isRegionChar, isRegionChar c = true :=
    List.all_eq_true.1 List.all_takeWhile
  unfold regionAndRest? at h
  split at h
  · next htake hdrop =>
    cases h
    rw [htake] at hcs hchars
    exact ⟨by rw [← hcs, hdrop], hchars⟩
  · cases h

theorem regionAndRest?_append {run : List Char} (hne : run ≠ [])
    (h : ∀ c ∈ run, isRegionChar c = true)
    (rest : List Char) : regionAndRest? (run ++ '.' :: rest) = some (run, rest) := by
  have htake : (run ++ '.' :: rest).takeWhile isRegionChar = run := by
    rw [List.takeWhile_append_of_pos h, List.takeWhile_cons_of_neg (by decide), List.append_nil]
  have hdrop : (run ++ '.' :: rest).dropWhile isRegionChar = '.' :: rest := by
    rw [List.dropWhile_append_of_pos h, List.dropWhile_cons_of_neg (by decide)]
  obtain ⟨c, more, rfl⟩ := List.exists_cons_of_ne_nil hne
  rw [regionAndRest?, htake, hdrop]
  rfl

/-! ### Domains -/

theorem eq_of_isDomain {domain : List Char} (h : isDomain domain = true) :
    domain = "amazonaws.com".toList ∨ domain = "amazonaws.com.cn".toList := by
  simp only [isDomain, Bool.or_eq_true, decide_eq_true_eq] at h
  exact h

/-! ### Endpoint hosts -/

/-- The host of an endpoint with a name in a region. -/
def endpointOf (name region : List Char) : List Char :=
  "vpce-".toList ++ name ++ '.' ::
    ("s3".toList ++ '.' :: (region ++ '.' :: "vpce.amazonaws.com".toList))

theorem endpointOf_eq (name region : List Char) : endpointOf name region =
    "vpce-".toList ++ name ++ '.' ::
      ("s3".toList ++ '.' :: (region ++ '.' :: "vpce.amazonaws.com".toList)) :=
  rfl

/-- An endpoint host without a bucket is the host of an endpoint, perhaps behind the word
`bucket`. -/
theorem exists_of_endpointRegion? {cs region : List Char} (h : endpointRegion? cs = some region) :
    ∃ word ∈ ["", "bucket."], ∃ name, cs = word.toList ++ endpointOf name region ∧
      (∀ c ∈ name, isRegionChar c = true) ∧ ∀ c ∈ region, isRegionChar c = true := by
  obtain ⟨word, hword, back, rfl, hnamed⟩ := exists_of_optionally h
  obtain ⟨cs, hcs, h⟩ := Option.bind_eq_some_iff.1 hnamed
  obtain ⟨⟨name, rest⟩, hname, h⟩ := Option.bind_eq_some_iff.1 h
  obtain ⟨rest', hrest, h⟩ := Option.bind_eq_some_iff.1 h
  obtain ⟨⟨region', domain⟩, hregion, h⟩ := Option.bind_eq_some_iff.1 h
  have hdomain : domain = "vpce.amazonaws.com".toList ∧ region' = region := by
    simp only at h
    split at h
    · next hdomain => exact ⟨hdomain, Option.some.inj h⟩
    · cases h
  obtain ⟨rfl, rfl⟩ := hdomain
  obtain ⟨rfl, hchars⟩ := regionAndRest?_eq_some hregion
  obtain rfl := Text.afterBeginning_eq_some_iff.1 hrest
  obtain ⟨rfl, hchars'⟩ := regionAndRest?_eq_some hname
  obtain rfl := Text.afterBeginning_eq_some_iff.1 hcs
  have hcs : "vpce-".toList ++ (name ++ '.' :: ("s3.".toList ++
      (region' ++ '.' :: "vpce.amazonaws.com".toList))) = endpointOf name region' :=
    (List.append_assoc _ name _).symm
  exact ⟨word, hword, name, by rw [hcs], hchars', hchars⟩

theorem chars_of_endpointRegion? {cs region : List Char} (h : endpointRegion? cs = some region) :
    ∀ c ∈ region, isRegionChar c = true := by
  obtain ⟨-, -, -, -, -, hchars⟩ := exists_of_endpointRegion? h
  exact hchars

/-- An endpoint host ends in the domain of endpoints. -/
theorem exists_of_endpointParts? {host : List Char} {parts : HostParts}
    (h : endpointParts? host = some parts) :
    ∃ front, host = front ++ '.' :: "vpce.amazonaws.com".toList := by
  have hends : ∀ {cs region}, endpointRegion? cs = some region →
      ∃ front, cs = front ++ '.' :: "vpce.amazonaws.com".toList := by
    intro cs region hregion
    obtain ⟨word, -, name, rfl, -⟩ := exists_of_endpointRegion? hregion
    have hassoc : ∀ first second domain : List Char,
        word.toList ++ (first ++ '.' :: (second ++ '.' :: (region ++ '.' :: domain))) =
          word.toList ++ (first ++ '.' :: (second ++ '.' :: region)) ++ '.' :: domain := by simp
    exact ⟨_, hassoc _ _ _⟩
  rcases Option.or_eq_some_iff.1 h with h | ⟨-, h⟩
  · obtain ⟨region, hregion, -⟩ := Option.map_eq_some_iff.1 h
    exact hends hregion
  · obtain ⟨cut, hcut, h⟩ := List.exists_of_findSome?_eq_some h
    obtain ⟨region, hregion, -⟩ := Option.map_eq_some_iff.1 h
    obtain ⟨front, hfront⟩ := hends hregion
    exact ⟨cut.1 ++ '.' :: front, by
      rw [(of_mem_dotSplits hcut).2, hfront, List.append_assoc, List.cons_append]⟩

/-- A host in front of whose domain stands another label than that of endpoints is no endpoint
host. -/
theorem endpointParts?_eq_none {front domain : List Char} (hdomain : isDomain domain = true)
    (hlast : (Text.splitAll '.' front).getLast? ≠ some "vpce".toList) :
    endpointParts? (front ++ '.' :: domain) = none := by
  rw [Option.eq_none_iff_forall_ne_some]
  intro parts hparts
  obtain ⟨front', hhost⟩ := exists_of_endpointParts? hparts
  have hlabels := congrArg (Text.splitAll '.') hhost
  rw [Text.splitAll_append_cons, Text.splitAll_append_cons] at hlabels
  have hendpoint : Text.splitAll '.' "vpce.amazonaws.com".toList =
      "vpce".toList :: Text.splitAll '.' "amazonaws.com".toList := by decide
  rw [hendpoint, List.append_cons] at hlabels
  rcases eq_of_isDomain hdomain with rfl | rfl
  · rw [List.append_cancel_right hlabels, List.getLast?_concat] at hlast
    exact hlast rfl
  · have hcom : Text.splitAll '.' "amazonaws.com".toList =
        ["amazonaws".toList] ++ ["com".toList] := by decide
    have hcn : Text.splitAll '.' "amazonaws.com.cn".toList =
        ["amazonaws".toList, "com".toList] ++ ["cn".toList] := by decide
    rw [hcom, hcn, ← List.append_assoc, ← List.append_assoc] at hlabels
    exact absurd (List.append_inj' hlabels rfl).2 (by decide)

/-! ### Service hosts -/

/-- A label that a service host can begin with. -/
def IsServiceLabel (label : List Char) : Prop :=
  label = "s3".toList ∨ Text.beginsWith "s3-".toList label = true

instance : DecidablePred IsServiceLabel := fun label =>
  inferInstanceAs (Decidable (label = _ ∨ Text.beginsWith _ label = true))

theorem head_of_serviceRegion? {cs region : List Char} (h : serviceRegion? cs = some region) :
    ∃ label more, Text.splitAll '.' cs = label :: more ∧ IsServiceLabel label := by
  unfold serviceRegion? at h
  split at h
  · next c rest =>
    split at h
    · next hc =>
      rcases hc with rfl | rfl
      · exact ⟨"s3".toList, Text.splitAll '.' rest, by simp [Text.splitAll], .inl rfl⟩
      · obtain ⟨label, more, hrest⟩ := List.exists_cons_of_ne_nil (Text.splitAll_ne_nil '.' rest)
        exact ⟨"s3-".toList ++ label, more, by simp [Text.splitAll, hrest],
          .inr (Text.beginsWith_iff.2 ⟨label, rfl⟩)⟩
    · cases h
  · cases h

/-- The end of a service host is its domain, or a region in front of the domain. -/
theorem regionAtEnd?_cases {cs region : List Char} (h : regionAtEnd? cs = some region) :
    (isDomain cs = true ∧ region = []) ∨
      ∃ domain, isDomain domain = true ∧ cs = region ++ '.' :: domain ∧
        ∀ c ∈ region, isRegionChar c = true := by
  rcases Option.or_eq_some_iff.1 h with h | ⟨-, h⟩
  · obtain ⟨⟨run, rest⟩, hrun, h⟩ := Option.bind_eq_some_iff.1 h
    simp only at h
    split at h
    · next hdomain =>
      obtain rfl := Option.some.inj h
      obtain ⟨hcs, hchars⟩ := regionAndRest?_eq_some hrun
      exact .inr ⟨rest, hdomain, hcs, hchars⟩
    · cases h
  · split at h
    · next hdomain => exact .inl ⟨hdomain, (Option.some.inj h).symm⟩
    · cases h

/-- What is read behind the first separator of a service host. -/
def serviceWords : List Char → Option (List Char) :=
  optionally ["website-", "website."] <|
    optionally ["accelerate."] <|
      optionally ["dualstack-", "dualstack."] regionAtEnd?

theorem serviceRegion?_of_sep {sep : Char} (h : sep = '.' ∨ sep = '-') (rest : List Char) :
    serviceRegion? ('s' :: '3' :: sep :: rest) = serviceWords rest :=
  if_pos h

/-- All that a service host without a bucket can have in front of its end. -/
def serviceFronts : List String :=
  ["s3.", "s3-"].flatMap fun service =>
    ["", "website-", "website."].flatMap fun website =>
      ["", "accelerate."].flatMap fun accelerate =>
        ["", "dualstack-", "dualstack."].map fun dualstack =>
          service ++ website ++ accelerate ++ dualstack

/-- A service host without a bucket is one of the fronts before an end. -/
theorem exists_of_serviceRegion? {cs region : List Char} (h : serviceRegion? cs = some region) :
    ∃ front ∈ serviceFronts, ∃ back, cs = front.toList ++ back ∧
      regionAtEnd? back = some region := by
  have hsep : ∃ sep rest, (sep = '.' ∨ sep = '-') ∧ cs = 's' :: '3' :: sep :: rest := by
    unfold serviceRegion? at h
    split at h
    · next sep rest =>
      split at h
      · next hsep => exact ⟨sep, rest, hsep, rfl⟩
      · cases h
    · cases h
  obtain ⟨sep, rest, hsep, rfl⟩ := hsep
  rw [serviceRegion?_of_sep hsep] at h
  obtain ⟨website, hwebsite, afterWebsite, rfl, h₁⟩ := exists_of_optionally h
  obtain ⟨accelerate, haccelerate, afterAccelerate, rfl, h₂⟩ := exists_of_optionally h₁
  obtain ⟨dualstack, hdualstack, back, rfl, hback⟩ := exists_of_optionally h₂
  have hservice : ∃ service ∈ ["s3.", "s3-"], service.toList = ['s', '3', sep] := by
    rcases hsep with rfl | rfl
    · exact ⟨"s3.", by simp, rfl⟩
    · exact ⟨"s3-", by simp, rfl⟩
  obtain ⟨service, hmem, hlist⟩ := hservice
  refine ⟨service ++ website ++ accelerate ++ dualstack, ?_, back, by simp [hlist], hback⟩
  simp only [serviceFronts, List.mem_flatMap, List.mem_map]
  exact ⟨service, hmem, website, hwebsite, accelerate, haccelerate, dualstack, hdualstack, rfl⟩

theorem chars_of_serviceRegion? {cs region : List Char} (h : serviceRegion? cs = some region) :
    ∀ c ∈ region, isRegionChar c = true := by
  obtain ⟨-, -, back, -, hback⟩ := exists_of_serviceRegion? h
  rcases regionAtEnd?_cases hback with ⟨-, rfl⟩ | ⟨-, -, -, hchars⟩
  · exact List.forall_mem_nil _
  · exact hchars

/-- No back of a text is a service host without a bucket, if no label behind its first one begins
one. -/
theorem serviceRegion?_eq_none {cs more rest : List Char}
    (hlabels : ∀ label ∈ (Text.splitAll '.' cs).tail, ¬ IsServiceLabel label)
    (hcs : cs = more ++ '.' :: rest) : serviceRegion? rest = none := by
  rw [Option.eq_none_iff_forall_ne_some]
  intro region h
  obtain ⟨label, labels, hrest, hlabel⟩ := head_of_serviceRegion? h
  obtain ⟨first, before, hmore⟩ := List.exists_cons_of_ne_nil (Text.splitAll_ne_nil '.' more)
  refine hlabels label ?_ hlabel
  simp [hcs, Text.splitAll_append_cons, hmore, hrest]

/-- **The bucket of a service host ends before the last label that a service host can begin
with.** -/
theorem serviceParts?_of_labels {bucket back region : List Char} (hbucket : bucket ≠ [])
    (hback : serviceRegion? back = some region)
    (hlabels : ∀ label ∈ (Text.splitAll '.' back).tail, ¬ IsServiceLabel label) :
    serviceParts? (bucket ++ '.' :: back) = some ⟨bucket, region⟩ := by
  rw [serviceParts?,
    firstCut?_reverse hbucket hback fun more rest => serviceRegion?_eq_none hlabels,
    Option.some_or]

/-- A service host without a bucket. -/
theorem serviceParts?_alone {host region : List Char} (hhost : serviceRegion? host = some region)
    (hlabels : ∀ label ∈ (Text.splitAll '.' host).tail, ¬ IsServiceLabel label) :
    serviceParts? host = some ⟨[], region⟩ := by
  have hnone : firstCut? serviceRegion? (dotSplits host).reverse = none := by
    rw [firstCut?_eq_none_iff]
    intro cut hcut
    exact serviceRegion?_eq_none hlabels (of_mem_dotSplits (List.mem_reverse.1 hcut)).2
  rw [serviceParts?, hnone, hhost, Option.none_or, Option.map_some]

/-- The region of a host is written in the characters of regions. -/
theorem chars_of_ofHost? {host : List Char} {parts : HostParts}
    (h : HostParts.ofHost? host = some parts) :
    ∀ c ∈ parts.region, isRegionChar c = true := by
  have hcut : ∀ {region? : List Char → Option (List Char)} {cuts : List (List Char × List Char)},
      (∀ {cs region}, region? cs = some region → ∀ c ∈ region, isRegionChar c = true) →
      firstCut? region? cuts = some parts → ∀ c ∈ parts.region, isRegionChar c = true := by
    intro region? cuts hregion h
    obtain ⟨cut, -, h⟩ := List.exists_of_findSome?_eq_some h
    obtain ⟨region, hback, rfl⟩ := Option.map_eq_some_iff.1 h
    exact hregion hback
  rcases Option.or_eq_some_iff.1 h with h | ⟨-, h⟩
  · rcases Option.or_eq_some_iff.1 h with h | ⟨-, h⟩
    · obtain ⟨region, hregion, rfl⟩ := Option.map_eq_some_iff.1 h
      exact chars_of_endpointRegion? hregion
    · exact hcut chars_of_endpointRegion? h
  · rcases Option.or_eq_some_iff.1 h with h | ⟨-, h⟩
    · exact hcut chars_of_serviceRegion? h
    · obtain ⟨region, hregion, rfl⟩ := Option.map_eq_some_iff.1 h
      exact chars_of_serviceRegion? hregion

/-- **The parts of a service host.** Behind any bucket and without one a service in front of a
domain names its region, if no label behind its first one begins a service and its last one is not
that of endpoints. -/
theorem ofHost?_of_labels {service domain region : List Char} (hdomain : isDomain domain = true)
    (hregion : serviceRegion? (service ++ '.' :: domain) = some region)
    (hlabels : ∀ label ∈ (Text.splitAll '.' service).tail, ¬ IsServiceLabel label)
    (hlast : (Text.splitAll '.' service).getLast? ≠ some "vpce".toList) :
    HostParts.ofHost? (service ++ '.' :: domain) = some ⟨[], region⟩ ∧
      ∀ {bucket}, bucket ≠ [] →
        HostParts.ofHost? (bucket ++ '.' :: (service ++ '.' :: domain)) =
          some ⟨bucket, region⟩ := by
  obtain ⟨first, more, hservice⟩ := List.exists_cons_of_ne_nil (Text.splitAll_ne_nil '.' service)
  have hbehind : ∀ label ∈ (Text.splitAll '.' (service ++ '.' :: domain)).tail,
      ¬ IsServiceLabel label := by
    have hends : ∀ label ∈ Text.splitAll '.' domain, ¬ IsServiceLabel label := by
      rcases eq_of_isDomain hdomain with rfl | rfl <;> decide
    rw [Text.splitAll_append_cons, hservice, List.cons_append, List.tail_cons,
      List.forall_mem_append]
    rw [hservice] at hlabels
    exact ⟨hlabels, hends⟩
  constructor
  · rw [HostParts.ofHost?, endpointParts?_eq_none hdomain hlast, Option.none_or,
      serviceParts?_alone hregion hbehind]
  · intro bucket hbucket
    have hcut : bucket ++ '.' :: (service ++ '.' :: domain) =
        (bucket ++ '.' :: service) ++ '.' :: domain := by simp
    have hlast' : (Text.splitAll '.' (bucket ++ '.' :: service)).getLast? ≠
        some "vpce".toList := by
      rw [Text.splitAll_append_cons, List.getLast?_append, hservice, List.getLast?_cons,
        Option.some_or, ← List.getLast?_cons, ← hservice]
      exact hlast
    rw [HostParts.ofHost?, serviceParts?_of_labels hbucket hregion hbehind, hcut,
      endpointParts?_eq_none hdomain hlast', Option.none_or]

end Depot.ObjectStore
