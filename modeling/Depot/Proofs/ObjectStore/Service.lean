import Depot.ObjectStore.Location
import Depot.Proofs.ObjectStore.HostShape

/-!
# Documented hosts

The documented hosts of the object store are those of its services and of private endpoints, with
and without a bucket in front. A service is named by words of its own and perhaps a region; as long
as the region is none of these words, there is one way only to read the host, whatever labels the
bucket has.

## Main definitions

* `ObjectStore.IsRegionName` : the names of regions that no word of a host is taken for.
* `ObjectStore.IsEnd` : a domain, perhaps behind a region.
* `ObjectStore.IsService` : the documented services, and the regions that they name.
* `ObjectStore.Documented` : the documented hosts, and the buckets and regions that they name.

## Main results

* `ObjectStore.serviceRegion?_front` : an end names its region behind everything that can stand in
  front of it.
* `ObjectStore.ofHost?_service`, `ObjectStore.ofHost?_serviceAlone` : the hosts of a region, with
  and without a bucket.
* `ObjectStore.Documented.ofHost?` : the parts of a documented host.
-/

namespace Depot.ObjectStore

/-! ### Regions -/

/-- The words that may stand before a region. -/
def hostWords : List String :=
  ["website-", "website.", "accelerate.", "dualstack-", "dualstack."]

/-- No word is taken for the beginning of another. -/
theorem beginsWith_word {other word : String} (hother : other ∈ hostWords)
    (hword : word ∈ hostWords) (hne : other ≠ word) (cs : List Char) :
    Text.beginsWith other.toList (word.toList ++ cs) = false := by
  have hapart : ∀ other ∈ hostWords, ∀ word ∈ hostWords, other ≠ word →
      ¬ other.toList <+: word.toList ∧ ¬ word.toList <+: other.toList := by decide
  rw [Bool.eq_false_iff, Ne, Text.beginsWith_iff]
  rintro ⟨rest, heq⟩
  rcases List.prefix_or_prefix_of_prefix ⟨rest, heq.symm⟩ (List.prefix_append word.toList cs) with
    h | h
  · exact (hapart other hother word hword hne).1 h
  · exact (hapart other hother word hword hne).2 h

/-- A region whose name is no other word of a host and begins with none. -/
structure IsRegionName (region : String) : Prop where
  ne_empty : region ≠ ""
  chars : ∀ c ∈ region.toList, isRegionChar c = true
  ne_word : region ∉ ["s3", "vpce", "website", "accelerate", "dualstack"]
  begins : ∀ word ∈ ["s3-", "website-", "dualstack-"],
    Text.beginsWith word.toList region.toList = false

namespace IsRegionName

variable {region : String}

theorem noDot (h : IsRegionName region) : '.' ∉ region.toList := fun hmem =>
  absurd (h.chars '.' hmem) (by decide)

theorem toList_ne_nil (h : IsRegionName region) : region.toList ≠ [] := fun hnil =>
  h.ne_empty (String.toList_eq_nil_iff.1 hnil)

theorem toList_ne (h : IsRegionName region) {word : String}
    (hword : word ∈ ["s3", "vpce", "website", "accelerate", "dualstack"]) :
    region.toList ≠ word.toList := fun heq =>
  h.ne_word (String.toList_inj.1 heq ▸ hword)

theorem not_isServiceLabel (h : IsRegionName region) : ¬ IsServiceLabel region.toList := by
  rintro (heq | hbegins)
  · exact h.toList_ne (by simp) heq
  · exact Bool.noConfusion (hbegins.symm.trans (h.begins "s3-" (by simp)))

/-- No word that may stand before a region is taken for the beginning of one. -/
theorem beginsWith_eq_false (h : IsRegionName region) (domain : List Char) {word : String}
    (hword : word ∈ hostWords) :
    Text.beginsWith word.toList (region.toList ++ '.' :: domain) = false := by
  have hjoined : ∀ word ∈ ["website-", "dualstack-"],
      Text.beginsWith word.toList (region.toList ++ '.' :: domain) = false := by
    intro word hword
    rw [Text.beginsWith_append_cons domain (by revert word; decide)]
    exact h.begins word (by revert word; decide)
  have hapart : ∀ word ∈ ["website", "accelerate", "dualstack"],
      Text.beginsWith (word.toList ++ ['.']) (region.toList ++ '.' :: domain) = false := by
    intro word hword
    rw [Bool.eq_false_iff, Ne, Text.beginsWith_sep_iff (by revert word; decide) h.noDot]
    exact h.toList_ne (by revert word; decide)
  simp only [hostWords, List.mem_cons, List.not_mem_nil, or_false] at hword
  rcases hword with rfl | rfl | rfl | rfl | rfl
  · exact hjoined "website-" (by simp)
  · exact hapart "website" (by simp)
  · exact hapart "accelerate" (by simp)
  · exact hjoined "dualstack-" (by simp)
  · exact hapart "dualstack" (by simp)

end IsRegionName

/-! ### Ends -/

/-- The ends of service hosts: a domain, which names no region, or a region in front of a domain. -/
inductive IsEnd : List Char → List Char → Prop
  | domain {domain : List Char} (h : isDomain domain = true) : IsEnd [] domain
  | region {region : String} {domain : List Char} (h : IsRegionName region)
      (hdomain : isDomain domain = true) : IsEnd region.toList (region.toList ++ '.' :: domain)

namespace IsEnd

variable {region cs : List Char}

theorem regionAtEnd?_eq (h : IsEnd region cs) : regionAtEnd? cs = some region := by
  cases h with
  | domain h => rcases eq_of_isDomain h with rfl | rfl <;> decide
  | region h hdomain => simp [regionAtEnd?, regionAndRest?_append h.toList_ne_nil h.chars, hdomain]

/-- No word that may stand before an end is taken for the beginning of one. -/
theorem beginsWith_eq_false (h : IsEnd region cs) {word : String} (hword : word ∈ hostWords) :
    Text.beginsWith word.toList cs = false := by
  cases h with
  | domain h =>
    rcases eq_of_isDomain h with rfl | rfl
    · revert word
      decide
    · revert word
      decide
  | region h hdomain => exact h.beginsWith_eq_false _ hword

/-- No word is taken for the beginning of an end, also behind another word. -/
theorem beginsWith_append (h : IsEnd region cs) {other word : String} (hother : other ∈ hostWords)
    (hword : word ∈ "" :: hostWords) (hne : other ≠ word) :
    Text.beginsWith other.toList (word.toList ++ cs) = false := by
  rcases List.mem_cons.1 hword with rfl | hword
  · exact h.beginsWith_eq_false hother
  · exact beginsWith_word hother hword hne cs

end IsEnd

/-- **An end names its region behind everything that can stand in front of it.** -/
theorem serviceRegion?_front {front : String} (hfront : front ∈ serviceFronts)
    {region cs : List Char} (h : IsEnd region cs) :
    serviceRegion? (front.toList ++ cs) = some region := by
  simp only [serviceFronts, List.mem_flatMap, List.mem_map] at hfront
  obtain ⟨service, hservice, website, hwebsite, accelerate, haccelerate, dualstack, hdualstack,
    rfl⟩ := hfront
  have hdualWord : ∀ word ∈ ["", "dualstack-", "dualstack."],
      word ∈ "" :: hostWords ∧ "accelerate." ≠ word ∧ word ∉ ["website-", "website."] := by decide
  have hwebsiteWord : ∀ word ∈ ["website-", "website."],
      word ∈ hostWords ∧ word ≠ "accelerate." := by decide
  obtain ⟨hdualMem, hneAccelerate, hneWebsite⟩ := hdualWord dualstack hdualstack
  -- The words are read one after the other, and each only where it stands.
  have hdual : optionally ["dualstack-", "dualstack."] regionAtEnd? (dualstack.toList ++ cs) =
      some region :=
    optionally_of_word hdualstack h.regionAtEnd?_eq fun other hother hne =>
      h.beginsWith_append ((by decide : ["dualstack-", "dualstack."] ⊆ hostWords) hother) hdualMem
        hne
  have haccel : optionally ["accelerate."] (optionally ["dualstack-", "dualstack."] regionAtEnd?)
      (accelerate.toList ++ (dualstack.toList ++ cs)) = some region := by
    refine optionally_of_word haccelerate hdual fun other hother hne => ?_
    obtain rfl := List.mem_singleton.1 hother
    obtain rfl : accelerate = "" := by simpa [Ne.symm hne] using haccelerate
    exact h.beginsWith_append (by decide) hdualMem hneAccelerate
  have hwords : serviceWords
      (website.toList ++ (accelerate.toList ++ (dualstack.toList ++ cs))) = some region := by
    refine optionally_of_word hwebsite haccel fun other hother hne => ?_
    obtain ⟨hmem, hother'⟩ := hwebsiteWord other hother
    rcases List.mem_cons.1 hwebsite with rfl | hwebsite
    · simp only [List.mem_cons, List.not_mem_nil, or_false] at haccelerate
      rcases haccelerate with rfl | rfl
      · exact h.beginsWith_append hmem hdualMem fun heq => hneWebsite (heq ▸ hother)
      · exact beginsWith_word hmem (by decide) hother' _
    · exact beginsWith_word hmem (hwebsiteWord website hwebsite).1 hne _
  have hsep : ∃ sep, (sep = '.' ∨ sep = '-') ∧ service.toList = ['s', '3', sep] := by
    simp only [List.mem_cons, List.not_mem_nil, or_false] at hservice
    rcases hservice with rfl | rfl
    · exact ⟨'.', .inl rfl, rfl⟩
    · exact ⟨'-', .inr rfl, rfl⟩
  obtain ⟨sep, hsep, hlist⟩ := hsep
  have hcs : (service ++ website ++ accelerate ++ dualstack).toList ++ cs = 's' :: '3' :: sep ::
      (website.toList ++ (accelerate.toList ++ (dualstack.toList ++ cs))) := by
    simp [hlist]
  rw [hcs, serviceRegion?_of_sep hsep, hwords]

/-! ### Services -/

/-- The documented services in front of a domain, and the regions that they name. -/
inductive IsService : String → String → Prop
  | ofRegion {front region : String}
      (hfront : front ∈ ["s3.", "s3-", "s3.dualstack.", "s3-website-", "s3-website."])
      (h : IsRegionName region) : IsService (front ++ region) region
  | ofNoRegion {name : String}
      (hname : name ∈ ["s3", "s3-accelerate", "s3-accelerate.dualstack"]) :
      IsService name defaultRegion

namespace IsService

variable {name region : String}

theorem exists_serviceRegion? (h : IsService name region) {domain : List Char}
    (hdomain : isDomain domain = true) :
    ∃ named, serviceRegion? (name.toList ++ '.' :: domain) = some named ∧
      (region ≠ "external-1" → regionOf (String.ofList named) = region) := by
  cases h with
  | @ofRegion front _ hfront h =>
    have hmem : front ∈ serviceFronts :=
      (by decide : ["s3.", "s3-", "s3.dualstack.", "s3-website-", "s3-website."] ⊆ serviceFronts)
        hfront
    refine ⟨region.toList, ?_, fun halias => by simp [regionOf, h.ne_empty, halias]⟩
    rw [String.toList_append, List.append_assoc]
    exact serviceRegion?_front hmem (.region h hdomain)
  | ofNoRegion hname =>
    have hmem : ∀ name ∈ ["s3", "s3-accelerate", "s3-accelerate.dualstack"],
        name ++ "." ∈ serviceFronts := by decide
    refine ⟨[], ?_, fun _ => rfl⟩
    have hfront := serviceRegion?_front (hmem name hname) (.domain hdomain)
    rwa [String.toList_append, List.append_assoc] at hfront

/-- No label of a service behind its first one begins a service, and its last one is not that of
endpoints. -/
theorem labels (h : IsService name region) :
    (∀ label ∈ (Text.splitAll '.' name.toList).tail, ¬ IsServiceLabel label) ∧
      (Text.splitAll '.' name.toList).getLast? ≠ some "vpce".toList := by
  cases h with
  | @ofRegion front _ hfront h =>
    have hlabel := h.not_isServiceLabel
    have hvpce : region.toList ≠ "vpce".toList := h.toList_ne (by simp)
    have hsplit := Text.splitAll_of_notMem h.noDot
    have hdual : ¬ IsServiceLabel ['d', 'u', 'a', 'l', 's', 't', 'a', 'c', 'k'] := by decide
    simp only [List.mem_cons, List.not_mem_nil, or_false] at hfront
    rcases hfront with rfl | rfl | rfl | rfl | rfl
    · simpa [Text.splitAll, hsplit, hlabel] using hvpce
    · simp [Text.splitAll, hsplit]
    · simpa [Text.splitAll, hsplit, hlabel, hdual] using hvpce
    · simp [Text.splitAll, hsplit]
    · simpa [Text.splitAll, hsplit, hlabel] using hvpce
  | ofNoRegion hname =>
    revert name
    decide

end IsService

/-- What a service host of a region has behind its bucket. -/
def serviceOf (region : String) (domain : List Char) : List Char :=
  "s3.".toList ++ region.toList ++ '.' :: domain

theorem ofHost?_serviceOf {region : String} (h : IsRegionName region) {domain : List Char}
    (hdomain : isDomain domain = true) :
    HostParts.ofHost? (serviceOf region domain) = some ⟨[], region.toList⟩ ∧
      ∀ {bucket}, bucket ≠ [] → HostParts.ofHost? (bucket ++ '.' :: serviceOf region domain) =
        some ⟨bucket, region.toList⟩ := by
  have hservice : IsService ("s3." ++ region) region := .ofRegion (by simp) h
  obtain ⟨hlabels, hlast⟩ := hservice.labels
  rw [String.toList_append] at hlabels hlast
  refine ofHost?_of_labels hdomain ?_ hlabels hlast
  rw [List.append_assoc]
  exact serviceRegion?_front (by decide) (.region h hdomain)

/-- **The host of a region, behind any bucket,** names the bucket and the region. -/
theorem ofHost?_service {region : String} (h : IsRegionName region) {domain : List Char}
    (hdomain : isDomain domain = true) {bucket : List Char} (hbucket : bucket ≠ []) :
    HostParts.ofHost? (bucket ++ '.' :: serviceOf region domain) =
      some ⟨bucket, region.toList⟩ :=
  (ofHost?_serviceOf h hdomain).2 hbucket

/-- The host of a region alone names the region. -/
theorem ofHost?_serviceAlone {region : String} (h : IsRegionName region) {domain : List Char}
    (hdomain : isDomain domain = true) :
    HostParts.ofHost? (serviceOf region domain) = some ⟨[], region.toList⟩ :=
  (ofHost?_serviceOf h hdomain).1

/-! ### Endpoints -/

section Endpoints

variable {name region : List Char}

theorem notMem_of_chars {cs : List Char} (h : ∀ c ∈ cs, isRegionChar c = true) : '.' ∉ cs :=
  fun hmem => absurd (h '.' hmem) (by decide)

/-- An endpoint names its region, also behind the word `bucket`. -/
theorem endpointRegion?_endpointOf {word : String} (hword : word ∈ ["", "bucket."])
    (hname : name ≠ []) (hnameChars : ∀ c ∈ name, isRegionChar c = true) (hregion : region ≠ [])
    (hregionChars : ∀ c ∈ region, isRegionChar c = true) :
    endpointRegion? (word.toList ++ endpointOf name region) = some region := by
  have hnamed : endpointRegion?.named (endpointOf name region) = some region := by
    have hfirst : Text.afterBeginning "vpce-".toList (endpointOf name region) =
        some (name ++ '.' :: ("s3".toList ++ '.' :: (region ++ '.' ::
          "vpce.amazonaws.com".toList))) := by
      have hendpoint : endpointOf name region = "vpce-".toList ++ (name ++ '.' ::
          ("s3".toList ++ '.' :: (region ++ '.' :: "vpce.amazonaws.com".toList))) :=
        List.append_assoc _ name _
      rw [hendpoint, Text.afterBeginning_append]
    have hbehind : Text.afterBeginning "s3.".toList
        ("s3".toList ++ '.' :: (region ++ '.' :: "vpce.amazonaws.com".toList)) =
        some (region ++ '.' :: "vpce.amazonaws.com".toList) :=
      Text.afterBeginning_append "s3.".toList _
    rw [endpointRegion?.named, hfirst, Option.bind_eq_bind, Option.bind_some,
      regionAndRest?_append hname hnameChars, Option.bind_eq_bind, Option.bind_some]
    dsimp only
    rw [hbehind, Option.bind_some, regionAndRest?_append hregion hregionChars, Option.bind_some]
    exact if_pos rfl
  refine optionally_of_word hword hnamed fun other hother hne => ?_
  obtain rfl := List.mem_singleton.1 hother
  obtain rfl : word = "" := by simpa [Ne.symm hne] using hword
  rfl

/-- An endpoint has six labels, and one more behind the word `bucket`. -/
theorem length_labels_endpointOf (hname : '.' ∉ name) (hregion : '.' ∉ region) {word : String}
    (hword : word ∈ ["", "bucket."]) :
    (Text.splitAll '.' (word.toList ++ endpointOf name region)).length =
      if word = "" then 6 else 7 := by
  have hlabels : (Text.splitAll '.' (endpointOf name region)).length = 6 := by
    have hfirst : '.' ∉ "vpce-".toList ++ name :=
      List.not_mem_append (by decide) hname
    rw [endpointOf_eq, Text.splitAll_append_cons '.' ("vpce-".toList ++ name),
      Text.splitAll_append_cons '.' "s3".toList, Text.splitAll_append_cons '.' region,
      Text.splitAll_of_notMem hfirst, Text.splitAll_of_notMem hregion]
    rfl
  simp only [List.mem_cons, List.not_mem_nil, or_false] at hword
  rcases hword with rfl | rfl
  · exact hlabels
  · have hcut : "bucket.".toList ++ endpointOf name region =
        "bucket".toList ++ '.' :: endpointOf name region := rfl
    rw [hcut, Text.splitAll_append_cons, List.length_append, hlabels]
    rfl

/-- **The parts of an endpoint host.** Behind the word `bucket` any bucket may stand: a longer host
has too many labels to have no bucket. -/
theorem ofHost?_endpointOf (hname : name ≠ []) (hnameChars : ∀ c ∈ name, isRegionChar c = true)
    (hregion : region ≠ []) (hregionChars : ∀ c ∈ region, isRegionChar c = true) :
    (∀ word ∈ ["", "bucket."], HostParts.ofHost? (word.toList ++ endpointOf name region) =
      some ⟨[], region⟩) ∧
      ∀ {bucket}, bucket ≠ [] →
        HostParts.ofHost? (bucket ++ '.' :: ("bucket.".toList ++ endpointOf name region)) =
          some ⟨bucket, region⟩ := by
  have halone : ∀ {word}, word ∈ ["", "bucket."] →
      endpointRegion? (word.toList ++ endpointOf name region) = some region :=
    fun hword => endpointRegion?_endpointOf hword hname hnameChars hregion hregionChars
  constructor
  · intro word hword
    rw [HostParts.ofHost?, endpointParts?, halone hword, Option.map_some, Option.some_or,
      Option.some_or]
  · intro bucket hbucket
    -- Behind the dot there are seven labels already, and a host without a bucket has no more.
    have hlonger : ∀ more, endpointRegion?
        (more ++ '.' :: ("bucket.".toList ++ endpointOf name region)) = none := by
      intro more
      rw [Option.eq_none_iff_forall_ne_some]
      intro region' h
      obtain ⟨word, hword, name', heq, hname', hregion'⟩ := exists_of_endpointRegion? h
      have hlength := congrArg (fun cs => (Text.splitAll '.' cs).length) heq
      simp only [Text.splitAll_append_cons, List.length_append, length_labels_endpointOf
        (notMem_of_chars hnameChars) (notMem_of_chars hregionChars)
          (by simp : "bucket." ∈ ["", "bucket."]), length_labels_endpointOf
          (notMem_of_chars hname') (notMem_of_chars hregion') hword] at hlength
      have hmore := List.length_pos_iff.2 (Text.splitAll_ne_nil '.' more)
      rw [if_neg (by decide)] at hlength
      split at hlength <;> omega
    rw [HostParts.ofHost?, endpointParts?, hlonger, Option.map_none, Option.none_or,
      firstCut?_shortest hbucket (halone (by simp)) hlonger, Option.some_or]

end Endpoints

/-! ### Documented hosts -/

/-- The documented hosts, by the buckets and the regions that they name. Without a bucket in the
host the bucket is empty. -/
inductive Documented : String → String → String → Prop
  | service {name region domain : String} (h : IsService name region)
      (hdomain : domain ∈ ["amazonaws.com", "amazonaws.com.cn"]) :
      Documented "" region (name ++ "." ++ domain)
  | bucketService {bucket name region domain : String} (hbucket : bucket ≠ "")
      (h : IsService name region) (hdomain : domain ∈ ["amazonaws.com", "amazonaws.com.cn"]) :
      Documented bucket region (bucket ++ "." ++ name ++ "." ++ domain)
  | endpoint {word name region : String} (hword : word ∈ ["", "bucket."]) (hname : name ≠ "")
      (hchars : ∀ c ∈ name.toList, isRegionChar c = true) (h : IsRegionName region) :
      Documented "" region
        (word ++ "vpce-" ++ name ++ ".s3." ++ region ++ ".vpce.amazonaws.com")
  | bucketEndpoint {bucket name region : String} (hbucket : bucket ≠ "") (hname : name ≠ "")
      (hchars : ∀ c ∈ name.toList, isRegionChar c = true) (h : IsRegionName region) :
      Documented bucket region
        (bucket ++ ".bucket.vpce-" ++ name ++ ".s3." ++ region ++ ".vpce.amazonaws.com")

/-- **The parts of a documented host** are the bucket and the region that it is documented for. -/
theorem Documented.ofHost? {bucket region host : String} (h : Documented bucket region host)
    (halias : region ≠ "external-1") :
    ∃ named, HostParts.ofHost? host.toList = some ⟨bucket.toList, named⟩ ∧
      regionOf (String.ofList named) = region := by
  have hdomains : ∀ domain ∈ ["amazonaws.com", "amazonaws.com.cn"],
      isDomain domain.toList = true := by decide
  have hne : ∀ {s : String}, s ≠ "" → s.toList ≠ [] := fun hs hnil =>
    hs (String.toList_eq_nil_iff.1 hnil)
  have hregionOf : ∀ {region}, IsRegionName region → region ≠ "external-1" →
      regionOf (String.ofList region.toList) = region := fun hregion halias => by
    rw [String.ofList_toList, regionOf, if_neg (not_or.2 ⟨hregion.ne_empty, halias⟩)]
  cases h with
  | service h hdomain =>
    obtain ⟨named, hnamed, hregion⟩ := h.exists_serviceRegion? (hdomains _ hdomain)
    have hparts := ofHost?_of_labels (hdomains _ hdomain) hnamed h.labels.1 h.labels.2
    exact ⟨named, by simpa using hparts.1, hregion halias⟩
  | bucketService hbucket h hdomain =>
    obtain ⟨named, hnamed, hregion⟩ := h.exists_serviceRegion? (hdomains _ hdomain)
    have hparts := ofHost?_of_labels (hdomains _ hdomain) hnamed h.labels.1 h.labels.2
    exact ⟨named, by simpa using hparts.2 (hne hbucket), hregion halias⟩
  | @endpoint word _ _ hword hname hchars h =>
    have hparts := ofHost?_endpointOf (hne hname) hchars h.toList_ne_nil h.chars
    exact ⟨region.toList, by simpa [endpointOf_eq] using hparts.1 word hword, hregionOf h halias⟩
  | bucketEndpoint hbucket hname hchars h =>
    have hparts := ofHost?_endpointOf (hne hname) hchars h.toList_ne_nil h.chars
    exact ⟨region.toList, by simpa [endpointOf_eq] using hparts.2 (hne hbucket),
      hregionOf h halias⟩

end Depot.ObjectStore
