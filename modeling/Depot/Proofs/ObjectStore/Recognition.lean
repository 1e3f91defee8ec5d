import Depot.Proofs.ObjectStore.Service
import Depot.Proofs.Url.Reader

/-!
# URLs that name objects

A URL with a documented host names the bucket and the region that the host is documented for, and
the path gives the rest. In the other direction the host of a URL that names an object need not be
one below the domains of the store: a hyphen may join the last word of a service to the domain, and
then the host belongs to another domain, whose name only ends like that of the store.

## Main definitions

* `ObjectStore.IsBelowStore` : the hosts below the domains of the store.
* `ObjectStore.IsLookalike` : the hosts in a domain that a hyphen makes of a word and a domain of
  the store.

## Main results

* `ObjectLocation.ofUrl?_documented` : the place that a URL with a documented host names.
* `ObjectLocation.host_of_ofUrl?` : the hosts of the URLs that name objects.
-/

namespace Depot

namespace ObjectStore

/-! ### Documented hosts -/

/-- A path that begins with a slash stands for one that does. -/
theorem exists_decodedPath {path : UrlPath} (h : Url.IsRooted path) :
    ∃ rest, decodedPath path.text = "/" ++ rest := by
  obtain ⟨encoded, htext⟩ := h.text
  rw [htext]
  have hcons : ∀ cs : List Char, String.ofList ('/' :: cs) = "/" ++ String.ofList cs := fun cs => by
    rw [← String.toList_inj]
    simp
  cases hdecode : Percent.decodeText? (String.ofList ('/' :: encoded)) with
  | none => exact ⟨String.ofList encoded, by rw [decodedPath, hdecode, Option.getD_none, hcons]⟩
  | some s =>
    obtain ⟨rest, hs⟩ := Percent.decodeText?_cons (by decide) (by decide) hdecode
    refine ⟨String.ofList rest, ?_⟩
    rw [decodedPath, hdecode, Option.getD_some, ← hcons, ← hs, String.ofList_toList]

/-- The bucket is what stands before the first slash of a path, and the key what stands behind it.
A path without slashes is a bucket. -/
theorem bucketAndKey_spec (path : List Char) :
    '/' ∉ (bucketAndKey path).1 ∧
      (path = (bucketAndKey path).1 ++ '/' :: (bucketAndKey path).2 ∨
        path = (bucketAndKey path).1 ∧ (bucketAndKey path).2 = []) := by
  unfold bucketAndKey
  cases hcut : Text.splitOnce '/' path with
  | none =>
    refine ⟨fun hmem => ?_, .inr ⟨rfl, rfl⟩⟩
    have hpath : '/' ∈ path := hmem
    obtain ⟨front, back, rfl, hfront⟩ := List.eq_append_cons_of_mem hpath
    cases hcut.symm.trans (Text.splitOnce_append_cons back hfront)
  | some cut =>
    obtain ⟨hbucket, hpath⟩ := Text.splitOnce_eq_some_iff.1 hcut
    exact ⟨hbucket, .inl hpath⟩

end ObjectStore

open ObjectStore

/-- **A URL with a documented host names an object.** The region is the one that the host is
documented for. The bucket in front of the host is the bucket, and the decoded path without the
slash in front is the key; where the host has no bucket, it is the front of that path up to its
first slash. -/
theorem ObjectLocation.ofUrl?_documented {raw host bucket region : String} {u : Url}
    (hu : Url.parse? raw = some u) (hscheme : u.scheme = "https")
    (hhost : u.hostText? = some host) (hshape : Documented bucket region host)
    (halias : region ≠ "external-1") :
    ∃ path l, decodedPath u.path.text = "/" ++ path ∧ ObjectLocation.ofUrl? raw = some l ∧
      l.region = region ∧
      (bucket ≠ "" → l.isPathStyle = false ∧ l.bucket = bucket ∧ l.key = path) ∧
      (bucket = "" → l.isPathStyle = true ∧ '/' ∉ l.bucket.toList ∧
        (path = l.bucket ++ "/" ++ l.key ∨ path = l.bucket ∧ l.key = "")) := by
  obtain ⟨named, hparts, hregion⟩ := hshape.ofHost? halias
  obtain ⟨path, hpath⟩ := exists_decodedPath
    (Url.isRooted_of_parse? hu (by rw [hscheme]; decide))
  have hofUrl : ObjectLocation.ofUrl? raw =
      some (locationOf ⟨bucket.toList, named⟩ u.path.text) := by
    rw [ObjectLocation.ofUrl?, hu]
    simp only [Option.bind_eq_bind, Option.bind_some, hhost, hparts]
  have hslash : withoutSlash ("/" ++ path).toList = path.toList := by simp [withoutSlash]
  refine ⟨path, _, hpath, hofUrl, ?_, fun hbucket => ?_, fun hbucket => ?_⟩
  · rw [← hregion]
    unfold locationOf
    simp only
    split <;> rfl
  · have hne : bucket.toList.isEmpty = false := by simpa using hbucket
    simp only [locationOf, hpath, hslash, hne]
    exact ⟨rfl, String.ofList_toList, String.ofList_toList⟩
  · obtain ⟨hnot, hcut⟩ := bucketAndKey_spec path.toList
    simp only [locationOf, hpath, hslash, hbucket]
    refine ⟨rfl, by simpa using hnot, ?_⟩
    rcases hcut with hcut | ⟨hcut, hkey⟩
    · exact .inl (String.toList_inj.1 (by simpa using hcut))
    · exact .inr ⟨String.toList_inj.1 (by simpa using hcut), by simpa using hkey⟩

/-- An endpoint host behind a bucket that has labels of a service and of an endpoint itself. -/
def nestedHost : String :=
  "s3.vpce-a.bucket.vpce-1b.s3.eu-west-1.vpce.amazonaws.com"

/-- The bucket of a host with two endpoints is what stands before the second one. -/
theorem ObjectLocation.ofUrl?_documented_nested :
    ∃ u, Url.parse? ("https://" ++ nestedHost ++ "/a/my%20b") = some u ∧ u.scheme = "https" ∧
      u.hostText? = some nestedHost ∧ Documented "s3.vpce-a" "eu-west-1" nestedHost ∧
      "eu-west-1" ≠ "external-1" ∧
      ObjectLocation.ofUrl? ("https://" ++ nestedHost ++ "/a/my%20b") =
        some ⟨false, "s3.vpce-a", "a/my b", "eu-west-1"⟩ ∧
      ∃ path l, decodedPath u.path.text = "/" ++ path ∧
        ObjectLocation.ofUrl? ("https://" ++ nestedHost ++ "/a/my%20b") = some l ∧
        l.region = "eu-west-1" ∧ l.isPathStyle = false ∧ l.bucket = "s3.vpce-a" ∧ l.key = path := by
  have hu : Url.parse? ("https://" ++ nestedHost ++ "/a/my%20b") = some ⟨"https", "", none,
      some (.domain nestedHost), none, .segments ["a", "my%20b"], none, none⟩ := by decide +kernel
  have hregion : IsRegionName "eu-west-1" :=
    ⟨by decide, Text.forall_mem_of_all (by decide), by decide, by decide⟩
  have hshape : Documented "s3.vpce-a" "eu-west-1" nestedHost :=
    @Documented.bucketEndpoint "s3.vpce-a" "1b" "eu-west-1" (by decide) (by decide)
      (Text.forall_mem_of_all (by decide)) hregion
  have hhost : some nestedHost = some nestedHost := rfl
  obtain ⟨path, l, hpath, hl, hnamed, hhosted, -⟩ :=
    ObjectLocation.ofUrl?_documented hu rfl (by decide +kernel) hshape (by decide)
  exact ⟨_, hu, rfl, by decide +kernel, hshape, by decide, by decide +kernel, path, l, hpath, hl,
    hnamed, hhosted (by decide)⟩

namespace ObjectStore

/-! ### Foreign hosts -/

/-- A host below a domain of the store. -/
def IsBelowStore (host : List Char) : Prop :=
  ∃ front domain, isDomain domain = true ∧ host = front ++ '.' :: domain

/-- The last words of a service, as a hyphen joins them. -/
def joinedWords : List String :=
  ["s3", "website", "dualstack", "s3-website", "s3-dualstack", "website-dualstack",
    "s3-website-dualstack"]

/-- A domain, or a host below it. -/
def IsWithin (name host : List Char) : Prop :=
  host = name ∨ '.' :: name <:+ host

/-- A host in a domain that a hyphen makes of a word of a service and a domain of the store. -/
def IsLookalike (host : List Char) : Prop :=
  ∃ word ∈ joinedWords, ∃ domain, isDomain domain = true ∧
    IsWithin (word.toList ++ '-' :: domain) host

theorem IsWithin.suffix {name host : List Char} (h : IsWithin name host) : name <:+ host := by
  rcases h with rfl | h
  · exact List.suffix_rfl
  · exact (List.suffix_cons '.' name).trans h

theorem IsWithin.append {name host : List Char} (h : IsWithin name host) (front : List Char) :
    IsWithin name (front ++ '.' :: host) := by
  rcases h with rfl | h
  · exact .inr (List.suffix_append _ _)
  · exact .inr ((h.trans (List.suffix_cons _ _)).trans (List.suffix_append _ _))

theorem IsLookalike.append {host : List Char} (h : IsLookalike host) (front : List Char) :
    IsLookalike (front ++ '.' :: host) := by
  obtain ⟨word, hword, domain, hdomain, hwithin⟩ := h
  exact ⟨word, hword, domain, hdomain, hwithin.append front⟩

theorem IsBelowStore.append {host : List Char} (h : IsBelowStore host) (front : List Char) :
    IsBelowStore (front ++ '.' :: host) := by
  obtain ⟨before, domain, hdomain, rfl⟩ := h
  exact ⟨front ++ '.' :: before, domain, hdomain, by simp⟩

theorem eq_of_append_isDomain {front front' domain domain' : List Char}
    (hdomain : isDomain domain = true) (hdomain' : isDomain domain' = true)
    (h : front ++ domain = front' ++ domain') : front = front' ∧ domain = domain' := by
  have hlast := congrArg List.getLast? h
  rcases eq_of_isDomain hdomain with rfl | rfl <;> rcases eq_of_isDomain hdomain' with rfl | rfl
  · exact ⟨List.append_cancel_right h, rfl⟩
  · simp at hlast
  · simp at hlast
  · exact ⟨List.append_cancel_right h, rfl⟩

/-- The character before the domain tells the two kinds of hosts apart. -/
theorem IsLookalike.not_isBelowStore {host : List Char} (h : IsLookalike host) :
    ¬ IsBelowStore host := by
  rintro ⟨front, domain, hdomain, rfl⟩
  obtain ⟨word, -, domain', hdomain', hwithin⟩ := h
  obtain ⟨before, hhost⟩ := hwithin.suffix
  have hfronts : (before ++ word.toList ++ ['-']) ++ domain' = (front ++ ['.']) ++ domain := by
    simpa using hhost
  have hjoint := (eq_of_append_isDomain hdomain' hdomain hfronts).1
  exact absurd (List.append_inj' hjoint rfl).2 (by decide)

/-- Everything that a service host has in front of its end ends in a dot or joins its last word to
the end. -/
theorem serviceFronts_end : ∀ front ∈ serviceFronts, ['.'] <:+ front.toList ∨
    ∃ word ∈ joinedWords, IsWithin (word.toList ++ ['-']) front.toList := by
  unfold IsWithin
  decide +kernel

/-- A service host without a bucket is below the store, or a word is joined to its domain. -/
theorem isBelowStore_or_isLookalike {cs region : List Char} (h : serviceRegion? cs = some region) :
    IsBelowStore cs ∨ IsLookalike cs := by
  obtain ⟨front, hfront, back, rfl, hback⟩ := exists_of_serviceRegion? h
  rcases regionAtEnd?_cases hback with ⟨hdomain, -⟩ | ⟨domain, hdomain, rfl, -⟩
  · rcases serviceFronts_end front hfront with ⟨before, hdot⟩ | ⟨word, hword, hwithin⟩
    · exact .inl ⟨before, back, hdomain, by rw [← hdot]; simp⟩
    · refine .inr ⟨word, hword, back, hdomain, ?_⟩
      rcases hwithin with hfront | ⟨before, hfront⟩
      · exact .inl (by rw [hfront]; simp)
      · exact .inr ⟨before, by rw [← hfront]; simp⟩
  · exact .inl ⟨front.toList ++ region, domain, hdomain, by simp⟩

/-- **The hosts of the store** are below it, or a word is joined to their domain. -/
theorem isBelowStore_iff_of_ofHost? {host : List Char} {parts : HostParts}
    (h : HostParts.ofHost? host = some parts) : IsBelowStore host ↔ ¬ IsLookalike host := by
  have hcases : IsBelowStore host ∨ IsLookalike host := by
    rcases Option.or_eq_some_iff.1 h with h | ⟨-, h⟩
    · obtain ⟨front, rfl⟩ := exists_of_endpointParts? h
      exact .inl ⟨front ++ ".vpce".toList, "amazonaws.com".toList, by decide, by simp⟩
    · rcases Option.or_eq_some_iff.1 h with h | ⟨-, h⟩
      · obtain ⟨cut, hcut, h⟩ := List.exists_of_findSome?_eq_some h
        obtain ⟨region, hregion, -⟩ := Option.map_eq_some_iff.1 h
        rw [(of_mem_dotSplits (List.mem_reverse.1 hcut)).2]
        exact (isBelowStore_or_isLookalike hregion).imp (·.append _) (·.append _)
      · obtain ⟨region, hregion, -⟩ := Option.map_eq_some_iff.1 h
        exact isBelowStore_or_isLookalike hregion
  exact ⟨fun hbelow hlike => hlike.not_isBelowStore hbelow, hcases.resolve_right⟩

end ObjectStore

/-- **The host of a URL that names an object** is below the store, unless a hyphen joins the last
word of a service to the domain: then it is a host of another domain. -/
theorem ObjectLocation.host_of_ofUrl? {raw : String} {l : ObjectLocation}
    (h : ObjectLocation.ofUrl? raw = some l) :
    ∃ u host, Url.parse? raw = some u ∧ u.hostText? = some host ∧
      (IsBelowStore host.toList ↔ ¬ IsLookalike host.toList) := by
  obtain ⟨u, hu, h⟩ := Option.bind_eq_some_iff.1 h
  obtain ⟨host, hhost, h⟩ := Option.bind_eq_some_iff.1 h
  obtain ⟨parts, hparts, -⟩ := Option.bind_eq_some_iff.1 h
  exact ⟨u, host, hu, hhost, isBelowStore_iff_of_ofHost? hparts⟩

/-- A host below the store. -/
theorem ObjectLocation.host_of_ofUrl?_below :
    ObjectLocation.ofUrl? "https://logs.s3-website-eu-west-1.amazonaws.com/key" =
        some ⟨false, "logs", "key", "eu-west-1"⟩ ∧
      ∃ u host, Url.parse? "https://logs.s3-website-eu-west-1.amazonaws.com/key" = some u ∧
        u.hostText? = some host ∧ (IsBelowStore host.toList ↔ ¬ IsLookalike host.toList) := by
  have hl : ObjectLocation.ofUrl? "https://logs.s3-website-eu-west-1.amazonaws.com/key" =
      some ⟨false, "logs", "key", "eu-west-1"⟩ := by decide +kernel
  exact ⟨hl, ObjectLocation.host_of_ofUrl? hl⟩

/-- **A host of another domain is taken for one of the store,** where a hyphen stands in the place
of the dot before the domain. -/
theorem ObjectLocation.not_isBelowStore_joined :
    ObjectLocation.ofUrl? "https://s3-amazonaws.com/bucket/key" =
        some ⟨true, "bucket", "key", "us-east-1"⟩ ∧
      ∃ u, Url.parse? "https://s3-amazonaws.com/bucket/key" = some u ∧
        u.hostText? = some "s3-amazonaws.com" ∧ ¬ IsBelowStore "s3-amazonaws.com".toList := by
  have hu : Url.parse? "https://s3-amazonaws.com/bucket/key" = some ⟨"https", "", none,
      some (.domain "s3-amazonaws.com"), none, .segments ["bucket", "key"], none, none⟩ := by
    decide +kernel
  have hlike : IsLookalike "s3-amazonaws.com".toList :=
    ⟨"s3", by decide, "amazonaws.com".toList, by decide, .inl rfl⟩
  exact ⟨by decide +kernel, _, hu, by decide +kernel, hlike.not_isBelowStore⟩

end Depot
