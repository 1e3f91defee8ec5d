import Depot.Proofs.Http.Requests
import Depot.Proofs.ObjectStore.Addressing

/-!
# Where requests for objects go

An object is asked for at a host of the object store, whatever alphabet or escapes its bucket is
written in, as long as neither the bucket, where it stands in the host, nor the region has a
character that ends the host. The region of a URL never has one; a bucket that comes from a path
may, and so may a region that a response names.

## Main definitions

* `ObjectStore.IsStoreUrl` : the URLs of the hosts of the object store.

## Main results

* `ObjectStore.isStoreUrl_of_objectUrl` : the URL of an object leads to the object store.
* `HttpClient.getObject_asksStore` : all that is asked for on behalf of an object.
-/

namespace Depot

namespace ObjectStore

/-- A URL of a host of the object store. -/
structure IsStoreUrl (u : Url) : Prop where
  scheme : u.scheme = "https"
  host : ∃ front domain, isDomain domain = true ∧
    u.host = some (.domain (String.ofList (front ++ '.' :: domain)))

theorem IsStoreUrl.withoutSentUser {u : Url} (h : IsStoreUrl u) :
    IsStoreUrl (HttpClient.withoutSentUser u) := by
  have hparts : (HttpClient.withoutSentUser u).scheme = u.scheme ∧
      (HttpClient.withoutSentUser u).host = u.host := by
    unfold HttpClient.withoutSentUser
    cases Percent.decodeText? u.username with
    | none => exact ⟨rfl, rfl⟩
    | some name =>
      simp only
      split <;> exact ⟨rfl, rfl⟩
  exact ⟨hparts.1 ▸ h.scheme, hparts.2 ▸ h.host⟩

theorem not_isDelimiter_of_isRegionChar {c : Char} (h : isRegionChar c = true) :
    Url.isDelimiter c = false :=
  (Url.inside_of_keeps (keeps_of_isNameChar (isNameChar_of_isRegionChar h))).2.1

/-- **The URL of an object leads to the object store,** if no character of the region, and of the
bucket where it stands in the host, ends the host. -/
theorem isStoreUrl_of_objectUrl {bucket key region : String} {u : Url}
    (hbucket : '.' ∈ bucket.toList ∨ ∀ c ∈ bucket.toList, Url.isDelimiter c = false)
    (hregion : ∀ c ∈ region.toList, Url.isDelimiter c = false)
    (h : Url.parse? (objectUrl none bucket key region) = some u) : IsStoreUrl u := by
  have hnamed : ∀ c ∈ (if region.isEmpty then defaultRegion else region).toList,
      Url.isDelimiter c = false := by
    split
    · exact Text.forall_mem_of_all (by decide)
    · exact hregion
  rw [objectUrl_eq] at h
  unfold objectHost at h
  generalize (if region.isEmpty then defaultRegion else region) = region' at h hnamed
  have hdomain := isDomain_domainOf region'
  have hservice : ∀ c ∈ "s3.".toList ++ region'.toList, Url.isDelimiter c = false := by
    rw [List.forall_mem_append]
    exact ⟨Text.forall_mem_of_all (by decide), hnamed⟩
  -- With and without a bucket in the host, the host ends in the domain of the region.
  have hends : ∃ front, (∀ c ∈ front, Url.isDelimiter c = false) ∧
      Url.parse? (String.ofList ("https://".toList ++ (front ++ '.' :: (domainOf region').toList) ++
        '/' :: objectPath bucket key)) = some u := by
    simp only at h
    split at h
    · exact ⟨"s3.".toList ++ region'.toList, hservice, h⟩
    · next hdot =>
      refine ⟨bucket.toList ++ '.' :: ("s3.".toList ++ region'.toList), ?_, ?_⟩
      · rw [List.forall_mem_append, List.forall_mem_cons]
        exact ⟨hbucket.resolve_left hdot, by decide, hservice⟩
      · rw [← h]
        simp only [serviceOf, List.append_assoc, List.cons_append]
  obtain ⟨front, hfront, hparse⟩ := hends
  obtain ⟨hscheme, before, hhost⟩ := Url.host_of_parse? hfront (keeps_of_isDomain hdomain)
    (isUnmarked_of_isDomain hdomain) (fun front => endsInNumber_domain front hdomain) hparse
  exact ⟨hscheme, before, _, hdomain, hhost⟩

/-- No character of the region that a URL names ends a host. -/
theorem not_isDelimiter_of_ofUrl? {raw : String} {l : ObjectLocation}
    (h : ObjectLocation.ofUrl? raw = some l) :
    ∀ c ∈ l.region.toList, Url.isDelimiter c = false := by
  obtain ⟨u, -, h⟩ := Option.bind_eq_some_iff.1 h
  obtain ⟨host, -, h⟩ := Option.bind_eq_some_iff.1 h
  obtain ⟨parts, hparts, h⟩ := Option.bind_eq_some_iff.1 h
  obtain rfl := Option.some.inj h
  have hregion : (locationOf parts u.path.text).region = regionOf (String.ofList parts.region) := by
    unfold locationOf
    simp only
    split <;> rfl
  rw [hregion]
  unfold regionOf
  split
  · exact Text.forall_mem_of_all (by decide)
  · rw [String.toList_ofList]
    exact fun c hc => not_isDelimiter_of_isRegionChar (chars_of_ofHost? hparts c hc)

end ObjectStore

open ObjectStore

/-- **An object is asked for at the object store.** All exchanges on its behalf form chains of
redirects, each of which begins at a URL of a host of the object store, if no character of a
bucket without dots and of a region that a response names ends the host. -/
theorem HttpClient.getObject_asksStore {raw : String} {l : ObjectLocation}
    (hl : ObjectLocation.ofUrl? raw = some l)
    (hbucket : '.' ∈ l.bucket.toList ∨ ∀ c ∈ l.bucket.toList, Url.isDelimiter c = false)
    {tag : Option String} {n n' : RecordedNetwork} {outcome : Except FetchFault Reply}
    (hmoved : ∀ r, .response r ∈ n.answers → ∀ region, redirectRegion? r l.region = some region →
      ∀ c ∈ region.toList, Url.isDelimiter c = false)
    (h : (getObject none (some l) tag : StateM RecordedNetwork _) n = (outcome, n')) :
    ∃ chains : List (List Exchange), n'.exchanges = n.exchanges ++ chains.flatten ∧
      ∀ chain ∈ chains, ∃ u, IsStoreUrl u ∧ Chain tag u chain := by
  obtain ⟨chains, hexchanges, hchains⟩ := getObject_cases h
  refine ⟨chains, hexchanges, fun chain hmem => ?_⟩
  obtain ⟨region, u, hasks, hu, hchain⟩ := hchains chain hmem
  have hregion : ∀ c ∈ region.toList, Url.isDelimiter c = false := by
    rcases hasks with rfl | ⟨r, hr, hredirect⟩
    · exact not_isDelimiter_of_ofUrl? hl
    · exact hmoved r hr region hredirect
  exact ⟨withoutSentUser u, (isStoreUrl_of_objectUrl hbucket hregion hu).withoutSentUser, hchain⟩

namespace HttpClient

/-- The response that moves a bucket to another region. -/
def movedAnswer : HttpResponse :=
  ⟨301, [("x-amz-bucket-region", "eu-west-1")], [], true⟩

/-- A bucket that is asked for in two regions. -/
theorem getObject_asksStore_moved :
    ObjectLocation.ofUrl? "https://b.s3.us-east-1.amazonaws.com/k" =
        some ⟨false, "b", "k", "us-east-1"⟩ ∧
      (∀ c ∈ "b".toList, Url.isDelimiter c = false) ∧
      redirectRegion? movedAnswer "us-east-1" = some "eu-west-1" ∧
      (∀ c ∈ "eu-west-1".toList, Url.isDelimiter c = false) ∧
      ((getObject none (some ⟨false, "b", "k", "us-east-1"⟩) none : StateM RecordedNetwork _)
          ⟨[.response movedAnswer], []⟩).2.exchanges.map (·.request.url.text) =
        ["https://b.s3.us-east-1.amazonaws.com/k", "https://b.s3.eu-west-1.amazonaws.com/k"] ∧
      ∃ chains : List (List Exchange),
        ((getObject none (some ⟨false, "b", "k", "us-east-1"⟩) none : StateM RecordedNetwork _)
          ⟨[.response movedAnswer], []⟩).2.exchanges = [] ++ chains.flatten ∧
        ∀ chain ∈ chains, ∃ u, IsStoreUrl u ∧ Chain none u chain := by
  have hl : ObjectLocation.ofUrl? "https://b.s3.us-east-1.amazonaws.com/k" =
      some ⟨false, "b", "k", "us-east-1"⟩ := by decide +kernel
  have hregion : redirectRegion? movedAnswer "us-east-1" = some "eu-west-1" := by decide +kernel
  have hmoved : ∀ r, NetworkAnswer.response r ∈ [.response movedAnswer] → ∀ region,
      redirectRegion? r "us-east-1" = some region →
        ∀ c ∈ region.toList, Url.isDelimiter c = false := by
    intro r hr region h
    obtain rfl : r = movedAnswer := NetworkAnswer.response.inj (List.mem_singleton.1 hr)
    obtain rfl := Option.some.inj (hregion.symm.trans h)
    exact Text.forall_mem_of_all (by decide)
  have hbucket : ∀ c ∈ "b".toList, Url.isDelimiter c = false := Text.forall_mem_of_all (by decide)
  exact ⟨hl, hbucket, hregion, Text.forall_mem_of_all (by decide), by decide +kernel,
    getObject_asksStore hl (.inr hbucket) hmoved (Prod.eta _).symm⟩

/-- **A bucket may lead elsewhere.** What a path has been decoded to is written into the host as
it is: there an escaped dot is decoded once more, and a hash ends the host. -/
theorem not_asksStore_escaped :
    ∃ l, ObjectLocation.ofUrl? "https://s3.amazonaws.com/evil%252ecom%23/key" = some l ∧
      l.isComplete = true ∧
      ∃ e, ((getObject none (some l) none : StateM RecordedNetwork _) ⟨[], []⟩).2.exchanges = [e] ∧
        e.request.url.hostText? = some "evil.com" ∧ ¬ IsStoreUrl e.request.url := by
  have hl : ObjectLocation.ofUrl? "https://s3.amazonaws.com/evil%252ecom%23/key" =
      some ⟨true, "evil%2ecom#", "key", "us-east-1"⟩ := by decide +kernel
  refine ⟨_, hl, by decide, ⟨⟨⟨"https", "", none, some (.domain "evil.com"), none,
    .segments [""], none, some ".s3.us-east-1.amazonaws.com/key"⟩, none⟩, .silent⟩,
    by decide +kernel, by decide +kernel, ?_⟩
  rintro ⟨-, front, domain, hdomain, hhost⟩
  have hname : "evil.com" = String.ofList (front ++ '.' :: domain) :=
    Host.domain.inj (Option.some.inj hhost)
  have hlength : "evil.com".length = front.length + (domain.length + 1) := by
    rw [hname, String.length_ofList, List.length_append, List.length_cons]
  have hdomainLength : 13 ≤ domain.length := by
    rcases eq_of_isDomain hdomain with rfl | rfl <;> decide
  have hshort : "evil.com".length = 8 := by decide
  omega

end HttpClient

end Depot
