import Mathlib.Data.Set.List
import Depot.Proofs.ObjectStore.Addressing
import Depot.Proofs.Url.Dots

/-!
# Addresses of objects that URLs name

A URL with a bucket in its host names an object, and the object has a URL of its own, in the region
that the host names. That one leads back to the object, unless it has no valid host or the key has
dot segments. What an encoded path is read as is again an encoded path, so only the dot segments of
the key get lost; and a key has dot segments only where the URL that names it has encoded slashes.

## Main results

* `ObjectStore.exists_readBack_encoded` : what an encoded path is read as.
* `ObjectStore.ofUrl?_objectUrl_hosted` : the place that the URL of an object names.
* `ObjectLocation.ofUrl?_objectUrl_iff` : the URL of an object leads back to it.
-/

namespace Depot

namespace ObjectStore

/-! ### Encoded paths that are read -/

/-- Segments are encoded one by one. -/
theorem encoded_intercalate (segments : List (List Char)) :
    encoded (['/'].intercalate segments) = ['/'].intercalate (segments.map encoded) :=
  Text.flatMap_intercalate _ segments

theorem encoded_injective : Function.Injective encoded := fun front back h =>
  eq_of_flatMap_utf8 (by rw [← decode_encoded, h, decode_encoded])

/-- **What an encoded path is read as is an encoded path,** and stands for the path exactly if that
has no dot segments. -/
theorem exists_readBack_encoded (path : List Char) :
    ∃ kept, Url.readBack (encoded path) = encoded kept ∧ (kept = path ↔
      ∀ segment ∈ Text.splitAll '/' path, segment ≠ ['.'] ∧ segment ≠ ['.', '.']) := by
  have hchars : ∀ c ∈ encoded path, Url.IsPathChar c := fun c => isPathChar_of_mem_encoded
  have hpart := Url.pathPart_of_isPathChar hchars
  have hslashed := Url.slashed_encode_of_isPathChar hchars
  have hparts : Url.splitSlashes true (Percent.encode Percent.pathSet (encoded path)) =
      (Text.splitAll '/' path).map encoded :=
    (congrArg (Text.splitAll '/') hslashed).trans (splitAll_encoded path)
  have hkept : Url.keptSegments (encoded path) ∈ Set.range (List.map encoded) := by
    rw [Set.range_list_map]
    intro segment hsegment
    rcases Url.mem_of_mem_addSegments (List.mem_reverse.1 hsegment) with rfl | hnil | ⟨hpart, -⟩
    · exact ⟨[], rfl⟩
    · cases hnil
    · obtain ⟨part, -, rfl⟩ := List.mem_map.1 (hparts ▸ hpart)
      exact ⟨part, rfl⟩
  obtain ⟨kept, hkept⟩ := hkept
  have hread : Url.readBack (encoded path) = encoded (['/'].intercalate kept) := by
    rw [Url.readBack, hpart, ← hkept, encoded_intercalate]
  refine ⟨['/'].intercalate kept, hread, fun h segment hsegment => ?_, fun h => ?_⟩
  · rw [h] at hread
    exact (Url.isPlainSegment_iff (decode_encoded segment)).1
      (Url.plain_of_readBack hchars hread (encoded segment)
        (splitAll_encoded path ▸ List.mem_map_of_mem hsegment))
  · refine encoded_injective ?_
    rw [← hread, Url.readBack_of_plain hpart hslashed (noDots_encoded h)]

/-! ### Objects that are named by hosts -/

variable {bucket key region : String}

/-- A URL with a bucket in its host names the key that its path stands for, and never the region of
the old alias. -/
theorem of_hosted {raw : String} {l : ObjectLocation} (hraw : ObjectLocation.ofUrl? raw = some l)
    (hhosted : l.isPathStyle = false) :
    ∃ u host, Url.parse? raw = some u ∧ u.hostText? = some host ∧ l.bucket ≠ "" ∧
      l.key = String.ofList (withoutSlash (decodedPath u.path.text).toList) ∧
      l.region ≠ "external-1" := by
  obtain ⟨u, hu, h⟩ := Option.bind_eq_some_iff.1 hraw
  obtain ⟨host, hhost, h⟩ := Option.bind_eq_some_iff.1 h
  obtain ⟨parts, -, h⟩ := Option.bind_eq_some_iff.1 h
  obtain rfl := Option.some.inj h
  unfold locationOf at hhosted ⊢
  simp only at hhosted ⊢
  split at hhosted
  · cases hhosted
  · next hbucket =>
    rw [if_neg hbucket]
    refine ⟨u, host, hu, hhost, by simpa using hbucket, rfl, ?_⟩
    simp only [regionOf]
    split
    · decide
    · next hregion => exact fun heq => hregion (.inr heq)

/-- Without encoded slashes a path stands for no dot segments. -/
theorem noDots_decodedPath {path : List Char}
    (hplain : ∀ segment ∈ Text.splitAll '/' path, Url.IsPlainSegment segment)
    (hescape : ¬ "%2f".toList <:+: path.map Char.toLower) :
    ∀ segment ∈ Text.splitAll '/' (decodedPath (String.ofList path)).toList,
      segment ≠ ['.'] ∧ segment ≠ ['.', '.'] := by
  unfold decodedPath
  cases htext : Percent.decodeText? (String.ofList path) with
  | some s =>
    rw [← String.ofList_toList (s := s), Percent.decodeText?_eq_some_iff] at htext
    exact Url.noDots_of_decode hplain hescape htext
  | none =>
    rw [Option.getD_none, String.toList_ofList]
    exact fun segment hsegment => (hplain segment hsegment).ne_dots

theorem mem_of_mem_withoutSlash {path segment : List Char}
    (h : segment ∈ Text.splitAll '/' (withoutSlash path)) : segment ∈ Text.splitAll '/' path := by
  unfold withoutSlash at h
  split at h
  · next rest =>
    rw [← List.nil_append ('/' :: rest), Text.splitAll_append_cons]
    exact List.mem_append_right _ h
  · exact h

/-- **The place that the URL of an object names** where the bucket is in the host, if the host is
valid: only the key may be another one. -/
theorem ofUrl?_objectUrl_hosted (hbucket : ∀ c ∈ bucket.toList, isRegionChar c = true)
    (hne : bucket ≠ "") (hregion : IsRegionName region) (halias : region ≠ "external-1") :
    ∃ kept : List Char, (kept = key.toList ↔
        ∀ segment ∈ Text.splitAll '/' key.toList, segment ≠ ['.'] ∧ segment ≠ ['.', '.']) ∧
      ObjectLocation.ofUrl? (objectUrl none bucket key region) =
        (Host.parse? (objectHost bucket region)).map fun _ =>
          ⟨false, bucket, String.ofList kept, region⟩ := by
  have hdot : '.' ∉ bucket.toList := fun hmem => absurd (hbucket '.' hmem) (by decide)
  have hbucketNe : bucket.toList ≠ [] := by simpa using hne
  obtain ⟨front, hfront, hchars, -⟩ :=
    exists_objectHost (fun c hc => isNameChar_of_isRegionChar (hbucket c hc)) hregion
  have hdomain := isDomain_domainOf region
  have hkeeps : ∀ c ∈ objectHost bucket region, Domain.Keeps c :=
    hfront ▸ keeps_append hchars hdomain
  have hhostNe : objectHost bucket region ≠ [] := by simp [hfront]
  have hnumber : Address.endsInNumber (objectHost bucket region) = false :=
    hfront ▸ endsInNumber_domain front hdomain
  have hparts := ofHost?_objectHost hne hregion
  have hpath : objectPath bucket key = encoded key.toList := by rw [objectPath, if_neg hdot]
  have hregionOf : regionOf (String.ofList region.toList) = region := by
    simp [regionOf, hregion.ne_empty, halias]
  obtain ⟨kept, hkept, hsame⟩ := exists_readBack_encoded key.toList
  refine ⟨kept, hsame, ?_⟩
  rw [objectUrl_eq, hpath]
  cases hparse : Host.parse? (objectHost bucket region) with
  | none => rw [ObjectLocation.ofUrl?, Url.parse?_eq_none hhostNe hkeeps hparse]; rfl
  | some host =>
    rw [if_neg hdot] at hparts
    rw [Host.parse?_of_keeps hkeeps hnumber hparse] at hparse
    rw [ofUrl?_of_host hhostNe hkeeps hparse hparts, hkept, locationOf_hosted hbucketNe, hregionOf,
      String.ofList_toList]
    rfl

end ObjectStore

open ObjectStore

/-- **The URL of an object that a URL names leads back to the object** exactly if the key has no dot
segments and the host is valid. A URL without encoded slashes names such a key, and a host without
the mark of Punycode is valid. -/
theorem ObjectLocation.ofUrl?_objectUrl_iff {raw : String} {l : ObjectLocation}
    (hraw : ObjectLocation.ofUrl? raw = some l) (hhosted : l.isPathStyle = false)
    (hbucket : ∀ c ∈ l.bucket.toList, isRegionChar c = true) (hkey : l.key ≠ "")
    (hregion : IsRegionName l.region) :
    (ObjectLocation.ofUrl? (objectUrl none l.bucket l.key l.region) = some l ↔
      IsObjectKey l.key ∧ (Host.parse? (objectHost l.bucket l.region)).isSome = true) ∧
    (∀ u, Url.parse? raw = some u → ¬ "%2f".toList <:+: u.path.text.toList.map Char.toLower →
      IsObjectKey l.key) ∧
    (Text.beginsWith Domain.mark l.bucket.toList = false →
      Text.beginsWith Domain.mark l.region.toList = false →
        (Host.parse? (objectHost l.bucket l.region)).isSome = true) := by
  obtain ⟨u, host, hu, hhost, hne, hnamed, halias⟩ := of_hosted hraw hhosted
  refine ⟨?_, ?_, ?_⟩
  · obtain ⟨kept, hkept, hread⟩ :=
      @ofUrl?_objectUrl_hosted l.bucket l.key l.region hbucket hne hregion halias
    rw [hread]
    constructor
    · intro h
      obtain ⟨host, hparse, hl⟩ := Option.map_eq_some_iff.1 h
      have hsame : kept = l.key.toList := by rw [← hl, String.toList_ofList]
      exact ⟨⟨hkey, hkept.1 hsame⟩, by rw [hparse]; rfl⟩
    · rintro ⟨hobject, hhost⟩
      obtain ⟨host, hparse⟩ := Option.isSome_iff_exists.1 hhost
      rw [hparse, hkept.2 hobject.noDots, String.ofList_toList, ← hhosted]
      rfl
  · intro u' hu' hescape
    obtain rfl := Option.some.inj (hu.symm.trans hu')
    have hdots := noDots_decodedPath (Url.plain_of_parse? hu hhost) hescape
    rw [String.ofList_toList] at hdots
    refine ⟨hkey, fun segment hsegment => hdots segment (mem_of_mem_withoutSlash ?_)⟩
    rwa [hnamed, String.toList_ofList] at hsegment
  · intro hmark hregionMark
    obtain ⟨front, hfront, hchars, hunmarked⟩ :=
      exists_objectHost (fun c hc => isNameChar_of_isRegionChar (hbucket c hc)) hregion
    have hplain := isPlainHost_append hchars (hunmarked hmark hregionMark)
      (isDomain_domainOf l.region)
    rw [hfront, Host.parse?_of_plain hplain.ne_nil hplain.keeps hplain.unmarked hplain.noNumber]
    rfl

/-- A URL with dot segments of its own and escapes, on the host of a website. -/
theorem ObjectLocation.ofUrl?_objectUrl_iff_website :
    ∃ u, Url.parse? "https://logs.s3-website-eu-west-1.amazonaws.com/a/%2E%2E/50%25 %C3%9F//" =
        some u ∧
      ¬ "%2f".toList <:+: u.path.text.toList.map Char.toLower ∧
      ObjectLocation.ofUrl?
          "https://logs.s3-website-eu-west-1.amazonaws.com/a/%2E%2E/50%25 %C3%9F//" =
        some ⟨false, "logs", "50% ß//", "eu-west-1"⟩ ∧
      (∀ c ∈ "logs".toList, isRegionChar c = true) ∧ "50% ß//" ≠ "" ∧ IsRegionName "eu-west-1" ∧
      objectUrl none "logs" "50% ß//" "eu-west-1" =
        "https://logs.s3.eu-west-1.amazonaws.com/50%25%20%C3%9F//" ∧
      ObjectLocation.ofUrl? "https://logs.s3.eu-west-1.amazonaws.com/50%25%20%C3%9F//" =
        some ⟨false, "logs", "50% ß//", "eu-west-1"⟩ := by
  have hu : Url.parse? "https://logs.s3-website-eu-west-1.amazonaws.com/a/%2E%2E/50%25 %C3%9F//" =
      some ⟨"https", "", none, some (.domain "logs.s3-website-eu-west-1.amazonaws.com"), none,
        .segments ["50%25%20%C3%9F", "", ""], none, none⟩ := by decide +kernel
  have hescape : ¬ "%2f".toList <:+:
      (UrlPath.segments ["50%25%20%C3%9F", "", ""]).text.toList.map Char.toLower := by
    decide +kernel
  have hl : ObjectLocation.ofUrl?
      "https://logs.s3-website-eu-west-1.amazonaws.com/a/%2E%2E/50%25 %C3%9F//" =
        some ⟨false, "logs", "50% ß//", "eu-west-1"⟩ := by decide +kernel
  have hbucket : ∀ c ∈ "logs".toList, isRegionChar c = true := Text.forall_mem_of_all (by decide)
  have hregion : IsRegionName "eu-west-1" :=
    ⟨by decide, Text.forall_mem_of_all (by decide), by decide, by decide⟩
  obtain ⟨hsame, hkey, hhost⟩ :=
    ObjectLocation.ofUrl?_objectUrl_iff hl rfl hbucket (by decide) hregion
  exact ⟨_, hu, hescape, hl, hbucket, by decide, hregion, by decide +kernel,
    hsame.2 ⟨hkey _ hu hescape, hhost (by decide) (by decide)⟩⟩

/-- Encoded slashes in a URL make dot segments of its key, which the URL of the object does not
keep. -/
theorem ObjectLocation.ofUrl?_objectUrl_escaped :
    ObjectLocation.ofUrl? "https://b.s3.us-west-2.amazonaws.com/a%2F..%2Fc" =
        some ⟨false, "b", "a/../c", "us-west-2"⟩ ∧
      (∀ c ∈ "b".toList, isRegionChar c = true) ∧ "a/../c" ≠ "" ∧ IsRegionName "us-west-2" ∧
      objectUrl none "b" "a/../c" "us-west-2" = "https://b.s3.us-west-2.amazonaws.com/a/../c" ∧
      ObjectLocation.ofUrl? "https://b.s3.us-west-2.amazonaws.com/a/../c" =
        some ⟨false, "b", "c", "us-west-2"⟩ := by
  have hregion : IsRegionName "us-west-2" :=
    ⟨by decide, Text.forall_mem_of_all (by decide), by decide, by decide⟩
  exact ⟨by decide +kernel, Text.forall_mem_of_all (by decide), by decide, hregion,
    by decide +kernel, by decide +kernel⟩

end Depot
