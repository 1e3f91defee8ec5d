import Depot.ObjectStore.Location
import Depot.Proofs.ObjectStore.Service
import Depot.Proofs.Url.Segments

/-!
# Addresses of objects

The URL of an object leads back to the object: its host names the bucket and the region, or only
the region where the bucket has a dot, and decoding the path gives the key back, whatever
characters it has.

## Main definitions

* `ObjectStore.encoded` : a path with every segment encoded and the slashes kept.
* `ObjectStore.objectHost`, `ObjectStore.objectPath` : the host and the path of the URL of an
  object.
* `ObjectStore.IsBucketName`, `ObjectStore.IsObjectKey` : the buckets and keys that addresses keep.

## Main results

* `ObjectStore.objectUrl_eq` : the URL of an object from its host and path.
* `ObjectStore.ofUrl?_encoded` : the place that a host and an encoded path name.
* `ObjectLocation.ofUrl?_objectUrl` : the URL of an object names the object.
-/

namespace Depot

open String (utf8EncodeChar)

namespace ObjectStore

/-! ### Encoded paths -/

/-- A path with every segment encoded and the slashes kept. -/
def encoded (path : List Char) : List Char :=
  path.flatMap fun c => if c = '/' then ['/'] else Percent.encodeChar Percent.reservedSet c

theorem encodedKey_eq (key : String) : encodedKey key = String.ofList (encoded key.toList) :=
  rfl

theorem encoded_cons (c : Char) (path : List Char) :
    encoded (c :: path) =
      (if c = '/' then ['/'] else Percent.encodeChar Percent.reservedSet c) ++ encoded path :=
  rfl

theorem encoded_append (front back : List Char) :
    encoded (front ++ back) = encoded front ++ encoded back :=
  List.flatMap_append

theorem reservedSet_of_isAlphanum {c : Char} (h : c.isAlphanum = true) :
    Percent.reservedSet c = false := by
  simp [Percent.reservedSet, h]

/-- What is encoded is written in characters that a path keeps. -/
theorem isPathChar_of_mem_encoded {path : List Char} {c : Char} (h : c ∈ encoded path) :
    Url.IsPathChar c := by
  obtain ⟨d, -, hc⟩ := List.mem_flatMap.1 h
  split at hc
  · rw [List.mem_singleton.1 hc]
    exact ⟨by decide, by decide, by decide⟩
  · obtain ⟨hascii, rfl | hkept⟩ := Percent.mem_encodeChar (fun _ => reservedSet_of_isAlphanum) hc
    · exact ⟨by decide, by decide, by decide⟩
    · have hpath : Percent.pathSet c = false ∧ c ≠ '\\' :=
        Text.of_forall_ascii
          (P := fun c => Percent.reservedSet c = false → Percent.pathSet c = false ∧ c ≠ '\\')
          (by decide) hascii hkept
      exact ⟨hascii, hpath.1, hpath.2⟩

/-- An encoded path stands for the path. -/
theorem decode_encoded (path : List Char) :
    Percent.decode ((encoded path).flatMap utf8EncodeChar) = path.flatMap utf8EncodeChar := by
  induction path with
  | nil => rfl
  | cons c path ih =>
    rw [encoded_cons, List.flatMap_append, List.flatMap_cons]
    split
    · next hc =>
      rw [hc, List.flatMap_singleton, Percent.decode_char (by decide) (by decide), ih]
    · rw [Percent.decode_encodeChar (by decide), ih]

theorem slash_notMem_encodeChar {c : Char} : '/' ∉ Percent.encodeChar Percent.reservedSet c := by
  intro h
  obtain ⟨-, h | h⟩ := Percent.mem_encodeChar (fun _ => reservedSet_of_isAlphanum) h
  · cases h
  · exact absurd h (by decide)

/-- The segments of an encoded path are the encoded segments. -/
theorem splitAll_encoded (path : List Char) :
    Text.splitAll '/' (encoded path) = (Text.splitAll '/' path).map encoded :=
  Text.splitAll_flatMap rfl (fun c hc => by rw [if_neg hc]; exact slash_notMem_encodeChar) path

/-- An encoded path has no dot segments that the path does not have. -/
theorem noDots_encoded {path : List Char}
    (h : ∀ segment ∈ Text.splitAll '/' path, segment ≠ ['.'] ∧ segment ≠ ['.', '.']) :
    ∀ segment ∈ Text.splitAll '/' (encoded path), Url.IsPlainSegment segment := by
  rw [splitAll_encoded]
  intro _ hmem
  obtain ⟨segment, hsegment, rfl⟩ := List.mem_map.1 hmem
  exact (Url.isPlainSegment_iff (decode_encoded segment)).2 (h segment hsegment)

/-- Decoding an encoded path gives the path. -/
theorem decodedPath_encoded (path : List Char) :
    decodedPath (String.ofList ('/' :: encoded path)) = String.ofList ('/' :: path) := by
  have hcons : '/' :: encoded path = encoded ('/' :: path) := by
    rw [encoded_cons, if_pos rfl, List.singleton_append]
  have hdecode : Percent.decodeText? (String.ofList ('/' :: encoded path)) =
      some (String.ofList ('/' :: path)) := by
    rw [Percent.decodeText?, Bytes.ofText_ofList, hcons, decode_encoded, ← Bytes.ofText_ofList,
      Bytes.toText?_ofText]
  rw [decodedPath, hdecode, Option.getD_some]

theorem withoutSlash_decodedPath (path : List Char) :
    withoutSlash (decodedPath (String.ofList ('/' :: encoded path))).toList = path := by
  rw [decodedPath_encoded, String.toList_ofList]
  rfl

/-! ### Hosts of objects -/

/-- Whether a character may stand in the name of a bucket. -/
def isNameChar (c : Char) : Bool :=
  isRegionChar c || c == '.'

theorem toNat_lt_of_isNameChar {c : Char} (h : isNameChar c = true) : c.toNat < 128 := by
  have hle : ∀ d, c ≤ d → c.toNat ≤ d.toNat := fun d hd => UInt32.le_iff_toNat_le.1 hd
  simp only [isNameChar, isRegionChar, Bool.or_eq_true, Bool.and_eq_true, decide_eq_true_eq,
    beq_iff_eq] at h
  rcases h with ((h | h) | rfl) | rfl
  · exact Nat.lt_of_le_of_lt (hle 'z' h.2) (by decide)
  · exact Nat.lt_of_le_of_lt (hle '9' h.2) (by decide)
  · decide
  · decide

theorem isNameChar_of_isRegionChar {c : Char} (h : isRegionChar c = true) :
    isNameChar c = true := by
  rw [isNameChar, h, Bool.true_or]

theorem keeps_of_isNameChar {c : Char} (h : isNameChar c = true) : Domain.Keeps c := by
  have hkeeps : c.toLower = c ∧ Domain.forbidden c = false :=
    Text.of_forall_ascii
      (P := fun c => isNameChar c = true → c.toLower = c ∧ Domain.forbidden c = false)
      (by decide) (toNat_lt_of_isNameChar h) h
  exact ⟨toNat_lt_of_isNameChar h, hkeeps.1, hkeeps.2⟩

/-- The characters of a name are not encoded. -/
theorem encoded_of_isNameChar {cs : List Char} (h : ∀ c ∈ cs, isNameChar c = true) :
    encoded cs = cs := by
  have hplain : ∀ c ∈ cs, c.toNat < 128 ∧ Percent.reservedSet c = false ∧ c ≠ '/' := fun c hc =>
    ⟨toNat_lt_of_isNameChar (h c hc), Text.of_forall_ascii
      (P := fun c => isNameChar c = true → Percent.reservedSet c = false ∧ c ≠ '/')
      (by decide) (toNat_lt_of_isNameChar (h c hc)) (h c hc)⟩
  have hencode : encoded cs = Percent.encode Percent.reservedSet cs := by
    rw [encoded, Percent.encode, List.flatMap_def, List.flatMap_def,
      List.map_congr_left fun c hc => if_neg (hplain c hc).2.2]
  rw [hencode, Percent.encode_of_plain fun c hc => ⟨(hplain c hc).1, (hplain c hc).2.1⟩]

theorem isDomain_domainOf (region : String) : isDomain (domainOf region).toList = true := by
  unfold domainOf
  split <;> decide

/-- A host in front of the domain of a service is no address. -/
theorem endsInNumber_domain (front : List Char) {domain : List Char} (h : isDomain domain = true) :
    Address.endsInNumber (front ++ '.' :: domain) = false := by
  rcases eq_of_isDomain h with rfl | rfl
  · have hcut : front ++ '.' :: "amazonaws.com".toList =
        (front ++ ".amazonaws".toList) ++ '.' :: "com".toList := by simp
    rw [hcut, Address.endsInNumber_append_cons _ (by decide) (by decide)]
    decide
  · have hcut : front ++ '.' :: "amazonaws.com.cn".toList =
        (front ++ ".amazonaws.com".toList) ++ '.' :: "cn".toList := by simp
    rw [hcut, Address.endsInNumber_append_cons _ (by decide) (by decide)]
    decide

theorem keeps_of_isDomain {domain : List Char} (h : isDomain domain = true) :
    ∀ c ∈ domain, Domain.Keeps c := by
  have hchars : ∀ c ∈ domain, isNameChar c = true := by
    rcases eq_of_isDomain h with rfl | rfl <;> exact Text.forall_mem_of_all (by decide)
  exact fun c hc => keeps_of_isNameChar (hchars c hc)

theorem isUnmarked_of_isDomain {domain : List Char} (h : isDomain domain = true) :
    Domain.IsUnmarked domain := by
  unfold Domain.IsUnmarked
  rcases eq_of_isDomain h with rfl | rfl <;> decide

theorem keeps_append {front domain : List Char} (hchars : ∀ c ∈ front, isNameChar c = true)
    (hdomain : isDomain domain = true) : ∀ c ∈ front ++ '.' :: domain, Domain.Keeps c := by
  rw [List.forall_mem_append, List.forall_mem_cons]
  exact ⟨fun c hc => keeps_of_isNameChar (hchars c hc), Domain.keeps_dot,
    keeps_of_isDomain hdomain⟩

/-- A host of names of small letters, digits and hyphens is read as it is written, if it ends in the
domain of a service and no label carries the mark of Punycode. -/
theorem isPlainHost_append {front domain : List Char} (hchars : ∀ c ∈ front, isNameChar c = true)
    (hmark : Domain.IsUnmarked front) (hdomain : isDomain domain = true) :
    Url.IsPlainHost (front ++ '.' :: domain) where
  ne_nil := by simp
  keeps := keeps_append hchars hdomain
  unmarked := Domain.isUnmarked_append_cons.2 ⟨hmark, isUnmarked_of_isDomain hdomain⟩
  noNumber := endsInNumber_domain front hdomain

/-- The host of the URL of an object. -/
def objectHost (bucket region : String) : List Char :=
  let region := if region.isEmpty then defaultRegion else region
  let service := serviceOf region (domainOf region).toList
  if '.' ∈ bucket.toList then service else bucket.toList ++ '.' :: service

/-- The path of the URL of an object. -/
def objectPath (bucket key : String) : List Char :=
  if '.' ∈ bucket.toList then bucket.toList ++ '/' :: encoded key.toList else encoded key.toList

theorem objectUrl_eq (bucket key region : String) :
    objectUrl none bucket key region =
      String.ofList
        ("https://".toList ++ objectHost bucket region ++ '/' :: objectPath bucket key) := by
  rw [← String.toList_inj, String.toList_ofList]
  simp only [objectUrl, objectHost, objectPath, serviceOf]
  split
  · simp [encodedKey_eq]
  · simp [encodedKey_eq]

/-- **The place that a URL names whose host is kept:** its path is made of the segments that are
kept. -/
theorem ofUrl?_of_host {host : List Char} {parts : HostParts} (hne : host ≠ [])
    (hkeeps : ∀ c ∈ host, Domain.Keeps c)
    (hparse : Host.parse? host = some (.domain (String.ofList host)))
    (hparts : HostParts.ofHost? host = some parts) (rest : List Char) :
    ObjectLocation.ofUrl? (String.ofList ("https://".toList ++ host ++ '/' :: rest)) =
      some (locationOf parts (String.ofList ('/' :: Url.readBack rest))) := by
  obtain ⟨u, hread, hhost, hpath⟩ := Url.parse?_of_host hne hkeeps hparse rest
  rw [ObjectLocation.ofUrl?, hread]
  simp only [Option.bind_eq_bind, Option.bind_some, hhost, String.toList_ofList, hparts, hpath]

/-- **The place that a plain host and an encoded path name.** -/
theorem ofUrl?_encoded {host path : List Char} {parts : HostParts} (hhost : Url.IsPlainHost host)
    (hparts : HostParts.ofHost? host = some parts)
    (hdots : ∀ segment ∈ Text.splitAll '/' path, segment ≠ ['.'] ∧ segment ≠ ['.', '.']) :
    ObjectLocation.ofUrl? (String.ofList ("https://".toList ++ host ++ '/' :: encoded path)) =
      some (locationOf parts (String.ofList ('/' :: encoded path))) := by
  have hparse := Url.parse?_of_plain hhost (fun c => isPathChar_of_mem_encoded)
    (noDots_encoded hdots)
  have hname : String.ofList host ≠ "" := by simp [hhost.ne_nil]
  generalize hu : Url.mk _ _ _ _ _ _ _ _ = u at hparse
  have hhostText : u.hostText? = some (String.ofList host) :=
    Url.hostText?_of_domain (by rw [← hu]) hname
  have hpath : u.path.text = String.ofList ('/' :: encoded path) := by
    rw [← hu, Url.text_segments_splitAll]
  rw [ObjectLocation.ofUrl?, hparse]
  simp only [Option.bind_eq_bind, Option.bind_some, hhostText, String.toList_ofList, hparts, hpath]

/-- Behind a bucket in the host the path is the key. -/
theorem locationOf_hosted {bucket region : List Char} (hbucket : bucket ≠ []) (path : List Char) :
    locationOf ⟨bucket, region⟩ (String.ofList ('/' :: encoded path)) =
      ⟨false, String.ofList bucket, String.ofList path, regionOf (String.ofList region)⟩ := by
  simp only [locationOf, withoutSlash_decodedPath]
  rw [if_neg (by simp [hbucket])]

/-- Behind a host without a bucket the path is the bucket and the key. -/
theorem locationOf_pathStyle {bucket : List Char} (region key : List Char)
    (hbucket : '/' ∉ bucket) :
    locationOf ⟨[], region⟩ (String.ofList ('/' :: encoded (bucket ++ '/' :: key))) =
      ⟨true, String.ofList bucket, String.ofList key, regionOf (String.ofList region)⟩ := by
  simp only [locationOf, withoutSlash_decodedPath, bucketAndKey,
    Text.splitOnce_append_cons key hbucket, Option.getD_some]
  rfl

/-! ### Buckets and keys -/

/-- A bucket of small letters, digits, hyphens and dots that is no dot segment. -/
structure IsBucketName (bucket : String) : Prop where
  ne_empty : bucket ≠ ""
  chars : ∀ c ∈ bucket.toList, isNameChar c = true
  ne_dot : bucket ≠ "."
  ne_dotdot : bucket ≠ ".."

/-- A key that is not empty and has no dot segments. -/
structure IsObjectKey (key : String) : Prop where
  ne_empty : key ≠ ""
  noDots : ∀ segment ∈ Text.splitAll '/' key.toList, segment ≠ ['.'] ∧ segment ≠ ['.', '.']

namespace IsBucketName

variable {bucket : String}

theorem noSlash (h : IsBucketName bucket) : '/' ∉ bucket.toList := fun hmem =>
  absurd (h.chars '/' hmem) (by decide)

/-- Behind a bucket a path has no dot segments if the key has none. -/
theorem noDots (h : IsBucketName bucket) {key : String} (hkey : IsObjectKey key) :
    ∀ segment ∈ Text.splitAll '/' (bucket.toList ++ '/' :: key.toList),
      segment ≠ ['.'] ∧ segment ≠ ['.', '.'] := by
  rw [Text.splitAll_append_cons, Text.splitAll_of_notMem h.noSlash]
  refine List.forall_mem_cons.2 ⟨⟨fun heq => h.ne_dot ?_, fun heq => h.ne_dotdot ?_⟩, hkey.noDots⟩
  · exact String.toList_inj.1 heq
  · exact String.toList_inj.1 heq

end IsBucketName

/-! ### Addresses -/

variable {bucket key region : String}

theorem objectHost_eq (hregion : IsRegionName region) :
    objectHost bucket region =
      if '.' ∈ bucket.toList then serviceOf region (domainOf region).toList
      else bucket.toList ++ '.' :: serviceOf region (domainOf region).toList := by
  have hnonempty : region.isEmpty = false := by simp [hregion.ne_empty]
  simp only [objectHost, hnonempty, Bool.false_eq_true, if_false]

/-- What a service host of a region has before its domain. -/
theorem isNameChar_service (hregion : IsRegionName region) :
    ∀ c ∈ "s3.".toList ++ region.toList, isNameChar c = true := by
  rw [List.forall_mem_append]
  exact ⟨Text.forall_mem_of_all (by decide),
    fun c hc => isNameChar_of_isRegionChar (hregion.chars c hc)⟩

theorem isUnmarked_service (hregion : IsRegionName region)
    (hmark : Text.beginsWith Domain.mark region.toList = false) :
    Domain.IsUnmarked ("s3.".toList ++ region.toList) := by
  have hs3 : Domain.IsUnmarked "s3".toList := Domain.isUnmarked_of_notMem (by decide) (by decide)
  exact Domain.isUnmarked_append_cons.2 ⟨hs3, Domain.isUnmarked_of_notMem hregion.noDot hmark⟩

theorem isPlainHost_serviceOf (hregion : IsRegionName region)
    (hmark : Text.beginsWith Domain.mark region.toList = false) {domain : List Char}
    (hdomain : isDomain domain = true) : Url.IsPlainHost (serviceOf region domain) :=
  isPlainHost_append (isNameChar_service hregion) (isUnmarked_service hregion hmark) hdomain

/-- What the host of the URL of an object has before its domain. -/
theorem exists_objectHost (hbucket : ∀ c ∈ bucket.toList, isNameChar c = true)
    (hregion : IsRegionName region) :
    ∃ front, objectHost bucket region = front ++ '.' :: (domainOf region).toList ∧
      (∀ c ∈ front, isNameChar c = true) ∧
      (Text.beginsWith Domain.mark bucket.toList = false →
        Text.beginsWith Domain.mark region.toList = false → Domain.IsUnmarked front) := by
  have hservice := isNameChar_service hregion
  rw [objectHost_eq hregion]
  split
  · exact ⟨_, rfl, hservice, fun _ => isUnmarked_service hregion⟩
  · next hdot =>
    refine ⟨bucket.toList ++ '.' :: ("s3.".toList ++ region.toList), by simp [serviceOf], ?_,
      fun hmark hregionMark => Domain.isUnmarked_append_cons.2
        ⟨Domain.isUnmarked_of_notMem hdot hmark, isUnmarked_service hregion hregionMark⟩⟩
    rw [List.forall_mem_append, List.forall_mem_cons]
    exact ⟨hbucket, by decide, hservice⟩

theorem isPlainHost_objectHost (hbucket : IsBucketName bucket)
    (hmark : Text.beginsWith Domain.mark bucket.toList = false) (hregion : IsRegionName region)
    (hregionMark : Text.beginsWith Domain.mark region.toList = false) :
    Url.IsPlainHost (objectHost bucket region) := by
  obtain ⟨front, hfront, hchars, hunmarked⟩ := exists_objectHost hbucket.chars hregion
  rw [hfront]
  exact isPlainHost_append hchars (hunmarked hmark hregionMark) (isDomain_domainOf region)

/-- The host of the URL of an object names the region, and the bucket where it has no dot. -/
theorem ofHost?_objectHost (hbucket : bucket ≠ "") (hregion : IsRegionName region) :
    HostParts.ofHost? (objectHost bucket region) =
      some ⟨if '.' ∈ bucket.toList then [] else bucket.toList, region.toList⟩ := by
  have hdomain := isDomain_domainOf region
  rw [objectHost_eq hregion]
  split
  · exact ofHost?_serviceAlone hregion hdomain
  · exact ofHost?_service hregion hdomain (by simpa using hbucket)

theorem objectPath_eq (hbucket : IsBucketName bucket) (key : String) :
    objectPath bucket key = encoded
      (if '.' ∈ bucket.toList then bucket.toList ++ '/' :: key.toList else key.toList) := by
  unfold objectPath
  split
  · rw [encoded_append, encoded_of_isNameChar hbucket.chars, encoded_cons]
    rfl
  · rfl

end ObjectStore

open ObjectStore

/-- **The URL of an object names the object,** path-style exactly when the bucket has a dot. -/
theorem ObjectLocation.ofUrl?_objectUrl {bucket key region : String} (hbucket : IsBucketName bucket)
    (hmark : Text.beginsWith Domain.mark bucket.toList = false) (hkey : IsObjectKey key)
    (hregion : IsRegionName region)
    (hregionMark : Text.beginsWith Domain.mark region.toList = false)
    (halias : region ≠ "external-1") :
    ObjectLocation.ofUrl? (objectUrl none bucket key region) =
      some ⟨'.' ∈ bucket.toList, bucket, key, region⟩ := by
  have hhost := isPlainHost_objectHost hbucket hmark hregion hregionMark
  have hparts := ofHost?_objectHost hbucket.ne_empty hregion
  have hregionOf : regionOf (String.ofList region.toList) = region := by
    simp [regionOf, hregion.ne_empty, halias]
  rw [objectUrl_eq, objectPath_eq hbucket]
  by_cases hdot : '.' ∈ bucket.toList
  · rw [if_pos hdot] at hparts ⊢
    rw [ofUrl?_encoded hhost hparts (hbucket.noDots hkey), locationOf_pathStyle _ _ hbucket.noSlash,
      hregionOf]
    simp [hdot]
  · rw [if_neg hdot] at hparts ⊢
    have hne : bucket.toList ≠ [] := by simpa using hbucket.ne_empty
    rw [ofUrl?_encoded hhost hparts hkey.noDots, locationOf_hosted hne, hregionOf]
    simp [hdot]

/-- A key with blanks, percent signs and empty segments in a bucket with a dot, in a region of the
other domain. -/
theorem ObjectLocation.ofUrl?_objectUrl_dotted :
    IsBucketName "logs.2024" ∧ Text.beginsWith Domain.mark "logs.2024".toList = false ∧
      IsObjectKey "/50% of a?b#c//" ∧ IsRegionName "cn-north-1" ∧
      Text.beginsWith Domain.mark "cn-north-1".toList = false ∧
      objectUrl none "logs.2024" "/50% of a?b#c//" "cn-north-1" =
        "https://s3.cn-north-1.amazonaws.com.cn/logs.2024//50%25%20of%20a%3Fb%23c//" ∧
      ObjectLocation.ofUrl? (objectUrl none "logs.2024" "/50% of a?b#c//" "cn-north-1") =
        some ⟨true, "logs.2024", "/50% of a?b#c//", "cn-north-1"⟩ := by
  have hbucket : IsBucketName "logs.2024" :=
    ⟨by decide, Text.forall_mem_of_all (by decide), by decide, by decide⟩
  have hkey : IsObjectKey "/50% of a?b#c//" := ⟨by decide, by decide⟩
  have hregion : IsRegionName "cn-north-1" :=
    ⟨by decide, Text.forall_mem_of_all (by decide), by decide, by decide⟩
  exact ⟨hbucket, by decide, hkey, hregion, by decide, by decide,
    ObjectLocation.ofUrl?_objectUrl hbucket (by decide) hkey hregion (by decide) (by decide)⟩

end Depot
