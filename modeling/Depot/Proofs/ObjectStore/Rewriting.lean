import Depot.Proofs.ObjectStore.Addressing
import Depot.Proofs.ObjectStore.Recognition

/-!
# Locations that are rewritten

A location of the scheme `s3` is written into the URL of a host as it stands. It is then read by the
rules for URLs: edges are trimmed, tabs and line breaks are left out, a question mark or a hash ends
the path, a backslash separates segments, escapes are undone. The key comes back exactly if nothing
of this concerns it, or if its escapes stand for no text, and the path is taken as it is written.

The bytes that a path stands for never become more on this way, from the trimming to the last
escape, and they stay the same only if every step leaves the text alone.

## Main definitions

* `ObjectStore.IsVerbatim` : the texts that stand for themselves as a path.

## Main results

* `ObjectStore.decodedPath_readBack_iff` : the paths that are read as they are written.
* `ObjectLocation.ofUrl?_resolveLocation_iff` : the place that a rewritten location names.
-/

namespace Depot

open String (utf8EncodeChar)

namespace ObjectStore

/-- A text that stands for itself as a path. Either it has no escapes and nothing that is left out
or read as another sign; or its escapes stand for no text, and it is written in the characters of a
path, without dot segments. -/
inductive IsVerbatim (path : List Char) : Prop
  | decoded (hself : Percent.decodeText? (String.ofList path) = some (String.ofList path))
      (hchars : ∀ c ∈ path, Url.isInner c = true ∧ c ≠ '#' ∧ c ≠ '?' ∧ c ≠ '\\')
      (hlast : ∀ c ∈ path.getLast?, Url.isEdge c = false)
  | raw (hnone : Percent.decodeText? (String.ofList path) = none)
      (hchars : ∀ c ∈ path, Url.IsPathChar c)
      (hdots : ∀ segment ∈ Text.splitAll '/' path, Url.IsPlainSegment segment)

/-! ### Encoded characters -/

/-- Encoding adds no sign but percent signs. -/
theorem notMem_encode {cs : List Char} {c : Char} (hpercent : c ≠ '%')
    (halnum : c.isAlphanum = false) (h : c ∉ cs) : c ∉ Percent.encode Percent.pathSet cs := by
  intro hmem
  obtain ⟨d, hd, hmem⟩ := List.mem_flatMap.1 hmem
  rcases Percent.eq_or_of_mem_encodeChar hmem with rfl | heq | hdigit
  · exact h hd
  · exact hpercent heq
  · exact Bool.noConfusion (halnum.symm.trans hdigit)

/-- A text is encoded segment by segment. -/
theorem splitAll_encode (cs : List Char) :
    Text.splitAll '/' (Percent.encode Percent.pathSet cs) =
      (Text.splitAll '/' cs).map (Percent.encode Percent.pathSet) := by
  refine Text.splitAll_flatMap (by decide) (fun c hc hmem => ?_) cs
  rcases Percent.eq_or_of_mem_encodeChar hmem with heq | heq | hdigit
  · exact hc heq.symm
  · cases heq
  · cases hdigit

/-! ### Paths that are read as they are written -/

section Paths

variable {path : List Char}

/-- A part of a text has no more bytes, and as many only if it is all of the text. -/
theorem length_utf8_of_sublist {cs ds : List Char} (h : cs.Sublist ds) :
    (cs.flatMap utf8EncodeChar).length ≤ (ds.flatMap utf8EncodeChar).length ∧
      ((ds.flatMap utf8EncodeChar).length ≤ (cs.flatMap utf8EncodeChar).length → cs = ds) := by
  induction h with
  | slnil => exact ⟨Nat.le_refl _, fun _ => rfl⟩
  | cons c _ ih =>
    have hpos := List.length_pos_iff.2 (@String.utf8EncodeChar_ne_nil c)
    simp only [List.flatMap_cons, List.length_append]
    exact ⟨by omega, fun hle => by omega⟩
  | cons_cons c _ ih =>
    simp only [List.flatMap_cons, List.length_append]
    exact ⟨by omega, fun hle => by rw [ih.2 (by omega)]⟩

/-- A backslash does not stand for itself. -/
theorem backslash_notMem_of_decode
    (hself : Percent.decode (path.flatMap utf8EncodeChar) = path.flatMap utf8EncodeChar)
    (h : Percent.decode ((Url.slashed (Percent.encode Percent.pathSet path)).flatMap
      utf8EncodeChar) = path.flatMap utf8EncodeChar) : '\\' ∉ path := by
  intro hmem
  obtain ⟨front, back, rfl⟩ := List.append_of_mem hmem
  have hencode : Url.slashed (Percent.encode Percent.pathSet (front ++ '\\' :: back)) =
      Url.slashed (Percent.encode Percent.pathSet front) ++
        '/' :: Url.slashed (Percent.encode Percent.pathSet back) := by
    rw [Percent.encode, List.flatMap_append, Url.slashed_append, List.flatMap_cons,
      Url.slashed_append]
    rfl
  rw [← hself, hencode, Percent.decode_append_cons _ _ (by decide) (by decide) (by decide),
    Percent.decode_append_cons _ _ (by decide) (by decide) (by decide)] at h
  have hsign := (List.cons.inj (List.append_inj h (Url.decodedLength_slashed_encode front)).2).1
  exact absurd hsign (by decide)

/-- **What stands for a text as a path, and is that text, is verbatim.** -/
theorem isVerbatim_of_decode
    (h : Percent.decode ((Url.readBack path).flatMap utf8EncodeChar) =
      path.flatMap utf8EncodeChar) :
    IsVerbatim path := by
  obtain ⟨hle, hdots⟩ := Url.decodedLength_keptSegments (Url.pathPart path)
  have hsub := Url.pathPart_sublist path
  have hread : Percent.decodedLength (Url.readBack path) = (path.flatMap utf8EncodeChar).length :=
    congrArg List.length h
  have hpart := Percent.decodedLength_le (Url.pathPart path)
  rw [Url.readBack] at hread
  -- The lengths all agree, so that every step has left the text alone.
  have hall : Url.pathPart path = path := (length_utf8_of_sublist hsub).2 (by omega)
  rw [hall] at hle hdots hpart hread
  have hlength : (path.flatMap utf8EncodeChar).length ≤ Percent.decodedLength path := by omega
  have hself : Percent.decode (path.flatMap utf8EncodeChar) = path.flatMap utf8EncodeChar :=
    Percent.decode_eq_self hlength
  have hplain := hdots (by omega)
  rw [Url.readBack_of_plain hall rfl hplain] at h
  have hback := backslash_notMem_of_decode hself h
  obtain ⟨hchars, hlast⟩ := Url.pathPart_eq_self_iff.1 hall
  refine .decoded (Percent.decodeText?_eq_some_iff.2 hself) (fun c hc => ?_) hlast
  exact ⟨(hchars c hc).1, (hchars c hc).2.1, (hchars c hc).2.2, fun heq => hback (heq ▸ hc)⟩

/-- **What is read as it is written, and stands for no text, is verbatim.** -/
theorem isVerbatim_of_readBack (hnone : Percent.decodeText? (String.ofList path) = none)
    (h : Url.readBack path = path) : IsVerbatim path := by
  have hchars : ∀ c ∈ path, Url.IsPathChar c := fun c hc =>
    Url.isPathChar_of_mem_readBack (h.symm ▸ hc)
  exact .raw hnone hchars (Url.plain_of_readBack hchars h)

/-- The segments of a text that stands for itself are dot segments only if they are dots. -/
theorem isPlainSegment_of_decode
    (hself : Percent.decode (path.flatMap utf8EncodeChar) = path.flatMap utf8EncodeChar)
    (hdots : ∀ segment ∈ Text.splitAll '/' path, segment ≠ ['.'] ∧ segment ≠ ['.', '.']) :
    ∀ segment ∈ Text.splitAll '/' (Percent.encode Percent.pathSet path),
      Url.IsPlainSegment segment := by
  rw [splitAll_encode]
  intro _ hmem
  obtain ⟨segment, hsegment, rfl⟩ := List.mem_map.1 hmem
  rw [← Text.intercalate_splitAll '/' path] at hself
  have hstands : Percent.decode ((Percent.encode Percent.pathSet segment).flatMap utf8EncodeChar) =
      segment.flatMap utf8EncodeChar :=
    (Url.decode_encode_pathSet segment).trans (Percent.decode_part hself segment hsegment)
  exact (Url.isPlainSegment_iff hstands).2 (hdots segment hsegment)

/-- A slash in front of a path stands for itself. -/
theorem decodeText?_slash (path : List Char) :
    Percent.decodeText? (String.ofList ('/' :: path)) =
      (Percent.decodeText? (String.ofList path)).map fun s => String.ofList ('/' :: s.toList) := by
  have hslash : ∀ c ∈ ['/'], c.toNat < 128 ∧ c ≠ '%' := List.forall_mem_singleton.2 (by decide)
  exact Percent.decodeText?_append_of_plain hslash path

/-- **A path is read as it is written exactly if it is verbatim,** when it has no dot segments. -/
theorem decodedPath_readBack_iff
    (hdots : ∀ segment ∈ Text.splitAll '/' path, segment ≠ ['.'] ∧ segment ≠ ['.', '.']) :
    decodedPath (String.ofList ('/' :: Url.readBack path)) = String.ofList ('/' :: path) ↔
      IsVerbatim path := by
  constructor
  · intro h
    rw [decodedPath, decodeText?_slash] at h
    cases htext : Percent.decodeText? (String.ofList (Url.readBack path)) with
    | some s =>
      rw [htext, Option.map_some, Option.getD_some, String.ofList_inj] at h
      obtain rfl : s = String.ofList path := by
        rw [← (List.cons.inj h).2, String.ofList_toList]
      exact isVerbatim_of_decode (Percent.decodeText?_eq_some_iff.1 htext)
    | none =>
      rw [htext, Option.map_none, Option.getD_none, String.ofList_inj] at h
      have hsame := (List.cons.inj h).2
      exact isVerbatim_of_readBack (hsame ▸ htext) hsame
  · intro h
    cases h with
    | decoded hself hchars hlast =>
      have hbytes := Percent.decodeText?_eq_some_iff.1 hself
      have hback : '\\' ∉ path := fun hmem => (hchars _ hmem).2.2.2 rfl
      have hpart : Url.pathPart path = path := Url.pathPart_eq_self_iff.2
        ⟨fun c hc => ⟨(hchars c hc).1, (hchars c hc).2.1, (hchars c hc).2.2.1⟩, hlast⟩
      have hslashed : Url.slashed (Percent.encode Percent.pathSet path) =
          Percent.encode Percent.pathSet path :=
        Url.slashed_eq_self (notMem_encode (by decide) (by decide) hback)
      have hread := Url.readBack_of_plain hpart hslashed (isPlainSegment_of_decode hbytes hdots)
      have hdecode : Percent.decodeText? (String.ofList (Url.readBack path)) =
          some (String.ofList path) := by
        rw [hread, Percent.decodeText?_eq_some_iff, Url.decode_encode_pathSet, hbytes]
      rw [decodedPath, decodeText?_slash, hdecode, Option.map_some, Option.getD_some,
        String.toList_ofList]
    | raw hnone hchars hplain =>
      have hread := Url.readBack_of_plain (Url.pathPart_of_isPathChar hchars)
        (Url.slashed_encode_of_isPathChar hchars) hplain
      rw [hread, decodedPath, decodeText?_slash, hnone, Option.map_none, Option.getD_none]

end Paths

/-! ### Buckets in front of keys -/

/-- What stands in front of a key stands for itself. -/
theorem plain_of_isNameChar {c : Char} (h : isNameChar c = true) :
    (c.toNat < 128 ∧ c ≠ '%') ∧ Url.IsPathChar c := by
  have hascii := toNat_lt_of_isNameChar h
  have hkept : c ≠ '%' ∧ Percent.pathSet c = false ∧ c ≠ '\\' := Text.of_forall_ascii
    (P := fun c => isNameChar c = true → c ≠ '%' ∧ Percent.pathSet c = false ∧ c ≠ '\\')
    (by decide) hascii h
  exact ⟨⟨hascii, hkept.1⟩, ⟨hascii, hkept.2.1, hkept.2.2⟩⟩

variable {bucket key region : String}

theorem decodeText?_bucket (hbucket : IsBucketName bucket) (key : List Char) :
    Percent.decodeText? (String.ofList (bucket.toList ++ '/' :: key)) =
      (Percent.decodeText? (String.ofList key)).map fun s =>
        String.ofList (bucket.toList ++ '/' :: s.toList) := by
  have hfront : ∀ c ∈ bucket.toList ++ ['/'], c.toNat < 128 ∧ c ≠ '%' := by
    rw [List.forall_mem_append, List.forall_mem_singleton]
    exact ⟨fun c hc => (plain_of_isNameChar (hbucket.chars c hc)).1, by decide⟩
  simpa using Percent.decodeText?_append_of_plain hfront key

/-- A bucket is no dot segment. -/
theorem isPlainSegment_bucket (hbucket : IsBucketName bucket) :
    Url.IsPlainSegment bucket.toList := by
  have hself := Percent.decode_plain
    (fun c hc => (plain_of_isNameChar (hbucket.chars c hc)).1) []
  simp only [List.append_nil, Percent.decode] at hself
  exact (Url.isPlainSegment_iff hself).2
    ⟨fun heq => hbucket.ne_dot (String.toList_inj.1 heq),
      fun heq => hbucket.ne_dotdot (String.toList_inj.1 heq)⟩

/-- A bucket in front of a key makes no difference. -/
theorem isVerbatim_bucket_iff (hbucket : IsBucketName bucket) {key : List Char} (hkey : key ≠ []) :
    IsVerbatim (bucket.toList ++ '/' :: key) ↔ IsVerbatim key := by
  have htext := decodeText?_bucket hbucket key
  have hlast : (bucket.toList ++ '/' :: key).getLast? = key.getLast? := by
    rw [List.getLast?_append_of_ne_nil _ (List.cons_ne_nil _ _), List.getLast?_cons_of_ne_nil hkey]
  have hfront : ∀ c ∈ bucket.toList ++ ['/'], Url.IsPathChar c := by
    rw [List.forall_mem_append, List.forall_mem_singleton]
    exact ⟨fun c hc => (plain_of_isNameChar (hbucket.chars c hc)).2,
      ⟨by decide, by decide, by decide⟩⟩
  have hself : Percent.decodeText? (String.ofList (bucket.toList ++ '/' :: key)) =
        some (String.ofList (bucket.toList ++ '/' :: key)) ↔
      Percent.decodeText? (String.ofList key) = some (String.ofList key) := by
    rw [htext]
    cases Percent.decodeText? (String.ofList key) with
    | none => simp
    | some s => simp [← String.toList_inj]
  have hnone : Percent.decodeText? (String.ofList (bucket.toList ++ '/' :: key)) = none ↔
      Percent.decodeText? (String.ofList key) = none := by
    rw [htext, Option.map_eq_none_iff]
  have hsegments : (∀ segment ∈ Text.splitAll '/' (bucket.toList ++ '/' :: key),
        Url.IsPlainSegment segment) ↔
      ∀ segment ∈ Text.splitAll '/' key, Url.IsPlainSegment segment := by
    rw [Text.splitAll_append_cons, Text.splitAll_of_notMem hbucket.noSlash, List.forall_mem_append,
      List.forall_mem_singleton]
    exact and_iff_right (isPlainSegment_bucket hbucket)
  have hkeeps : ∀ {P : Char → Prop}, (∀ c, Url.IsPathChar c → P c) →
      ((∀ c ∈ bucket.toList ++ '/' :: key, P c) ↔ ∀ c ∈ key, P c) := by
    intro P hP
    rw [List.append_cons, List.forall_mem_append]
    exact and_iff_right fun c hc => hP c (hfront c hc)
  have hinner : ∀ c, Url.IsPathChar c →
      Url.isInner c = true ∧ c ≠ '#' ∧ c ≠ '?' ∧ c ≠ '\\' := fun c hc =>
    ⟨Url.isInner_of_not_isEdge hc.outside.1, hc.outside.2.1, hc.outside.2.2, hc.ne_backslash⟩
  constructor
  · rintro (⟨hpath, hchars, hend⟩ | ⟨hpath, hchars, hdots⟩)
    · exact .decoded (hself.1 hpath) ((hkeeps hinner).1 hchars) (hlast ▸ hend)
    · exact .raw (hnone.1 hpath) ((hkeeps fun _ h => h).1 hchars) (hsegments.1 hdots)
  · rintro (⟨hpath, hchars, hend⟩ | ⟨hpath, hchars, hdots⟩)
    · exact .decoded (hself.2 hpath) ((hkeeps hinner).2 hchars) (hlast.symm ▸ hend)
    · exact .raw (hnone.2 hpath) ((hkeeps fun _ h => h).2 hchars) (hsegments.2 hdots)

/-! ### Rewritten locations -/

/-- Behind a host without a bucket the path begins with the bucket, and the rest is the key. -/
theorem locationOf_readBack (region : List Char) {bucket key : List Char} (hbucket : '/' ∉ bucket)
    (hkey : key ≠ []) (path : List Char) :
    (locationOf ⟨[], region⟩ (String.ofList ('/' :: Url.readBack path))).isPathStyle = true ∧
      (locationOf ⟨[], region⟩ (String.ofList ('/' :: Url.readBack path))).region =
        regionOf (String.ofList region) ∧
      ((locationOf ⟨[], region⟩ (String.ofList ('/' :: Url.readBack path))).bucket =
          String.ofList bucket ∧
        (locationOf ⟨[], region⟩ (String.ofList ('/' :: Url.readBack path))).key =
            String.ofList key ↔
        decodedPath (String.ofList ('/' :: Url.readBack path)) =
          String.ofList ('/' :: (bucket ++ '/' :: key))) := by
  obtain ⟨rest, hrest⟩ := exists_decodedPath (Url.isRooted_readPath "https" [] (Url.pathPart path))
  rw [Url.text_readPath] at hrest
  change decodedPath (String.ofList ('/' :: Url.readBack path)) = "/" ++ rest at hrest
  have hwithout : withoutSlash (decodedPath (String.ofList ('/' :: Url.readBack path))).toList =
      rest.toList := by
    rw [hrest]
    simp [withoutSlash]
  have hsame : decodedPath (String.ofList ('/' :: Url.readBack path)) =
      String.ofList ('/' :: (bucket ++ '/' :: key)) ↔ rest.toList = bucket ++ '/' :: key := by
    rw [hrest, ← String.toList_inj]
    simp
  refine ⟨by simp [locationOf], by simp [locationOf], ?_⟩
  simp only [locationOf, hwithout, List.isEmpty_nil, if_true, String.ofList_inj]
  rw [hsame]
  constructor
  · rintro ⟨hb, hk⟩
    rcases (bucketAndKey_spec rest.toList).2 with hpath | ⟨-, hnil⟩
    · rw [hpath, hb, hk]
    · exact absurd (hk.symm.trans hnil) hkey
  · intro hpath
    rw [hpath, bucketAndKey, Text.splitOnce_append_cons key hbucket]
    exact ⟨rfl, rfl⟩

theorem resolveLocation_eq (bucket key region : String) :
    resolveLocation ("s3://" ++ bucket ++ "/" ++ key) region =
      String.ofList ("https://".toList ++
        serviceOf (if region = "" then defaultRegion else region) "amazonaws.com".toList ++
          '/' :: (bucket.toList ++ '/' :: key.toList)) := by
  have hrest : Text.afterBeginning "s3://".toList ("s3://" ++ bucket ++ "/" ++ key).toList =
      some (bucket.toList ++ '/' :: key.toList) := by
    have hlocation : ("s3://" ++ bucket ++ "/" ++ key).toList =
        "s3://".toList ++ (bucket.toList ++ '/' :: key.toList) := by simp
    rw [hlocation, Text.afterBeginning_append]
  rw [resolveLocation, hrest, ← String.toList_inj]
  simp [serviceOf]

/-- The region of a rewritten location, where none stands for the default. -/
theorem isRegionName_default : IsRegionName defaultRegion :=
  ⟨by decide, Text.forall_mem_of_all (by decide), by decide, by decide⟩

end ObjectStore

open ObjectStore

/-- **The place that a rewritten location names.** It is path-style and in the region, and it is the
bucket and the key exactly if the key stands for itself as a path. -/
theorem ObjectLocation.ofUrl?_resolveLocation_iff {bucket key region : String}
    (hbucket : IsBucketName bucket) (hkey : IsObjectKey key)
    (hregion : region = "" ∨ IsRegionName region ∧
      Text.beginsWith Domain.mark region.toList = false ∧ region ≠ "external-1") :
    ∃ l, ObjectLocation.ofUrl? (resolveLocation ("s3://" ++ bucket ++ "/" ++ key) region) = some l ∧
      l.isPathStyle = true ∧ l.region = (if region = "" then defaultRegion else region) ∧
      (l.bucket = bucket ∧ l.key = key ↔ IsVerbatim key.toList) := by
  generalize hnamed : (if region = "" then defaultRegion else region) = named
  have hname : IsRegionName named ∧ Text.beginsWith Domain.mark named.toList = false ∧
      named ≠ "external-1" := by
    rw [← hnamed]
    split
    · exact ⟨isRegionName_default, by decide, by decide⟩
    · next hne => exact hregion.resolve_left hne
  have hdomain : isDomain "amazonaws.com".toList = true := by decide
  have hhost := isPlainHost_serviceOf hname.1 hname.2.1 hdomain
  have hparse := Host.parse?_of_plain hhost.ne_nil hhost.keeps hhost.unmarked hhost.noNumber
  have hparts := ofHost?_serviceAlone hname.1 hdomain
  have hregionOf : regionOf (String.ofList named.toList) = named := by
    simp [regionOf, hname.1.ne_empty, hname.2.2]
  have hkeyNe : key.toList ≠ [] := by simpa using hkey.ne_empty
  obtain ⟨hstyle, hregion', hplace⟩ := locationOf_readBack named.toList hbucket.noSlash hkeyNe
    (bucket.toList ++ '/' :: key.toList)
  rw [resolveLocation_eq, hnamed,
    ofUrl?_of_host hhost.ne_nil hhost.keeps hparse hparts (bucket.toList ++ '/' :: key.toList)]
  refine ⟨_, rfl, hstyle, hregion'.trans hregionOf, ?_⟩
  rw [String.ofList_toList, String.ofList_toList] at hplace
  exact hplace.trans ((decodedPath_readBack_iff (hbucket.noDots hkey)).trans
    (isVerbatim_bucket_iff hbucket hkeyNe))

/-- A key with a blank and letters outside ASCII, in a bucket with a dot. -/
theorem ObjectLocation.ofUrl?_resolveLocation_iff_spaced :
    IsBucketName "logs.2024" ∧ IsObjectKey "größe/a b+c.zip" ∧ IsVerbatim "größe/a b+c.zip".toList ∧
      (IsRegionName "eu-west-1" ∧ Text.beginsWith Domain.mark "eu-west-1".toList = false ∧
        "eu-west-1" ≠ "external-1") ∧
      ∃ l, ObjectLocation.ofUrl? (resolveLocation "s3://logs.2024/größe/a b+c.zip" "eu-west-1") =
          some l ∧
        l.isPathStyle = true ∧ l.region = "eu-west-1" ∧
        l.bucket = "logs.2024" ∧ l.key = "größe/a b+c.zip" := by
  have hbucket : IsBucketName "logs.2024" :=
    ⟨by decide, Text.forall_mem_of_all (by decide), by decide, by decide⟩
  have hkey : IsObjectKey "größe/a b+c.zip" := ⟨by decide, by decide⟩
  have hverbatim : IsVerbatim "größe/a b+c.zip".toList :=
    .decoded (by decide +kernel) (Text.forall_mem_of_all (by decide +kernel))
      (by rintro _ ⟨⟩; decide)
  have hregion : IsRegionName "eu-west-1" ∧
      Text.beginsWith Domain.mark "eu-west-1".toList = false ∧ "eu-west-1" ≠ "external-1" :=
    ⟨⟨by decide, Text.forall_mem_of_all (by decide), by decide, by decide⟩, by decide, by decide⟩
  obtain ⟨l, hread, hstyle, hnamed, hplace⟩ :=
    ObjectLocation.ofUrl?_resolveLocation_iff hbucket hkey (.inr hregion)
  exact ⟨hbucket, hkey, hverbatim, hregion, l, hread, hstyle, hnamed, hplace.2 hverbatim⟩

/-- A question mark in a key ends the path of the location that it is rewritten into. -/
theorem ObjectLocation.ofUrl?_resolveLocation_query :
    IsBucketName "packages" ∧ IsObjectKey "a?b" ∧
      (IsRegionName "eu-west-1" ∧ Text.beginsWith Domain.mark "eu-west-1".toList = false ∧
        "eu-west-1" ≠ "external-1") ∧
      resolveLocation ("s3://" ++ "packages" ++ "/" ++ "a?b") "eu-west-1" =
        "https://s3.eu-west-1.amazonaws.com/packages/a?b" ∧
      ObjectLocation.ofUrl? "https://s3.eu-west-1.amazonaws.com/packages/a?b" =
        some ⟨true, "packages", "a", "eu-west-1"⟩ := by
  have hregion : IsRegionName "eu-west-1" :=
    ⟨by decide, Text.forall_mem_of_all (by decide), by decide, by decide⟩
  exact ⟨⟨by decide, Text.forall_mem_of_all (by decide), by decide, by decide⟩,
    ⟨by decide, by decide⟩, ⟨hregion, by decide, by decide⟩, by decide, by decide +kernel⟩

end Depot
