import Depot.Proofs.ObjectStore.Rewriting

/-!
# Two addresses of one object

The URL of an object and a location of the scheme `s3` that is rewritten both name a host of the
region, and put a bucket with a dot in front of the key. They are put together apart. The URL of an
object has its key encoded, and its host lies in the domain of the partition that the region belongs
to. A rewritten location keeps the key, and has one domain for all regions. So the two are the same
exactly where neither the encoding nor the partition makes a difference.

## Main results

* `ObjectStore.encoded_eq_self_iff` : the paths that encoding leaves alone.
* `objectUrl_eq_resolveLocation_iff` : where the two addresses are the same.
* `objectUrl_ne_resolveLocation_china` : they differ in the regions of the other partition.
-/

namespace Depot

namespace ObjectStore

/-! ### Paths that encoding leaves alone -/

theorem encodeChar_of_not_reserved {c : Char} (h : Percent.reservedSet c = false) :
    Percent.encodeChar Percent.reservedSet c = [c] := by
  have hascii : c.toNat < 128 := by
    simp only [Percent.reservedSet, Bool.not_eq_false', Bool.or_eq_true, beq_iff_eq] at h
    rcases h with (((h | rfl) | rfl) | rfl) | rfl
    · exact Url.toNat_lt_of_isAlphanum h
    all_goals decide
  simp [Percent.encodeChar, hascii, h]

theorem length_encodeChar_of_reserved {c : Char} (h : Percent.reservedSet c = true) :
    3 ≤ (Percent.encodeChar Percent.reservedSet c).length := by
  obtain ⟨b, bytes, hbytes⟩ := List.exists_cons_of_ne_nil (@String.utf8EncodeChar_ne_nil c)
  simp only [Percent.encodeChar, h, Bool.not_true, Bool.and_false, Bool.false_eq_true, if_false,
    hbytes, List.flatMap_cons, List.length_append]
  exact Nat.le_add_right 3 _

theorem length_le_encoded (path : List Char) : path.length ≤ (encoded path).length := by
  induction path with
  | nil => exact Nat.le_refl _
  | cons c path ih =>
    rw [encoded_cons, List.length_append, List.length_cons]
    split
    · rw [List.length_singleton]
      omega
    · cases hc : Percent.reservedSet c with
      | false =>
        rw [encodeChar_of_not_reserved hc, List.length_singleton]
        omega
      | true =>
        have := length_encodeChar_of_reserved hc
        omega

/-- **A path is left alone exactly if it has slashes and unreserved characters only.** An encoded
character takes the room of three. -/
theorem encoded_eq_self_iff {path : List Char} :
    encoded path = path ↔ ∀ c ∈ path, c = '/' ∨ Percent.reservedSet c = false := by
  induction path with
  | nil => exact iff_of_true rfl (List.forall_mem_nil _)
  | cons c path ih =>
    rw [encoded_cons, List.forall_mem_cons, ← ih]
    by_cases hslash : c = '/'
    · rw [if_pos hslash, hslash, List.singleton_append, List.cons_inj_right]
      exact (and_iff_right (.inl rfl)).symm
    rw [if_neg hslash]
    cases hc : Percent.reservedSet c with
    | false =>
      rw [encodeChar_of_not_reserved hc, List.singleton_append, List.cons_inj_right]
      exact (and_iff_right (.inr rfl)).symm
    | true =>
      refine iff_of_false (fun heq => ?_) fun h => h.1.elim hslash Bool.noConfusion
      have hlength := congrArg List.length heq
      have := length_encodeChar_of_reserved hc
      have := length_le_encoded path
      rw [List.length_append, List.length_cons] at hlength
      omega

/-! ### Hosts and domains -/

variable {bucket key region : String}

/-- The domain of a region that is not given is that of the default region. -/
theorem domainOf_named (region : String) :
    domainOf (if region = "" then defaultRegion else region) = domainOf region := by
  split
  · next hempty =>
    rw [hempty]
    decide
  · rfl

/-- A region has the domain of the first partition unless its name begins like those of the
other. -/
theorem domainOf_eq_iff :
    domainOf region = "amazonaws.com" ↔ Text.beginsWith "cn-".toList region.toList = false := by
  rw [domainOf]
  cases Text.beginsWith "cn-".toList region.toList with
  | false => exact iff_of_true rfl rfl
  | true => exact iff_of_false (by decide) (by decide)

/-- A domain has no slash. -/
theorem slash_notMem_domainOf (region : String) : '/' ∉ (domainOf region).toList := by
  rw [domainOf]
  split
  all_goals decide

theorem objectUrl_of_dot (hdot : '.' ∈ bucket.toList) :
    objectUrl none bucket key region =
      String.ofList ("https://".toList ++
        serviceOf (if region = "" then defaultRegion else region) (domainOf region).toList ++
          '/' :: (bucket.toList ++ '/' :: encoded key.toList)) := by
  have hhost : objectHost bucket region =
      serviceOf (if region = "" then defaultRegion else region) (domainOf region).toList := by
    simp only [objectHost, if_pos hdot, String.isEmpty_iff, domainOf_named]
  rw [objectUrl_eq, hhost, objectPath, if_pos hdot]

end ObjectStore

open ObjectStore

/-- **The two addresses of an object agree** exactly where the region lies in the partition of
`amazonaws.com` and the key is not changed by encoding, if the bucket has a dot. -/
theorem objectUrl_eq_resolveLocation_iff {bucket key region : String}
    (hdot : '.' ∈ bucket.toList) :
    objectUrl none bucket key region =
        resolveLocation ("s3://" ++ bucket ++ "/" ++ key) region ↔
      Text.beginsWith "cn-".toList region.toList = false ∧
        ∀ c ∈ key.toList, c = '/' ∨ Percent.reservedSet c = false := by
  have hdomain : '/' ∉ "amazonaws.com".toList := by decide
  -- Up to the domain both are the same, and a slash ends the domain of each.
  rw [objectUrl_of_dot hdot, resolveLocation_eq, String.ofList_inj, serviceOf, serviceOf]
  simp only [List.append_assoc, List.append_cancel_left_eq, List.cons_append, List.cons.injEq,
    true_and]
  rw [Text.append_sep_inj (slash_notMem_domainOf region) hdomain, String.toList_inj,
    domainOf_eq_iff, List.append_cancel_left_eq, List.cons_inj_right, encoded_eq_self_iff]

/-- A key in two folders, in a bucket with a dot. -/
theorem objectUrl_eq_resolveLocation_folder :
    '.' ∈ "my.bucket".toList ∧ Text.beginsWith "cn-".toList "eu-west-1".toList = false ∧
      (∀ c ∈ "agent/1.0.0/a_b-c~d.zip".toList, c = '/' ∨ Percent.reservedSet c = false) ∧
      objectUrl none "my.bucket" "agent/1.0.0/a_b-c~d.zip" "eu-west-1" =
        resolveLocation ("s3://" ++ "my.bucket" ++ "/" ++ "agent/1.0.0/a_b-c~d.zip")
          "eu-west-1" := by
  have hdot : '.' ∈ "my.bucket".toList := by decide
  have hregion : Text.beginsWith "cn-".toList "eu-west-1".toList = false := by decide
  have hkey : ∀ c ∈ "agent/1.0.0/a_b-c~d.zip".toList, c = '/' ∨ Percent.reservedSet c = false :=
    Text.forall_mem_of_all (by decide)
  exact ⟨hdot, hregion, hkey, (objectUrl_eq_resolveLocation_iff hdot).2 ⟨hregion, hkey⟩⟩

/-- In a region of the other partition a rewritten location names a host of the first one. -/
theorem objectUrl_ne_resolveLocation_china :
    IsBucketName "my.bucket" ∧ '.' ∈ "my.bucket".toList ∧ "a.zip" ≠ "" ∧
      (∀ c ∈ "a.zip".toList, c = '/' ∨ Percent.reservedSet c = false) ∧
      IsRegionName "cn-north-1" ∧
      objectUrl none "my.bucket" "a.zip" "cn-north-1" =
        "https://s3.cn-north-1.amazonaws.com.cn/my.bucket/a.zip" ∧
      resolveLocation ("s3://" ++ "my.bucket" ++ "/" ++ "a.zip") "cn-north-1" =
        "https://s3.cn-north-1.amazonaws.com/my.bucket/a.zip" ∧
      objectUrl none "my.bucket" "a.zip" "cn-north-1" ≠
        resolveLocation ("s3://" ++ "my.bucket" ++ "/" ++ "a.zip") "cn-north-1" := by
  have hbucket : IsBucketName "my.bucket" :=
    ⟨by decide, Text.forall_mem_of_all (by decide), by decide, by decide⟩
  have hregion : IsRegionName "cn-north-1" :=
    ⟨by decide, Text.forall_mem_of_all (by decide), by decide, by decide⟩
  exact ⟨hbucket, by decide, by decide, Text.forall_mem_of_all (by decide), hregion, by decide,
    by decide, by decide⟩

end Depot
