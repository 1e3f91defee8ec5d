import Depot.Proofs.Url.Segments

/-!
# Dot segments in URLs and in what they stand for

Dot segments are left out when a URL is read, encoded or not, so that its path has none. What the
path stands for may have some nevertheless, but only where a slash is encoded: the other slashes
divide the path as they divide what it stands for, and a segment stands for dots only if it is a dot
segment.

## Main definitions

* `Url.IsWholeSegment` : the segments that are read from a path.

## Main results

* `Url.plain_of_parse?` : the path of a URL has no dot segments.
* `Url.noDots_of_decode` : neither has what it stands for, without encoded slashes.
-/

namespace Depot

open String (utf8EncodeChar)

namespace Url

/-! ### Paths of URLs -/

/-- A segment that is no dot segment and that no slash divides. -/
def IsWholeSegment (segment : List Char) : Prop :=
  IsPlainSegment segment ∧ '/' ∉ segment

theorem isWholeSegment_nil : IsWholeSegment [] :=
  ⟨isPlainSegment_nil, List.not_mem_nil⟩

theorem plain_of_whole {segments : List (List Char)} (hne : segments ≠ [])
    (h : ∀ segment ∈ segments, IsWholeSegment segment) :
    ∀ segment ∈ Text.splitAll '/' (UrlPath.text (.segments (segments.map String.ofList))).toList,
      IsPlainSegment segment := by
  have hcut := Text.splitAll_append_cons '/' [] (['/'].intercalate segments)
  rw [List.nil_append] at hcut
  rw [text_segments hne, String.toList_ofList, hcut,
    Text.splitAll_intercalate hne fun segment hmem => (h segment hmem).2]
  exact List.forall_mem_cons.2 ⟨isPlainSegment_nil, fun segment hmem => (h segment hmem).1⟩

theorem isWholeSegment_of_addSegments {cs segment : List Char} {special : Bool}
    (h : segment ∈ addSegments [] (splitSlashes special cs)) : IsWholeSegment segment := by
  rcases mem_of_mem_addSegments h with rfl | hnil | ⟨hpart, hplain⟩
  · exact isWholeSegment_nil
  · cases hnil
  · exact ⟨hplain, Text.notMem_of_mem_splitAll hpart⟩

theorem isWholeSegment_of_addFileSegments {cs segment : List Char} {special : Bool}
    (h : segment ∈ (addFileSegments [] (splitSlashes special cs)).1) : IsWholeSegment segment := by
  rcases mem_of_mem_addFileSegments h with rfl | hnil | ⟨⟨part, hpart, rfl | rfl⟩, hplain⟩
  · exact isWholeSegment_nil
  · cases hnil
  · exact ⟨hplain, Text.notMem_of_mem_splitAll hpart⟩
  · refine ⟨hplain, fun hmem => Text.notMem_of_mem_splitAll hpart ?_⟩
    cases part with
    | nil => cases hmem
    | cons c _ =>
      rcases List.mem_cons.1 hmem with rfl | hmem
      · exact List.mem_cons_self
      · exact absurd hmem (by decide)

/-- A path that is read from a text has no dot segments. -/
theorem IsReadPath.plain {path : UrlPath} (h : IsReadPath path) :
    ∀ segment ∈ Text.splitAll '/' path.text.toList, IsPlainSegment segment := by
  cases h with
  | path scheme cs =>
    refine plain_of_whole (fun hnil => ?_) fun segment hmem => ?_
    · exact addSegments_ne_nil _ (Text.splitAll_ne_nil '/' _) (List.reverse_eq_nil_iff.1 hnil)
    · exact isWholeSegment_of_addSegments (List.mem_reverse.1 hmem)
  | file cs =>
    refine plain_of_whole ?_ ?_
    · split
      · exact List.cons_ne_nil _ _
      · next hne => exact fun hnil => hne (List.isEmpty_iff.2 hnil)
    · split
      · exact List.forall_mem_singleton.2 isWholeSegment_nil
      · intro segment hmem
        have hread := (List.dropWhile_sublist _).subset hmem
        exact isWholeSegment_of_addFileSegments (List.mem_reverse.1 hread)

/-- **The path of a URL with a host has no dot segments.** -/
theorem plain_of_parse? {text : String} {u : Url} (h : parse? text = some u) {host : String}
    (hhost : u.hostText? = some host) :
    ∀ segment ∈ Text.splitAll '/' u.path.text.toList, IsPlainSegment segment := by
  rcases path_of_parse? h with hpath | ⟨-, hempty | hnone⟩
  · exact hpath.plain
  · rw [hempty]
    exact List.forall_mem_singleton.2 isPlainSegment_nil
  · rw [hostText?, hnone] at hhost
    cases hhost

/-! ### What a path stands for -/

/-- Bytes without slashes, between slashes. -/
theorem splitOn_intercalate_slash {parts : List (List Char)} (hne : parts ≠ [])
    (bytes : List Char → Bytes) (hbytes : ∀ part ∈ parts, (0x2F : UInt8) ∉ bytes part) :
    ([0x2F].intercalate (parts.map bytes)).splitOn 0x2F = parts.map bytes := by
  refine List.splitOn_intercalate 0x2F ?_ (by simpa using hne)
  intro _ hmem
  obtain ⟨part, hpart, rfl⟩ := List.mem_map.1 hmem
  exact hbytes part hpart

/-- **Without encoded slashes a path stands for what its segments stand for,** so that it stands for
dot segments only if it has some. -/
theorem noDots_of_decode {path text : List Char}
    (hplain : ∀ segment ∈ Text.splitAll '/' path, IsPlainSegment segment)
    (hescape : ¬ "%2f".toList <:+: path.map Char.toLower)
    (h : Percent.decode (path.flatMap utf8EncodeChar) = text.flatMap utf8EncodeChar) :
    ∀ segment ∈ Text.splitAll '/' text, segment ≠ ['.'] ∧ segment ≠ ['.', '.'] := by
  have hslash : ∀ (c : Char), 0x2F ∈ utf8EncodeChar c → c = '/' := fun c =>
    Percent.eq_of_mem_utf8EncodeChar (d := '/') (by decide)
  have hwritten : ∀ part ∈ Text.splitAll '/' text, 0x2F ∉ part.flatMap utf8EncodeChar := by
    intro part hpart hmem
    obtain ⟨c, hc, hbyte⟩ := List.mem_flatMap.1 hmem
    exact Text.notMem_of_mem_splitAll hpart (hslash c hbyte ▸ hc)
  have hstood : ∀ part ∈ Text.splitAll '/' path,
      0x2F ∉ Percent.decode (part.flatMap utf8EncodeChar) := by
    intro part hpart hmem
    rcases Percent.mem_decode hmem with ⟨c, hc, hbyte⟩ | hfound
    · exact Text.notMem_of_mem_splitAll hpart (hslash c hbyte ▸ hc)
    · exact hescape (hfound.trans ((Text.infix_of_mem_splitAll hpart).map _))
  -- The same bytes are cut at their slashes, once as what the path stands for, once as the text.
  have hread := Percent.decode_intercalate (Text.splitAll '/' path)
  have htext := @Text.flatMap_intercalate '/' UInt8 utf8EncodeChar (Text.splitAll '/' text)
  rw [Text.intercalate_splitAll] at hread htext
  have hparts :
      (Text.splitAll '/' path).map (fun part => Percent.decode (part.flatMap utf8EncodeChar)) =
        (Text.splitAll '/' text).map fun part => part.flatMap utf8EncodeChar := by
    rw [← splitOn_intercalate_slash (Text.splitAll_ne_nil '/' path) _ hstood, ← hread, h, htext]
    exact splitOn_intercalate_slash (Text.splitAll_ne_nil '/' text) _ hwritten
  intro segment hsegment
  have hmem := List.mem_map_of_mem (f := fun part => part.flatMap utf8EncodeChar) hsegment
  rw [← hparts] at hmem
  obtain ⟨part, hpart, hstands⟩ := List.mem_map.1 hmem
  exact (isPlainSegment_iff hstands).1 (hplain part hpart)

end Url

end Depot
