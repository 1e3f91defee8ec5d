import Depot.Proofs.Url.Plain

/-!
# The segments that a path keeps

A path is read segment by segment. A dot segment is left out, with the one before it if it is a
double dot, and leaves an empty segment at the end of the path. A measure of segments that is
smaller for the empty one than for dot segments therefore gets smaller with every dot segment, and
stays the same only where there is none.

What is read as a path need not be all that stands behind the host: edges are trimmed, tabs and line
breaks are left out, and a question mark or a hash ends it.

## Main definitions

* `Url.IsPlainSegment` : the segments that are no dot segments.
* `Url.keptSegments`, `Url.readBack` : the segments of the path that a text is read as, and the
  path.
* `Url.writtenSegments` : the segments that a text is cut into.

## Main results

* `Url.isPlainSegment_iff` : dot segments are those that stand for dots.
* `Url.plain_of_sum_le` : a measure that does not get smaller means that there is no dot segment.
* `Url.addSegments_eq_reverse_iff` : when all segments are kept.
* `Url.pathPart_eq_self_iff` : when all of a text is read as a path.
* `Url.decodedLength_keptSegments` : a path stands for no more than the text.
* `Url.parse?_of_host` : the host and the path of a URL whose host is kept.
-/

namespace Depot

open String (utf8EncodeChar)

namespace Url

/-! ### Dot segments -/

/-- The segment is neither a single nor a double dot. -/
def IsPlainSegment (segment : List Char) : Prop :=
  isDot segment = false ∧ isDoubleDot segment = false

theorem isPlainSegment_nil : IsPlainSegment [] :=
  ⟨rfl, rfl⟩

/-- **A segment is no dot segment** exactly if the text that it stands for is none. -/
theorem isPlainSegment_iff {segment text : List Char}
    (h : Percent.decode (segment.flatMap utf8EncodeChar) = text.flatMap utf8EncodeChar) :
    IsPlainSegment segment ↔ text ≠ ['.'] ∧ text ≠ ['.', '.'] := by
  rw [IsPlainSegment, ← Bool.not_eq_true, ← Bool.not_eq_true, isDot_iff, isDoubleDot_iff, h]
  refine and_congr (not_congr ⟨fun hbytes => ?_, fun htext => ?_⟩)
    (not_congr ⟨fun hbytes => ?_, fun htext => ?_⟩)
  · exact eq_of_flatMap_utf8 hbytes
  · rw [htext]
    rfl
  · exact eq_of_flatMap_utf8 hbytes
  · rw [htext]
    rfl

theorem IsPlainSegment.ne_dots {segment : List Char} (h : IsPlainSegment segment) :
    segment ≠ ['.'] ∧ segment ≠ ['.', '.'] := by
  constructor
  · rintro rfl
    exact absurd h.1 (by decide)
  · rintro rfl
    exact absurd h.2 (by decide)

theorem dropSegment_sublist (segments : List (List Char)) :
    (dropSegment segments).Sublist segments := by
  cases segments with
  | nil => exact List.Sublist.refl _
  | cons last before =>
    rw [dropSegment]
    split
    · exact List.Sublist.refl _
    · exact List.sublist_cons_self _ _

section Measures

variable (cost : List Char → Nat)
variable (hcost : ∀ segment, ¬ IsPlainSegment segment → cost [] < cost segment)

include hcost

/-- A segment adds its measure, and less if it is a dot segment. -/
theorem sum_addSegment (segments : List (List Char)) (last : Bool) (segment : List Char) :
    (IsPlainSegment segment ∧
        ((addSegment segments last segment).map cost).sum =
          (segments.map cost).sum + cost segment) ∨
      ((addSegment segments last segment).map cost).sum <
        (segments.map cost).sum + cost segment := by
  have hending : ((if last then [[]] else [] : List (List Char)).map cost).sum ≤ cost [] := by
    cases last
    · exact Nat.zero_le _
    · simp
  have hdrop : ((dropSegment segments).map cost).sum ≤ (segments.map cost).sum :=
    ((dropSegment_sublist segments).map cost).sum_le_sum fun _ _ => Nat.zero_le _
  unfold addSegment
  by_cases hdouble : isDoubleDot segment = true
  · have hless := hcost segment fun h => Bool.noConfusion (h.2.symm.trans hdouble)
    right
    simp only [if_pos hdouble, List.map_append, List.sum_append]
    omega
  · by_cases hdot : isDot segment = true
    · have hless := hcost segment fun h => Bool.noConfusion (h.1.symm.trans hdot)
      right
      simp only [if_neg hdouble, if_pos hdot, List.map_append, List.sum_append]
      omega
    · left
      refine ⟨⟨Bool.eq_false_iff.2 hdot, Bool.eq_false_iff.2 hdouble⟩, ?_⟩
      simp only [if_neg hdouble, if_neg hdot, List.map_cons, List.sum_cons]
      omega

theorem sum_addSegments_le (segments parts : List (List Char)) :
    ((addSegments segments parts).map cost).sum ≤
      (segments.map cost).sum + (parts.map cost).sum := by
  induction parts generalizing segments with
  | nil => exact Nat.le_refl _
  | cons part rest ih =>
    rw [addSegments, List.map_cons, List.sum_cons]
    have hrest := ih (addSegment segments rest.isEmpty part)
    rcases sum_addSegment cost hcost segments rest.isEmpty part with ⟨-, hpart⟩ | hpart <;> omega

/-- **Where the measure of the segments does not get smaller there is no dot segment.** -/
theorem plain_of_sum_le (segments : List (List Char)) {parts : List (List Char)}
    (h : (segments.map cost).sum + (parts.map cost).sum ≤
      ((addSegments segments parts).map cost).sum) :
    ∀ part ∈ parts, IsPlainSegment part := by
  induction parts generalizing segments with
  | nil => exact fun _ hp => absurd hp List.not_mem_nil
  | cons part rest ih =>
    rw [addSegments, List.map_cons, List.sum_cons] at h
    have hrest := sum_addSegments_le cost hcost (addSegment segments rest.isEmpty part) rest
    rcases sum_addSegment cost hcost segments rest.isEmpty part with ⟨hplain, hpart⟩ | hpart
    · have hmore : ((addSegment segments rest.isEmpty part).map cost).sum + (rest.map cost).sum ≤
          ((addSegments (addSegment segments rest.isEmpty part) rest).map cost).sum := by omega
      exact List.forall_mem_cons.2 ⟨hplain, ih _ hmore⟩
    · omega

end Measures

/-- **All segments are kept exactly if none is a dot segment.** -/
theorem addSegments_eq_reverse_iff {parts : List (List Char)} :
    addSegments [] parts = parts.reverse ↔ ∀ part ∈ parts, IsPlainSegment part := by
  constructor
  · intro h
    refine plain_of_sum_le List.length (fun segment hdots => ?_) [] ?_
    · exact List.length_pos_iff.2 fun hnil => hdots (hnil ▸ isPlainSegment_nil)
    · rw [h, List.map_reverse, List.sum_reverse, List.map_nil, List.sum_nil, Nat.zero_add]
  · intro h
    rw [addSegments_of_plain h, List.append_nil]

theorem mem_of_mem_addSegment {segments : List (List Char)} {last : Bool}
    {part segment : List Char} (h : segment ∈ addSegment segments last part) :
    segment = [] ∨ segment ∈ segments ∨ segment = part ∧ IsPlainSegment part := by
  have hending : segment ∈ (if last then [[]] else [] : List (List Char)) → segment = [] := by
    split <;> simp
  unfold addSegment at h
  simp only at h
  split at h
  · rcases List.mem_append.1 h with hmem | hmem
    · exact .inl (hending hmem)
    · exact .inr (.inl ((dropSegment_sublist segments).subset hmem))
  · next hdouble =>
    split at h
    · rcases List.mem_append.1 h with hmem | hmem
      · exact .inl (hending hmem)
      · exact .inr (.inl hmem)
    · next hdot =>
      rcases List.mem_cons.1 h with heq | hmem
      · exact .inr (.inr ⟨heq, Bool.eq_false_iff.2 hdot, Bool.eq_false_iff.2 hdouble⟩)
      · exact .inr (.inl hmem)

/-- Only plain segments of the text and empty ones are kept. -/
theorem mem_of_mem_addSegments {segments parts : List (List Char)} {segment : List Char}
    (h : segment ∈ addSegments segments parts) :
    segment = [] ∨ segment ∈ segments ∨ segment ∈ parts ∧ IsPlainSegment segment := by
  induction parts generalizing segments with
  | nil => exact .inr (.inl h)
  | cons part rest ih =>
    rcases ih h with hnil | hmem | ⟨hmem, hplain⟩
    · exact .inl hnil
    · rcases mem_of_mem_addSegment hmem with hnil | hmem | ⟨rfl, hplain⟩
      · exact .inl hnil
      · exact .inr (.inl hmem)
      · exact .inr (.inr ⟨List.mem_cons_self, hplain⟩)
    · exact .inr (.inr ⟨List.mem_cons_of_mem _ hmem, hplain⟩)

/-- In the path of a file a drive may be kept with a colon. -/
theorem mem_of_mem_addFileSegments {segments parts : List (List Char)} {segment : List Char}
    (h : segment ∈ (addFileSegments segments parts).1) :
    segment = [] ∨ segment ∈ segments ∨
      (∃ part ∈ parts, segment = part ∨ segment = withColon part) ∧ IsPlainSegment segment := by
  induction parts generalizing segments with
  | nil => exact .inr (.inl h)
  | cons part rest ih =>
    rcases ih h with hnil | hmem | ⟨⟨part', hpart, hform⟩, hplain⟩
    · exact .inl hnil
    · rcases mem_of_mem_addSegment hmem with hnil | hmem | ⟨rfl, hplain⟩
      · exact .inl hnil
      · exact .inr (.inl hmem)
      · refine .inr (.inr ⟨⟨part, List.mem_cons_self, ?_⟩, hplain⟩)
        split
        · exact .inr rfl
        · exact .inl rfl
    · exact .inr (.inr ⟨⟨part', List.mem_cons_of_mem _ hpart, hform⟩, hplain⟩)

/-! ### Paths -/

/-- The segments of the path that a text is read as. -/
def keptSegments (cs : List Char) : List (List Char) :=
  (addSegments [] (splitSlashes true (Percent.encode Percent.pathSet cs))).reverse

theorem keptSegments_ne_nil (cs : List Char) : keptSegments cs ≠ [] := fun h =>
  addSegments_ne_nil [] (Text.splitAll_ne_nil '/' _) (List.reverse_eq_nil_iff.1 h)

theorem text_readPath (cs : List Char) :
    (readPath "https" [] cs).text = String.ofList ('/' :: ['/'].intercalate (keptSegments cs)) := by
  have hspecial : isSpecial "https" = true := by decide
  rw [← text_segments (keptSegments_ne_nil cs), readPath, hspecial]
  rfl

theorem toNat_lt_of_isAlphanum {c : Char} (h : c.isAlphanum = true) : c.toNat < 128 := by
  have hle : ∀ d : Char, c ≤ d → c.toNat ≤ d.toNat := fun d hd => UInt32.le_iff_toNat_le.1 hd
  rcases Bool.or_eq_true_iff.1 h with halpha | hdigit
  · rcases Bool.or_eq_true_iff.1 halpha with hupper | hlower
    · exact Nat.lt_of_le_of_lt (hle 'Z' (of_decide_eq_true hupper).2) (by decide)
    · have hmost := of_decide_eq_true (Bool.and_eq_true_iff.1 hlower).2
      exact Nat.lt_of_le_of_lt (hle 'z' hmost) (by decide)
  · have hmost := of_decide_eq_true (Bool.and_eq_true_iff.1 hdigit).2
    exact Nat.lt_of_le_of_lt (hle '9' hmost) (by decide)

theorem pathSet_of_isAlphanum {c : Char} (h : c.isAlphanum = true) : Percent.pathSet c = false :=
  Text.of_forall_ascii
    (P := fun c => c.isAlphanum = true → Percent.pathSet c = false) (by decide)
    (toNat_lt_of_isAlphanum h) h

/-- What is encoded as a path stands for what it stood for before. -/
theorem decode_encode_pathSet (cs : List Char) :
    Percent.decode ((Percent.encode Percent.pathSet cs).flatMap utf8EncodeChar) =
      Percent.decode (cs.flatMap utf8EncodeChar) :=
  Percent.decode_encode (fun _ => pathSet_of_isAlphanum) (by decide) cs

/-- A text up to a sign. -/
theorem front_splitOnce (sep : Char) (cs : List Char) :
    ((Text.splitOnce sep cs).map Prod.fst).getD cs = cs.takeWhile (· ≠ sep) := by
  induction cs with
  | nil => rfl
  | cons c rest ih =>
    by_cases hc : c = sep
    · rw [List.takeWhile_cons_of_neg (by simp [hc])]
      simp [Text.splitOnce, hc]
    · rw [List.takeWhile_cons_of_pos (by simp [hc]), ← ih]
      simp only [Text.splitOnce, if_neg hc]
      cases Text.splitOnce sep rest <;> rfl

/-- A path is what stands before a hash and a question mark. -/
theorem pathPart_eq (rest : List Char) :
    pathPart rest = ((countedBehind rest).takeWhile (· ≠ '#')).takeWhile (· ≠ '?') := by
  rw [← front_splitOnce '?', ← front_splitOnce '#', pathPart, pieces]
  cases Text.splitOnce '#' (countedBehind rest) with
  | none => cases hmark : Text.splitOnce '?' (countedBehind rest) <;> simp [hmark]
  | some cut => cases hmark : Text.splitOnce '?' cut.1 <;> simp [hmark]

/-- What is read as a path is part of the text. -/
theorem pathPart_sublist (rest : List Char) : (pathPart rest).Sublist rest := by
  rw [pathPart_eq]
  refine (List.takeWhile_sublist _).trans ((List.takeWhile_sublist _).trans ?_)
  refine List.filter_sublist.trans ?_
  rw [← List.reverse_sublist, List.reverse_reverse]
  exact List.dropWhile_sublist _

/-- What is read as a path contains no tabs, line breaks, hashes and question marks. -/
theorem of_mem_pathPart {rest : List Char} {c : Char} (h : c ∈ pathPart rest) :
    isInner c = true ∧ c ≠ '#' ∧ c ≠ '?' := by
  rw [pathPart_eq] at h
  have hfront := (List.takeWhile_sublist _).subset h
  have hcounted := (List.takeWhile_sublist _).subset hfront
  exact ⟨(List.mem_filter.1 hcounted).2, by simpa using List.mem_takeWhile_imp hfront,
    by simpa using List.mem_takeWhile_imp h⟩

/-- **All of a text is read as a path exactly if** nothing in it ends the path or is left out, and
it has no edge that is trimmed. -/
theorem pathPart_eq_self_iff {rest : List Char} :
    pathPart rest = rest ↔ (∀ c ∈ rest, isInner c = true ∧ c ≠ '#' ∧ c ≠ '?') ∧
      ∀ c ∈ rest.getLast?, isEdge c = false := by
  constructor
  · intro h
    refine ⟨fun c hc => of_mem_pathPart (h.symm ▸ hc), fun c hc => ?_⟩
    rw [Option.mem_def, List.getLast?_eq_head?_reverse] at hc
    obtain ⟨back, hback⟩ := List.head?_eq_some_iff.1 hc
    -- A last character that is trimmed makes the path shorter.
    refine Bool.eq_false_iff.2 fun hedge => ?_
    have hlength : (pathPart rest).length ≤ back.length := by
      rw [pathPart_eq]
      refine (List.takeWhile_sublist _).length_le.trans ?_
      refine (List.takeWhile_sublist _).length_le.trans ?_
      refine (List.length_filter_le _ _).trans ?_
      rw [List.length_reverse, hback, List.dropWhile_cons_of_pos hedge]
      exact (List.dropWhile_sublist _).length_le
    have hwhole := congrArg List.length hback
    rw [List.length_reverse, List.length_cons] at hwhole
    rw [h] at hlength
    omega
  · rintro ⟨hinner, hlast⟩
    have htrimmed : rest.reverse.dropWhile isEdge = rest.reverse := by
      cases hback : rest.reverse with
      | nil => rfl
      | cons c back =>
        have hc : c ∈ rest.getLast? := by
          rw [Option.mem_def, List.getLast?_eq_head?_reverse, hback]
          rfl
        rw [List.dropWhile_cons_of_neg (by simp [hlast c hc])]
    have hcounted : countedBehind rest = rest := by
      rw [countedBehind, htrimmed, List.reverse_reverse, List.filter_eq_self]
      exact fun c hc => (hinner c hc).1
    have hhash : rest.takeWhile (· ≠ '#') = rest :=
      List.takeWhile_eq_self_iff.2 fun c hc => by simpa using (hinner c hc).2.1
    rw [pathPart_eq, hcounted, hhash, List.takeWhile_eq_self_iff]
    exact fun c hc => by simpa using (hinner c hc).2.2

/-! ### What a path stands for -/

/-- A text with the signs that separate segments as slashes. -/
def slashed (cs : List Char) : List Char :=
  cs.map fun c => if isSlash true c then '/' else c

theorem slashed_append (front back : List Char) :
    slashed (front ++ back) = slashed front ++ slashed back :=
  List.map_append

theorem slashed_eq_self {cs : List Char} (h : '\\' ∉ cs) : slashed cs = cs := by
  refine (List.map_congr_left fun c hc => ?_).trans (List.map_id cs)
  by_cases hslash : c = '/'
  · rw [hslash]
    rfl
  · have hback : c ≠ '\\' := fun heq => h (heq ▸ hc)
    simp [isSlash, hslash, hback]

/-- Slashes stand for as many bytes as backslashes do. -/
theorem decodedLength_slashed (cs : List Char) :
    Percent.decodedLength (slashed cs) = Percent.decodedLength cs := by
  have hmain : ∀ front : List Char,
      Percent.decodedLength (front ++ slashed cs) = Percent.decodedLength (front ++ cs) := by
    induction cs with
    | nil => exact fun _ => rfl
    | cons c cs ih =>
      intro front
      by_cases hback : c = '\\'
      · rw [hback, show slashed ('\\' :: cs) = '/' :: slashed cs from rfl,
          Percent.decodedLength_append_cons _ _ (by decide) (by decide) (by decide),
          Percent.decodedLength_append_cons _ _ (by decide) (by decide) (by decide)]
        exact congrArg _ (ih [])
      · have hkept : slashed (c :: cs) = c :: slashed cs :=
          congrArg (· ++ slashed cs) (slashed_eq_self (by simpa using Ne.symm hback : '\\' ∉ [c]))
        rw [hkept, List.append_cons, ih (front ++ [c]), List.append_assoc, List.singleton_append]
  exact hmain []

theorem decodedLength_slashed_encode (cs : List Char) :
    Percent.decodedLength (slashed (Percent.encode Percent.pathSet cs)) =
      Percent.decodedLength cs :=
  (decodedLength_slashed _).trans (congrArg List.length (decode_encode_pathSet cs))

/-- The segments that a text is cut into, dot segments among them. -/
def writtenSegments (cs : List Char) : List (List Char) :=
  Text.splitAll '/' (slashed (Percent.encode Percent.pathSet cs))

/-- How many bytes a segment stands for, with a slash behind it. -/
def segmentLength (segment : List Char) : Nat :=
  Percent.decodedLength segment + 1

/-- A dot segment stands for more than nothing. -/
theorem segmentLength_nil_lt {segment : List Char} (h : ¬ IsPlainSegment segment) :
    segmentLength [] < segmentLength segment :=
  Nat.succ_lt_succ (List.length_pos_iff.2 fun hnil =>
    h (Percent.decode_eq_nil_iff.1 hnil ▸ isPlainSegment_nil))

theorem sum_writtenSegments (cs : List Char) :
    ((writtenSegments cs).map segmentLength).sum = Percent.decodedLength cs + 1 := by
  rw [← decodedLength_slashed_encode, ← Text.intercalate_splitAll '/' (slashed _),
    Percent.decodedLength_intercalate (Text.splitAll_ne_nil '/' _)]
  rfl

theorem sum_keptSegments (cs : List Char) :
    ((addSegments [] (writtenSegments cs)).map segmentLength).sum =
      Percent.decodedLength (['/'].intercalate (keptSegments cs)) + 1 := by
  rw [Percent.decodedLength_intercalate (keptSegments_ne_nil cs), keptSegments, List.map_reverse,
    List.sum_reverse]
  rfl

/-- **A path stands for no more than the text that it is read from,** and for as much only where no
segment is a dot segment. -/
theorem decodedLength_keptSegments (cs : List Char) :
    Percent.decodedLength (['/'].intercalate (keptSegments cs)) ≤ Percent.decodedLength cs ∧
      (Percent.decodedLength cs ≤ Percent.decodedLength (['/'].intercalate (keptSegments cs)) →
        ∀ segment ∈ writtenSegments cs, IsPlainSegment segment) := by
  have hcost : ∀ segment, ¬ IsPlainSegment segment → segmentLength [] < segmentLength segment :=
    fun _ => segmentLength_nil_lt
  have hsum := sum_addSegments_le segmentLength hcost [] (writtenSegments cs)
  rw [List.map_nil, List.sum_nil, Nat.zero_add, sum_keptSegments, sum_writtenSegments] at hsum
  refine ⟨by omega, fun h => plain_of_sum_le segmentLength hcost [] ?_⟩
  rw [List.map_nil, List.sum_nil, Nat.zero_add, sum_keptSegments, sum_writtenSegments]
  omega

/-! ### Paths that are read as they are written -/

/-- The path that a text is read as, without the slash in front. -/
def readBack (path : List Char) : List Char :=
  ['/'].intercalate (keptSegments (pathPart path))

/-- What is read into segments is written in the characters of a path. -/
theorem isPathChar_of_mem_slashed {cs : List Char} {c : Char}
    (h : c ∈ slashed (Percent.encode Percent.pathSet cs)) : IsPathChar c := by
  obtain ⟨d, hd, rfl⟩ := List.mem_map.1 h
  obtain ⟨e, -, hd⟩ := List.mem_flatMap.1 hd
  split
  · exact ⟨by decide, by decide, by decide⟩
  · next hslash =>
    have hback : d ≠ '\\' := by
      rintro rfl
      exact hslash (by decide)
    obtain ⟨hascii, rfl | hkept⟩ := Percent.mem_encodeChar (fun _ => pathSet_of_isAlphanum) hd
    · exact ⟨by decide, by decide, by decide⟩
    · exact ⟨hascii, hkept, hback⟩

section Paths

variable {path : List Char}

/-- Where all segments are kept, the path is what was encoded. -/
theorem readBack_of_plain {written : List Char} (hpart : pathPart path = path)
    (hslashed : slashed (Percent.encode Percent.pathSet path) = written)
    (hdots : ∀ segment ∈ Text.splitAll '/' written, IsPlainSegment segment) :
    readBack path = written := by
  subst hslashed
  have hkept : keptSegments path = writtenSegments path :=
    List.reverse_eq_iff.2 (addSegments_eq_reverse_iff.2 hdots)
  rw [readBack, hpart, hkept, writtenSegments, Text.intercalate_splitAll]

theorem pathPart_of_isPathChar (h : ∀ c ∈ path, IsPathChar c) : pathPart path = path :=
  pathPart_eq_self_iff.2
    ⟨fun c hc => ⟨isInner_of_not_isEdge (h c hc).outside.1, (h c hc).outside.2⟩,
      fun c hc => (h c (List.mem_of_getLast? hc)).outside.1⟩

theorem slashed_encode_of_isPathChar (h : ∀ c ∈ path, IsPathChar c) :
    slashed (Percent.encode Percent.pathSet path) = path := by
  rw [Percent.encode_of_plain fun c hc => ⟨(h c hc).ascii, (h c hc).kept⟩]
  exact slashed_eq_self fun hmem => (h _ hmem).ne_backslash rfl

/-- **A path in the characters of paths is read as it is written only if no segment is a dot
segment.** -/
theorem plain_of_readBack (hchars : ∀ c ∈ path, IsPathChar c) (h : readBack path = path) :
    ∀ segment ∈ Text.splitAll '/' path, IsPlainSegment segment := by
  have hsplit : splitSlashes true (Percent.encode Percent.pathSet path) = Text.splitAll '/' path :=
    congrArg (Text.splitAll '/') (slashed_encode_of_isPathChar hchars)
  have hsegments : ∀ segment ∈ keptSegments path, '/' ∉ segment := by
    intro segment hsegment
    rcases mem_of_mem_addSegments (List.mem_reverse.1 hsegment) with rfl | hnil | ⟨hpart, -⟩
    · exact List.not_mem_nil
    · cases hnil
    · exact Text.notMem_of_mem_splitAll hpart
  have hkept : Text.splitAll '/' path = keptSegments path := by
    conv => lhs; rw [← h, readBack, pathPart_of_isPathChar hchars]
    exact Text.splitAll_intercalate (keptSegments_ne_nil path) hsegments
  refine addSegments_eq_reverse_iff.1 ?_
  rw [keptSegments, hsplit] at hkept
  exact List.reverse_eq_iff.1 hkept.symm

/-- What is read of a text is written in the characters of a path. -/
theorem isPathChar_of_mem_readBack {c : Char} (h : c ∈ readBack path) : IsPathChar c := by
  rcases Text.mem_intercalate h with rfl | ⟨segment, hsegment, hmem⟩
  · exact ⟨by decide, by decide, by decide⟩
  · rcases mem_of_mem_addSegments (List.mem_reverse.1 hsegment) with rfl | hnil | ⟨hpart, -⟩
    · cases hmem
    · cases hnil
    · exact isPathChar_of_mem_slashed (Text.mem_of_mem_splitAll hpart hmem)

end Paths

/-! ### URLs whose host is kept -/

section Hosts

variable {host : List Char} (hne : host ≠ []) (hkeeps : ∀ c ∈ host, Domain.Keeps c)

include hne hkeeps

/-- **The host and the path of a URL whose host is kept.** -/
theorem parse?_of_host (hparse : Host.parse? host = some (.domain (String.ofList host)))
    (rest : List Char) :
    ∃ u, parse? (String.ofList ("https://".toList ++ host ++ '/' :: rest)) = some u ∧
      u.hostText? = some (String.ofList host) ∧
      u.path.text = String.ofList ('/' :: readBack rest) := by
  have hinside := fun c hc => inside_of_keeps (hkeeps c hc)
  have hinner : host.filter isInner = host := List.filter_eq_self.2 fun c hc => (hinside c hc).1
  have hname : String.ofList host ≠ "" := by simp [hne]
  obtain ⟨p, hread, -⟩ := parse?_https rest (fun c hc => (hinside c hc).2.1) (hinner.symm ▸ hne)
  rw [hinner, afterSlashes_of_host (fun c hc =>
    ⟨(isDelimiter_eq_false_iff.1 (hinside c hc).2.1).1, (hinside c hc).2.2⟩) hparse
    (by simpa using hname)] at hread
  exact ⟨_, hread, hostText?_of_domain rfl hname, text_readPath _⟩

/-- Without a valid host there is no URL. -/
theorem parse?_eq_none (hparse : Host.parse? host = none) (rest : List Char) :
    parse? (String.ofList ("https://".toList ++ host ++ '/' :: rest)) = none := by
  have hinside := fun c hc => inside_of_keeps (hkeeps c hc)
  have hinner : host.filter isInner = host := List.filter_eq_self.2 fun c hc => (hinside c hc).1
  obtain ⟨p, hread, -⟩ := parse?_https rest (fun c hc => (hinside c hc).2.1) (hinner.symm ▸ hne)
  rw [hread, hinner]
  exact afterSlashes_eq_none (fun c hc =>
    ⟨(isDelimiter_eq_false_iff.1 (hinside c hc).2.1).1, (hinside c hc).2.2⟩) hparse

end Hosts

end Url

end Depot
