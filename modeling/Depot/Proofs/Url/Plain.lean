import Depot.Proofs.Url.Escapes
import Depot.Proofs.Url.Host
import Depot.Proofs.Url.Reader

/-!
# Plain URLs

A URL that begins with `https://`, whose host is a plain domain name and whose path needs no
encoding and has no dot segments, is read as it is written. A segment counts as a single or a
double dot only if it stands for one after decoding.

## Main definitions

* `Url.IsPathChar` : the characters that a path keeps as they are.
* `Url.IsPlainHost` : the domain names that a host keeps as they are.

## Main results

* `Url.isDot_iff`, `Url.isDoubleDot_iff` : what dot segments stand for.
* `Url.readPath_of_plain`, `Url.text_segments_splitAll` : a plain path and its text.
* `Url.parse?_of_plain` : a plain URL.
* `Url.host_of_parse?` : the host of a URL whose authority ends plainly.
-/

namespace Depot

open String (utf8EncodeChar)

namespace Url

/-! ### Dot segments -/

theorem toNat_lt_of_toLower {c : Char} (h : c.toLower.toNat < 128) : c.toNat < 128 := by
  unfold Char.toLower at h
  split at h
  · next hupper =>
    have hle : c.toNat ≤ 'Z'.toNat := UInt32.le_iff_toNat_le.1 hupper.2
    exact Nat.lt_of_le_of_lt hle (by decide)
  · exact h

/-- The characters that a small letter or a sign comes from. -/
theorem mem_of_toLower_eq {c d : Char} (origins : List Char) (hd : d.toNat < 128)
    (horigins : ∀ n < 128, (Char.ofNat n).toLower = d → Char.ofNat n ∈ origins)
    (h : c.toLower = d) : c ∈ origins :=
  Text.of_forall_ascii (P := fun c => c.toLower = d → c ∈ origins) horigins
    (toNat_lt_of_toLower (h ▸ hd)) h

@[simp] theorem toLower_eq_dot {c : Char} : c.toLower = '.' ↔ c = '.' := by
  refine ⟨fun h => ?_, fun h => by rw [h]; rfl⟩
  simpa using mem_of_toLower_eq ['.'] (by decide) (by decide) h

@[simp] theorem toLower_eq_percent {c : Char} : c.toLower = '%' ↔ c = '%' := by
  refine ⟨fun h => ?_, fun h => by rw [h]; rfl⟩
  simpa using mem_of_toLower_eq ['%'] (by decide) (by decide) h

@[simp] theorem toLower_eq_two {c : Char} : c.toLower = '2' ↔ c = '2' := by
  refine ⟨fun h => ?_, fun h => by rw [h]; rfl⟩
  simpa using mem_of_toLower_eq ['2'] (by decide) (by decide) h

@[simp] theorem toLower_eq_e {c : Char} : c.toLower = 'e' ↔ c = 'e' ∨ c = 'E' := by
  refine ⟨fun h => ?_, fun h => ?_⟩
  · simpa using mem_of_toLower_eq ['e', 'E'] (by decide) (by decide) h
  · rcases h with rfl | rfl <;> rfl

/-- A dot, encoded or not. -/
def IsDotForm (cs : List Char) : Prop :=
  cs.map Char.toLower = ['.'] ∨ cs.map Char.toLower = ['%', '2', 'e']

/-- A dot, encoded or not, stands for a dot. -/
theorem decode_dotForm {cs : List Char} (h : IsDotForm cs) (rest : Bytes) :
    Percent.decode (cs.flatMap utf8EncodeChar ++ rest) = 0x2E :: Percent.decode rest := by
  have hcs : cs = ['.'] ∨ cs = ['%', '2', 'e'] ∨ cs = ['%', '2', 'E'] := by
    rcases h with h | h
    · exact .inl (by simpa [List.map_eq_cons_iff] using h)
    · obtain ⟨c, cs, rfl, hc, h⟩ := List.map_eq_cons_iff.1 h
      obtain ⟨d, cs, rfl, hd, h⟩ := List.map_eq_cons_iff.1 h
      obtain ⟨e, cs, rfl, he, h⟩ := List.map_eq_cons_iff.1 h
      obtain rfl := List.map_eq_nil_iff.1 h
      rw [toLower_eq_percent] at hc
      rw [toLower_eq_two] at hd
      rw [toLower_eq_e] at he
      simpa [hc, hd] using he
  rcases hcs with rfl | rfl | rfl
  · rw [List.flatMap_singleton, Percent.decode_char (by decide) (by decide)]
    rfl
  · rfl
  · rfl

/-- What stands for a dot in front of more is a dot, encoded or not. -/
theorem exists_dotForm {cs : List Char} {rest : Bytes}
    (h : Percent.decode (cs.flatMap utf8EncodeChar) = 0x2E :: rest) :
    ∃ form more, cs = form ++ more ∧ IsDotForm form ∧
      Percent.decode (more.flatMap utf8EncodeChar) = rest := by
  cases cs with
  | nil => cases h
  | cons c more =>
    rcases Percent.decode_flatMap_cons c more with hread | ⟨escape, back, b, hcs, hescape, hread⟩
    · have hbytes := hread.symm.trans h
      obtain ⟨hnil, -⟩ | ⟨tail, hfirst, -⟩ := List.append_eq_cons_iff.1 hbytes
      · exact absurd hnil String.utf8EncodeChar_ne_nil
      obtain rfl : c = '.' := Percent.eq_of_mem_utf8EncodeChar (d := '.') (by decide)
        (hfirst ▸ List.mem_cons_self)
      exact ⟨['.'], more, rfl, .inl rfl, (List.cons.inj hbytes).2⟩
    · obtain ⟨rfl, hback⟩ := List.cons.inj (hread.symm.trans h)
      exact ⟨escape, back, hcs, .inr hescape, hback⟩

theorem isDot_iff_isDotForm {segment : List Char} : isDot segment = true ↔ IsDotForm segment := by
  simp [isDot, IsDotForm]

theorem isDoubleDot_iff_isDotForm {segment : List Char} :
    isDoubleDot segment = true ↔
      ∃ first second, segment = first ++ second ∧ IsDotForm first ∧ IsDotForm second := by
  simp only [isDoubleDot, decide_eq_true_eq, List.mem_cons, List.not_mem_nil, or_false]
  constructor
  · intro h
    have hforms : ∃ a b, segment.map Char.toLower = a ++ b ∧ (a = ['.'] ∨ a = ['%', '2', 'e']) ∧
        (b = ['.'] ∨ b = ['%', '2', 'e']) := by
      rcases h with h | h | h | h
      · exact ⟨['.'], ['.'], h, .inl rfl, .inl rfl⟩
      · exact ⟨['%', '2', 'e'], ['.'], h, .inr rfl, .inl rfl⟩
      · exact ⟨['.'], ['%', '2', 'e'], h, .inl rfl, .inr rfl⟩
      · exact ⟨['%', '2', 'e'], ['%', '2', 'e'], h, .inr rfl, .inr rfl⟩
    obtain ⟨a, b, hsegment, ha, hb⟩ := hforms
    obtain ⟨first, second, rfl, rfl, rfl⟩ := List.map_eq_append_iff.1 hsegment
    exact ⟨first, second, rfl, ha, hb⟩
  · rintro ⟨first, second, rfl, hfirst, hsecond⟩
    rw [List.map_append]
    rcases hfirst with hfirst | hfirst <;> rcases hsecond with hsecond | hsecond <;>
      simp [hfirst, hsecond]

/-- **A single dot is what stands for a dot.** -/
theorem isDot_iff {segment : List Char} :
    isDot segment = true ↔ Percent.decode (segment.flatMap utf8EncodeChar) = [0x2E] := by
  rw [isDot_iff_isDotForm]
  constructor
  · intro h
    simpa [Percent.decode] using decode_dotForm h []
  · intro h
    obtain ⟨form, more, rfl, hform, hmore⟩ := exists_dotForm h
    rwa [Percent.decode_eq_nil_iff.1 hmore, List.append_nil]

/-- **A double dot is what stands for two dots.** -/
theorem isDoubleDot_iff {segment : List Char} :
    isDoubleDot segment = true ↔
      Percent.decode (segment.flatMap utf8EncodeChar) = [0x2E, 0x2E] := by
  rw [isDoubleDot_iff_isDotForm]
  constructor
  · rintro ⟨first, second, rfl, hfirst, hsecond⟩
    have hdecode := decode_dotForm hsecond []
    rw [List.append_nil] at hdecode
    rw [List.flatMap_append, decode_dotForm hfirst, hdecode]
    rfl
  · intro h
    obtain ⟨first, more, rfl, hfirst, hmore⟩ := exists_dotForm h
    obtain ⟨second, rest, rfl, hsecond, hrest⟩ := exists_dotForm hmore
    rw [Percent.decode_eq_nil_iff.1 hrest, List.append_nil]
    exact ⟨first, second, rfl, hfirst, hsecond⟩

/-! ### Plain paths -/

/-- A character that a path keeps as it is and that ends no segment but as a slash. -/
structure IsPathChar (c : Char) : Prop where
  ascii : c.toNat < 128
  kept : Percent.pathSet c = false
  ne_backslash : c ≠ '\\'

theorem addSegments_of_plain {parts : List (List Char)}
    (h : ∀ part ∈ parts, isDot part = false ∧ isDoubleDot part = false)
    (segments : List (List Char)) :
    addSegments segments parts = parts.reverse ++ segments := by
  induction parts generalizing segments with
  | nil => rfl
  | cons part parts ih =>
    obtain ⟨hdot, hdouble⟩ := h part List.mem_cons_self
    have hadd : addSegment segments parts.isEmpty part = part :: segments := by
      simp [addSegment, hdot, hdouble]
    rw [addSegments, hadd, ih fun part hp => h part (List.mem_cons_of_mem _ hp), List.reverse_cons,
      List.append_assoc, List.singleton_append]

/-- **A plain path is read as it is written,** when no segment of it is a dot or a double dot. -/
theorem readPath_of_plain {cs : List Char} (hplain : ∀ c ∈ cs, IsPathChar c)
    (hdots : ∀ part ∈ Text.splitAll '/' cs, isDot part = false ∧ isDoubleDot part = false) :
    readPath "https" [] cs = .segments ((Text.splitAll '/' cs).map String.ofList) := by
  have hsplit : splitSlashes true cs = Text.splitAll '/' cs := by
    have hmap : cs.map (fun c => if isSlash true c then '/' else c) = cs := by
      refine (List.map_congr_left fun c hc => ?_).trans (List.map_id cs)
      by_cases hslash : c = '/'
      · rw [hslash]
        rfl
      · simp [isSlash, hslash, (hplain c hc).ne_backslash]
    rw [splitSlashes, hmap]
  have hspecial : isSpecial "https" = true := by decide
  rw [readPath, hspecial,
    Percent.encode_of_plain fun c hc => ⟨(hplain c hc).ascii, (hplain c hc).kept⟩,
    hsplit, List.map_nil, List.reverse_nil, addSegments_of_plain hdots, List.append_nil,
    List.reverse_reverse]

/-- The text of the segments of a path. -/
theorem text_segments {segments : List (List Char)} (h : segments ≠ []) :
    UrlPath.text (.segments (segments.map String.ofList)) =
      String.ofList ('/' :: ['/'].intercalate segments) := by
  obtain ⟨part, parts, rfl⟩ := List.exists_cons_of_ne_nil h
  have hlists : ((part :: parts).map String.ofList).map String.toList = part :: parts := by simp
  have htext : UrlPath.text (.segments ((part :: parts).map String.ofList)) =
      "/" ++ "/".intercalate ((part :: parts).map String.ofList) := rfl
  rw [htext, ← String.toList_inj, String.toList_append, String.toList_intercalate, hlists]
  simp only [String.toList_ofList]
  rfl

/-- The text of the segments that a text has between slashes. -/
theorem text_segments_splitAll (cs : List Char) :
    UrlPath.text (.segments ((Text.splitAll '/' cs).map String.ofList)) =
      String.ofList ('/' :: cs) := by
  rw [text_segments (Text.splitAll_ne_nil '/' cs), Text.intercalate_splitAll]

/-! ### Plain URLs -/

/-- A domain name that a host keeps as it is. -/
structure IsPlainHost (cs : List Char) : Prop where
  ne_nil : cs ≠ []
  keeps : ∀ c ∈ cs, Domain.Keeps c
  unmarked : Domain.IsUnmarked cs
  noNumber : Address.endsInNumber cs = false

theorem hostText?_of_domain {u : Url} {name : String} (h : u.host = some (.domain name))
    (hne : name ≠ "") : u.hostText? = some name := by
  simp [hostText?, h, Host.text, hne]

theorem IsPathChar.outside {c : Char} (h : IsPathChar c) : isEdge c = false ∧ c ≠ '#' ∧ c ≠ '?' :=
  Text.of_forall_ascii
    (P := fun c => Percent.pathSet c = false → isEdge c = false ∧ c ≠ '#' ∧ c ≠ '?')
    (by decide) h.ascii h.kept

theorem inside_of_keeps {c : Char} (h : Domain.Keeps c) :
    isInner c = true ∧ isDelimiter c = false ∧ c ≠ '@' ∧ c ≠ ':' :=
  Text.of_forall_ascii (P := fun c => Domain.forbidden c = false →
    isInner c = true ∧ isDelimiter c = false ∧ c ≠ '@' ∧ c ≠ ':') (by decide) h.ascii h.allowed

/-- **A plain URL is read as it is written.** -/
theorem parse?_of_plain {host path : List Char} (hhost : IsPlainHost host)
    (hpath : ∀ c ∈ path, IsPathChar c)
    (hdots : ∀ part ∈ Text.splitAll '/' path, isDot part = false ∧ isDoubleDot part = false) :
    parse? (String.ofList ("https://".toList ++ host ++ '/' :: path)) =
      some ⟨"https", "", none, some (.domain (String.ofList host)), none,
        .segments ((Text.splitAll '/' path).map String.ofList), none, none⟩ := by
  have hinside : ∀ c ∈ host, isInner c = true ∧ isDelimiter c = false ∧ c ≠ '@' ∧ c ≠ ':' :=
    fun c hc => inside_of_keeps (hhost.keeps c hc)
  have hinner : host.filter isInner = host := List.filter_eq_self.2 fun c hc => (hinside c hc).1
  obtain ⟨p, hparse, hquery, hfragment⟩ := parse?_https path (fun c hc => (hinside c hc).2.1)
    (hinner.symm ▸ hhost.ne_nil)
  rw [pathPart, pieces_of_plain fun c hc => (hpath c hc).outside] at hparse
  rw [pieces_of_plain fun c hc => (hpath c hc).outside] at hquery hfragment
  have hdomain := Host.parse?_of_plain hhost.ne_nil hhost.keeps hhost.unmarked hhost.noNumber
  have hnamed : Host.domain (String.ofList host) ≠ .domain "" := by
    simp [hhost.ne_nil]
  have hauthority : ∀ c ∈ host, isSlash true c = false ∧ c ≠ '@' ∧ c ≠ ':' := fun c hc =>
    ⟨(isDelimiter_eq_false_iff.1 (hinside c hc).2.1).1, (hinside c hc).2.2⟩
  rw [hparse, hinner, afterSlashes_of_host hauthority hdomain hnamed, readPath_of_plain hpath hdots]
  simp [withPieces, hquery, hfragment]

/-! ### Authorities that end plainly -/

/-- **The host of a URL ends as its authority does,** where that ends in plain labels of which the
last one is no number: a user, escapes, other alphabets or a port cannot lead elsewhere, as long
as nothing in front ends the authority. -/
theorem host_of_parse? {front back rest : List Char} {u : Url}
    (hfront : ∀ c ∈ front, isDelimiter c = false) (hkeeps : ∀ c ∈ back, Domain.Keeps c)
    (hmark : Domain.IsUnmarked back)
    (hnumber : ∀ front, Address.endsInNumber (front ++ '.' :: back) = false)
    (h : parse? (String.ofList ("https://".toList ++ (front ++ '.' :: back) ++ '/' :: rest)) =
      some u) :
    u.scheme = "https" ∧
      ∃ before, u.host = some (.domain (String.ofList (before ++ '.' :: back))) := by
  have hback : ∀ c ∈ '.' :: back, isInner c = true ∧ isDelimiter c = false ∧ c ≠ '@' ∧ c ≠ ':' :=
    fun c hc => inside_of_keeps ((List.forall_mem_cons.2 ⟨Domain.keeps_dot, hkeeps⟩ : _) c hc)
  have hinner : (front ++ '.' :: back).filter isInner = front.filter isInner ++ '.' :: back := by
    rw [List.filter_append, List.filter_eq_self.2 fun c hc => (hback c hc).1]
  have hplain : ∀ c ∈ front ++ '.' :: back, isDelimiter c = false := by
    rw [List.forall_mem_append]
    exact ⟨hfront, fun c hc => (hback c hc).2.1⟩
  obtain ⟨p, hparse, -⟩ := parse?_https rest hplain (by rw [hinner]; simp)
  rw [hparse, hinner] at h
  have hslash : ∀ c ∈ front.filter isInner ++ '.' :: back, isSlash true c = false := fun c hc =>
    (isDelimiter_eq_false_iff.1 (hplain c (List.mem_filter.1 (hinner ▸ hc)).1)).1
  obtain ⟨place, host, hhost, hscheme, hu⟩ := host_of_afterSlashes hslash
    (fun hc => (hback _ hc).2.2.1 rfl) (fun hc => (hback _ hc).2.2.2 rfl) List.mem_cons_self
    (by decide) h
  obtain ⟨before, rfl⟩ := Host.parse?_append hkeeps hmark hnumber hhost
  exact ⟨hscheme, before, hu⟩

end Url

end Depot
