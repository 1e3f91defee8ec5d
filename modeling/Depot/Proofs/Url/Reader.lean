import Mathlib.Data.List.TakeDrop
import Mathlib.Data.List.TakeWhile
import Depot.Url.Reader
import Depot.Proofs.Url.Percent

/-!
# Reading URLs with an authority

A text that begins with `https://` is read as an authority, which goes up to the first slash,
backslash, question mark or hash, and a path. What stands in the authority decides the host alone:
a user in front of it is split off, and a colon in it must begin a port.

## Main definitions

* `Url.isDelimiter` : the characters that end an authority.
* `Url.pathPart` : what is read as a path.
* `Url.IsRooted`, `Url.IsReadPath` : the paths that begin with a slash, and those that are read from
  texts.

## Main results

* `Url.parse?_https` : the text after the scheme is read by `Url.afterSlashes`.
* `Url.afterSlashes_of_host` : an authority that is just a host.
* `Url.host_of_afterSlashes` : the host ends as the authority does, whatever else stands in it.
* `Url.path_of_parse?` : the path of a URL.
-/

namespace Depot

namespace Url

/-! ### Texts that are read as they are -/

/-- Whether a character counts inside of a text. -/
def isInner (c : Char) : Bool :=
  c != '\t' && c != '\n' && c != '\r'

theorem isInner_of_not_isEdge {c : Char} (h : isEdge c = false) : isInner c = true := by
  have hne : ∀ d, isEdge d = true → c ≠ d := by
    rintro d hd rfl
    exact Bool.noConfusion (h.symm.trans hd)
  simp [isInner, hne '\t' (by decide), hne '\n' (by decide), hne '\r' (by decide)]

/-- The characters that count of what stands behind a slash. -/
def countedBehind (rest : List Char) : List Char :=
  ((rest.reverse.dropWhile isEdge).reverse).filter isInner

theorem countedBehind_of_plain {rest : List Char} (h : ∀ c ∈ rest, isEdge c = false) :
    countedBehind rest = rest := by
  have hall : rest.reverse.dropWhile isEdge = rest.reverse := by
    cases hback : rest.reverse with
    | nil => rfl
    | cons c back =>
      have hmem : c ∈ rest := List.mem_reverse.1 (hback ▸ List.mem_cons_self)
      rw [List.dropWhile_cons_of_neg (by simp [h c hmem])]
  rw [countedBehind, hall, List.reverse_reverse, List.filter_eq_self]
  exact fun c hc => isInner_of_not_isEdge (h c hc)

/-- The characters of a text that count, when it begins with one that does: those inside the part
up to a slash, and those behind. -/
theorem counted_append_slash {front : List Char} (rest : List Char)
    (hfirst : ∀ c ∈ front.head?, isEdge c = false) :
    counted (front ++ '/' :: rest) = front.filter isInner ++ '/' :: countedBehind rest := by
  have hleft : (front ++ '/' :: rest).dropWhile isEdge = front ++ '/' :: rest := by
    cases front with
    | nil => rfl
    | cons c front => rw [List.cons_append, List.dropWhile_cons_of_neg (by simp [hfirst c rfl])]
  have hright : ((front ++ '/' :: rest).reverse.dropWhile isEdge).reverse =
      front ++ '/' :: (rest.reverse.dropWhile isEdge).reverse := by
    have hdrop : (rest.reverse ++ '/' :: front.reverse).dropWhile isEdge =
        rest.reverse.dropWhile isEdge ++ '/' :: front.reverse := by
      rw [List.dropWhile_append]
      split
      · next hempty => rw [List.isEmpty_iff.1 hempty]; rfl
      · rfl
    simp only [List.reverse_append, List.reverse_cons, List.append_assoc, List.singleton_append,
      hdrop, List.reverse_reverse]
  unfold counted
  simp only [hleft, hright]
  change List.filter isInner _ = _
  rw [List.filter_append, List.filter_cons_of_pos (by decide)]
  rfl

/-- A front without question marks and hashes stays in front of the pieces of a text. -/
theorem pieces_append {front : List Char} (cs : List Char) (hhash : '#' ∉ front)
    (hmark : '?' ∉ front) :
    pieces (front ++ cs) = { pieces cs with body := front ++ (pieces cs).body } := by
  unfold pieces
  rw [Text.splitOnce_append cs hhash]
  cases Text.splitOnce '#' cs with
  | none =>
    simp only [Option.map_none, Text.splitOnce_append cs hmark]
    cases Text.splitOnce '?' cs <;> rfl
  | some cut =>
    simp only [Option.map_some, Text.splitOnce_append cut.1 hmark]
    cases Text.splitOnce '?' cut.1 <;> rfl

theorem pieces_of_notMem {cs : List Char} (hhash : '#' ∉ cs) (hmark : '?' ∉ cs) :
    pieces cs = ⟨cs, none, none⟩ := by
  simp [pieces, Text.splitOnce_of_notMem hhash, Text.splitOnce_of_notMem hmark]

theorem splitScheme_https (rest : List Char) :
    splitScheme ("https:".toList ++ rest) = some ("https", rest) := by
  have hcut : Text.splitOnce ':' ("https:".toList ++ rest) = some ("https".toList, rest) :=
    Text.splitOnce_append_cons rest (by decide : ':' ∉ "https".toList)
  unfold splitScheme
  rw [hcut]
  rfl

/-- Slashes in front of a text without slashes at its beginning are all that is dropped. -/
theorem readAbsolute_https (p : Pieces) {first : Char} {cs : List Char}
    (hfirst : isSlash true first = false) :
    readAbsolute none p "https" ("//".toList ++ first :: cs) =
      afterSlashes "https" p (first :: cs) := by
  have hdrop : ("//".toList ++ first :: cs).dropWhile (isSlash true) = first :: cs := by
    rw [List.dropWhile_append_of_pos (Text.forall_mem_of_all (by decide)),
      List.dropWhile_cons_of_neg (by simp [hfirst])]
  simp only [readAbsolute, hdrop]
  rfl

/-- Whether a character ends an authority. -/
def isDelimiter (c : Char) : Bool :=
  isSlash true c || c == '#' || c == '?'

theorem isDelimiter_eq_false_iff {c : Char} :
    isDelimiter c = false ↔ isSlash true c = false ∧ c ≠ '#' ∧ c ≠ '?' := by
  simp [isDelimiter, and_assoc]

/-- Nothing before the slash that ends an authority begins a query or a fragment. -/
theorem pieces_https {authority : List Char} (cs : List Char)
    (hplain : ∀ c ∈ authority, isDelimiter c = false) :
    pieces ("https://".toList ++ authority ++ '/' :: cs) =
      { pieces cs with
        body := "https:".toList ++ ("//".toList ++ (authority ++ '/' :: (pieces cs).body)) } := by
  have hfront : ∀ d, d ∉ "https://".toList → (∀ c ∈ authority, c ≠ d) → d ≠ '/' →
      d ∉ "https://".toList ++ authority ++ ['/'] := by
    intro d hscheme hauthority hslash hmem
    rcases List.mem_append.1 hmem with hmem | hmem
    · rcases List.mem_append.1 hmem with hmem | hmem
      · exact hscheme hmem
      · exact hauthority d hmem rfl
    · exact hslash (List.mem_singleton.1 hmem)
  have hinner := fun c hc => isDelimiter_eq_false_iff.1 (hplain c hc)
  have happend := pieces_append cs
    (hfront '#' (by decide) (fun c hc => (hinner c hc).2.1) (by decide))
    (hfront '?' (by decide) (fun c hc => (hinner c hc).2.2) (by decide))
  simpa using happend

/-- What is read as a path of what stands behind a slash. -/
def pathPart (rest : List Char) : List Char :=
  (pieces (countedBehind rest)).body

theorem pieces_of_plain {rest : List Char} (h : ∀ c ∈ rest, isEdge c = false ∧ c ≠ '#' ∧ c ≠ '?') :
    pieces (countedBehind rest) = ⟨rest, none, none⟩ := by
  rw [countedBehind_of_plain fun c hc => (h c hc).1]
  exact pieces_of_notMem (fun hmem => (h _ hmem).2.1 rfl) (fun hmem => (h _ hmem).2.2 rfl)

/-- **A text that begins with `https://`, an authority and a slash** is read as the authority and
what follows it. The authority is read as it is, but for tabs and line breaks. -/
theorem parse?_https {authority : List Char} (rest : List Char)
    (hplain : ∀ c ∈ authority, isDelimiter c = false)
    (hne : authority.filter isInner ≠ []) :
    ∃ p, parse? (String.ofList ("https://".toList ++ authority ++ '/' :: rest)) =
        afterSlashes "https" p (authority.filter isInner ++ '/' :: pathPart rest) ∧
      p.query = (pieces (countedBehind rest)).query ∧
      p.fragment = (pieces (countedBehind rest)).fragment := by
  have hedge : ∀ c ∈ ("https://".toList ++ authority).head?, isEdge c = false := by
    rintro c ⟨⟩
    decide
  have hkept : ("https://".toList ++ authority).filter isInner =
      "https://".toList ++ authority.filter isInner := by
    rw [List.filter_append]
    rfl
  have hinner : ∀ c ∈ authority.filter isInner, isDelimiter c = false :=
    fun c hc => hplain c (List.mem_filter.1 hc).1
  have hpieces := pieces_https (countedBehind rest) hinner
  rw [← hkept, ← counted_append_slash rest hedge] at hpieces
  refine ⟨pieces (counted ("https://".toList ++ authority ++ '/' :: rest)), ?_, ?_, ?_⟩
  · obtain ⟨first, more, hfirst⟩ := List.exists_cons_of_ne_nil hne
    rw [hfirst] at hpieces hinner ⊢
    unfold parse? readFrom
    simp only [String.toList_ofList, hpieces, splitScheme_https]
    exact readAbsolute_https _ (isDelimiter_eq_false_iff.1 (hinner first List.mem_cons_self)).1
  · rw [hpieces]
  · rw [hpieces]

/-! ### Authorities -/

theorem splitHost_of_notMem {cs : List Char} (h : ':' ∉ cs) (inside : Bool) :
    splitHost inside cs = (cs, []) := by
  induction cs generalizing inside with
  | nil => rfl
  | cons c rest ih =>
    rw [List.mem_cons, not_or] at h
    rw [splitHost, if_neg (by simp [Ne.symm h.1])]
    simp only [ih h.2]

/-- What follows the host begins with a colon, if it is not empty. -/
theorem splitHost_eq {inside : Bool} {cs host more : List Char}
    (h : splitHost inside cs = (host, more)) :
    cs = host ++ more ∧ ∀ c ∈ more.head?, c = ':' := by
  induction cs generalizing inside host with
  | nil =>
    cases h
    exact ⟨rfl, fun c hc => by cases hc⟩
  | cons c rest ih =>
    unfold splitHost at h
    split at h
    · next hcolon =>
      cases h
      rw [Bool.and_eq_true, beq_iff_eq] at hcolon
      refine ⟨rfl, ?_⟩
      rintro _ ⟨⟩
      exact hcolon.1
    · obtain ⟨rfl, rfl⟩ := Prod.mk.inj h
      obtain ⟨hrest, hhead⟩ := ih rfl
      exact ⟨by rw [List.cons_append, ← hrest], hhead⟩

theorem splitLast_of_notMem {sign : Char} {cs : List Char} (h : sign ∉ cs) :
    splitLast sign cs = none := by
  rw [splitLast, Text.splitOnce_of_notMem (by simpa using h)]
  rfl

theorem splitLast_eq_some {sign : Char} {cs before after : List Char}
    (h : splitLast sign cs = some (before, after)) :
    cs = before ++ sign :: after ∧ sign ∉ after := by
  obtain ⟨⟨back, front⟩, hcut, hpair⟩ := Option.map_eq_some_iff.1 h
  obtain ⟨rfl, rfl⟩ := Prod.mk.inj hpair
  obtain ⟨hback, hcs⟩ := Text.splitOnce_eq_some_iff.1 hcut
  refine ⟨?_, by simpa using hback⟩
  rw [← List.reverse_reverse cs, hcs]
  simp

/-- A port of other characters than digits is none. -/
theorem readPort_eq_none {scheme : String} {cs : List Char} {c : Char} (hmem : c ∈ cs)
    (hdigit : c.isDigit = false) (hslash : '\\' ∉ cs) : readPort scheme (':' :: cs) = none := by
  have hmore : cs.dropWhile Char.isDigit ≠ [] := by
    intro hnil
    exact Bool.noConfusion (hdigit.symm.trans (List.dropWhile_eq_nil_iff.1 hnil c hmem))
  obtain ⟨d, more, hback⟩ := List.exists_cons_of_ne_nil hmore
  have hd : d ≠ '\\' := by
    rintro rfl
    exact hslash ((List.dropWhile_sublist _).subset (hback ▸ List.mem_cons_self))
  simp [readPort, List.span_eq_takeWhile_dropWhile, hback, hd]

/-- The authority is what stands before the slash. -/
theorem cut_authority {authority : List Char} (body : List Char)
    (h : ∀ c ∈ authority, isSlash true c = false) :
    (authority ++ '/' :: body).takeWhile (fun c => !isSlash true c) = authority ∧
      (authority ++ '/' :: body).dropWhile (fun c => !isSlash true c) = '/' :: body := by
  have hpos : ∀ c ∈ authority, (!isSlash true c) = true := fun c hc => by rw [h c hc]; rfl
  constructor
  · rw [List.takeWhile_append_of_pos hpos, List.takeWhile_cons_of_neg (by decide), List.append_nil]
  · rw [List.dropWhile_append_of_pos hpos, List.dropWhile_cons_of_neg (by decide)]

/-- **An authority without a user and a port** is a host. -/
theorem afterSlashes_of_host {p : Pieces} {authority body : List Char} {host : Host}
    (hplain : ∀ c ∈ authority, isSlash true c = false ∧ c ≠ '@' ∧ c ≠ ':')
    (hparse : Host.parse? authority = some host) (hne : host ≠ .domain "") :
    afterSlashes "https" p (authority ++ '/' :: body) =
      some (withPieces
        ⟨"https", "", none, some host, none, readPath "https" [] body, none, none⟩ p) := by
  have hspecial : isSpecial "https" = true := by decide
  obtain ⟨htake, hdrop⟩ := cut_authority body fun c hc => (hplain c hc).1
  have hat : splitLast '@' authority = none :=
    splitLast_of_notMem fun hmem => (hplain _ hmem).2.1 rfl
  have hcolon : splitHost false authority = (authority, []) :=
    splitHost_of_notMem (fun hmem => (hplain _ hmem).2.2 rfl) false
  have hport : readPort "https" [] = some (none, []) := rfl
  unfold afterSlashes
  simp only [hspecial, htake, hdrop, hat, hcolon, hparse, hport]
  rw [if_neg (by simp), if_pos trivial]
  simp only [Option.bind_eq_bind, Option.bind_some]
  rw [if_neg (by simp [hne])]
  rfl

/-- An authority without a user and a port that is no host makes no URL. -/
theorem afterSlashes_eq_none {p : Pieces} {authority body : List Char}
    (hplain : ∀ c ∈ authority, isSlash true c = false ∧ c ≠ '@' ∧ c ≠ ':')
    (hparse : Host.parse? authority = none) :
    afterSlashes "https" p (authority ++ '/' :: body) = none := by
  have hspecial : isSpecial "https" = true := by decide
  obtain ⟨htake, hdrop⟩ := cut_authority body fun c hc => (hplain c hc).1
  have hat : splitLast '@' authority = none :=
    splitLast_of_notMem fun hmem => (hplain _ hmem).2.1 rfl
  have hcolon : splitHost false authority = (authority, []) :=
    splitHost_of_notMem (fun hmem => (hplain _ hmem).2.2 rfl) false
  unfold afterSlashes
  simp only [hspecial, htake, hdrop, hat, hcolon, hparse]
  rw [if_neg (by simp), if_pos trivial]
  rfl

/-- A host that is followed by a port, if by anything, is all of a text that ends in characters of
which one is no digit. -/
theorem host_of_splitHost {place back host more : List Char} {scheme : String} {c : Char}
    {read : Option Nat × List Char} (hcolon : ':' ∉ back) (hmem : c ∈ back)
    (hdigit : c.isDigit = false) (hslash : '\\' ∉ place ++ back)
    (hhost : splitHost false (place ++ back) = (host, more))
    (hport : readPort scheme more = some read) :
    host = place ++ back := by
  obtain ⟨hcs, hhead⟩ := splitHost_eq hhost
  cases more with
  | nil => rw [hcs, List.append_nil]
  | cons d more =>
    obtain rfl := hhead d rfl
    -- The colon stands in front of the last characters, which are then no port.
    obtain ⟨between, -, rfl⟩ := Text.exists_of_append_eq hcolon hcs
    rw [readPort_eq_none (List.mem_append_right _ hmem) hdigit fun h =>
      hslash (hcs ▸ List.mem_append_right _ (List.mem_cons_of_mem _ h))] at hport
    cases hport

/-- **The host of an authority ends as the authority does,** whatever stands in front, if it ends in
characters of which one is no digit. -/
theorem host_of_afterSlashes {p : Pieces} {front back body : List Char} {u : Url} {c : Char}
    (hslash : ∀ c ∈ front ++ back, isSlash true c = false) (hat : '@' ∉ back) (hcolon : ':' ∉ back)
    (hmem : c ∈ back) (hdigit : c.isDigit = false)
    (h : afterSlashes "https" p (front ++ back ++ '/' :: body) = some u) :
    ∃ place host, Host.parse? (place ++ back) = some host ∧ u.scheme = "https" ∧
      u.host = some host := by
  have hspecial : isSpecial "https" = true := by decide
  obtain ⟨htake, hdrop⟩ := cut_authority body hslash
  -- The host and the port are read alike with and without a user.
  have hread : ∀ {place : List Char} {k : Host → Option Nat × List Char → Option Url},
      (∀ d ∈ place ++ back, d ∈ front ++ back) →
      ((Host.parse? (splitHost false (place ++ back)).1).bind fun host =>
        (readPort "https" (splitHost false (place ++ back)).2).bind (k host)) = some u →
      ∃ host read, Host.parse? (place ++ back) = some host ∧ k host read = some u := by
    intro place k hfront h
    obtain ⟨host, hparse, h⟩ := Option.bind_eq_some_iff.1 h
    obtain ⟨read, hport, h⟩ := Option.bind_eq_some_iff.1 h
    have hplace : '\\' ∉ place ++ back := fun hd =>
      absurd (hslash '\\' (hfront _ hd)) (by decide)
    rw [host_of_splitHost hcolon hmem hdigit hplace rfl hport] at hparse
    exact ⟨host, read, hparse, h⟩
  unfold afterSlashes at h
  simp only [hspecial, htake, hdrop] at h
  cases hcut : splitLast '@' (front ++ back) with
  | none =>
    simp only [hcut] at h
    rw [if_neg (by simp), if_pos trivial] at h
    obtain ⟨host, read, hparse, h⟩ := hread (fun d hd => hd) h
    split at h
    · cases h
    · cases h
      exact ⟨front, host, hparse, rfl, rfl⟩
  | some cut =>
    obtain ⟨user, text⟩ := cut
    obtain ⟨place, hplace, rfl⟩ := Text.exists_of_append_eq hat (splitLast_eq_some hcut).1
    simp only [hcut] at h
    rw [if_neg (by simp [List.ne_nil_of_mem hmem]), if_pos trivial] at h
    obtain ⟨host, read, hparse, h⟩ := hread (by simp +contextual [hplace]) h
    split at h
    · cases h
    · cases h
      exact ⟨place, host, hparse, rfl, rfl⟩

/-! ### Paths -/

/-- A path that begins with a slash. -/
def IsRooted (path : UrlPath) : Prop :=
  ∃ first rest, path = .segments (first :: rest)

theorem IsRooted.text {path : UrlPath} (h : IsRooted path) :
    ∃ rest, path.text = String.ofList ('/' :: rest) := by
  obtain ⟨first, rest, rfl⟩ := h
  refine ⟨("/".intercalate (first :: rest)).toList, ?_⟩
  rw [← String.toList_inj, String.toList_ofList]
  simp [UrlPath.text]

theorem isRooted_segments {segments : List (List Char)} (h : segments ≠ []) :
    IsRooted (.segments (segments.map String.ofList)) := by
  obtain ⟨first, rest, rfl⟩ := List.exists_cons_of_ne_nil h
  exact ⟨_, _, rfl⟩

theorem addSegment_ne_nil (segments : List (List Char)) (segment : List Char) :
    addSegment segments true segment ≠ [] := by
  unfold addSegment
  simp only [if_true]
  split
  · exact List.cons_ne_nil _ _
  · split
    · exact List.cons_ne_nil _ _
    · exact List.cons_ne_nil _ _

/-- The last part leaves a segment. -/
theorem addSegments_ne_nil (segments : List (List Char)) {parts : List (List Char)}
    (h : parts ≠ []) : addSegments segments parts ≠ [] := by
  induction parts generalizing segments with
  | nil => exact absurd rfl h
  | cons part rest ih =>
    rw [addSegments]
    cases rest with
    | nil => exact addSegment_ne_nil segments part
    | cons next rest => exact ih _ (List.cons_ne_nil _ _)

theorem isRooted_readPath (scheme : String) (segments : List String) (cs : List Char) :
    IsRooted (readPath scheme segments cs) := by
  refine isRooted_segments fun h => ?_
  exact addSegments_ne_nil _ (Text.splitAll_ne_nil '/' _) (List.reverse_eq_nil_iff.1 h)

theorem isRooted_readFilePath (segments : List String) (cs : List Char) :
    IsRooted (readFilePath segments cs).1 := by
  refine isRooted_segments ?_
  split
  · exact List.cons_ne_nil _ _
  · next h => exact fun hnil => h (List.isEmpty_iff.2 hnil)

/-- A path whose segments are read from a text. -/
inductive IsReadPath : UrlPath → Prop
  | path (scheme : String) (cs : List Char) : IsReadPath (readPath scheme [] cs)
  | file (cs : List Char) : IsReadPath (readFilePath [] cs).1

theorem IsReadPath.isRooted {path : UrlPath} (h : IsReadPath path) : IsRooted path := by
  cases h with
  | path scheme cs => exact isRooted_readPath scheme [] cs
  | file cs => exact isRooted_readFilePath [] cs

theorem isReadPath_of_fileAfterHost {p : Pieces} {cs : List Char} {u : Url}
    (h : fileAfterHost p cs = some u) : IsReadPath u.path := by
  unfold fileAfterHost at h
  simp only at h
  split at h
  · cases h
    exact .file cs
  · split at h
    · cases h
      exact .file _
    · obtain ⟨host, -, rfl⟩ := Option.map_eq_some_iff.1 h
      split
      · exact .file _
      · exact .file _

theorem isReadPath_of_readFile {p : Pieces} {cs : List Char} {u : Url}
    (h : readFile none p cs = some u) : IsReadPath u.path := by
  unfold readFile at h
  split at h
  · next first rest =>
    split at h
    · split at h
      · split at h
        · exact isReadPath_of_fileAfterHost h
        · cases h
          exact .file _
      · cases h
        exact .file []
    · cases h
      exact .file (first :: rest)
  · cases h
    exact .file []

theorem of_afterSlashes {scheme : String} {p : Pieces} {cs : List Char} {u : Url}
    (h : afterSlashes scheme p cs = some u) :
    u.scheme = scheme ∧
      (IsReadPath u.path ∨ isSpecial scheme = false ∧ u.path = .segments []) := by
  unfold afterSlashes at h
  simp only [Option.bind_eq_bind] at h
  split at h
  all_goals
    split at h
    · cases h
    · split at h
      all_goals
        obtain ⟨host, -, h⟩ := Option.bind_eq_some_iff.1 h
        obtain ⟨⟨port, rest⟩, -, h⟩ := Option.bind_eq_some_iff.1 h
        simp only at h
        split at h
        · cases h
        · cases h
          refine ⟨rfl, ?_⟩
          simp only [withPieces]
          split
          · exact .inl (.path scheme _)
          · next hend =>
            rw [Bool.not_eq_true, Bool.or_eq_false_iff] at hend
            exact .inr ⟨hend.1, rfl⟩

/-- **The path of a URL** is read from a text, unless the scheme has no known rules; then there may
be no path, or no host. -/
theorem path_of_parse? {text : String} {u : Url} (h : parse? text = some u) :
    IsReadPath u.path ∨ isSpecial u.scheme = false ∧ (u.path = .segments [] ∨ u.host = none) := by
  unfold parse? readFrom at h
  simp only at h
  split at h
  · next scheme rest _ =>
    unfold readAbsolute at h
    simp only [Option.filter_none] at h
    split at h
    · exact .inl (isReadPath_of_readFile h)
    · split at h
      · exact (of_afterSlashes h).2.imp_right fun hend =>
          ⟨(of_afterSlashes h).1.symm ▸ hend.1, .inl hend.2⟩
      · next hunknown =>
        have hscheme := Bool.eq_false_iff.2 hunknown
        split at h
        · exact (of_afterSlashes h).2.imp_right fun hend =>
            ⟨(of_afterSlashes h).1.symm ▸ hend.1, .inl hend.2⟩
        · cases h
          exact .inl (.path scheme _)
        · cases h
          exact .inr ⟨hscheme, .inr rfl⟩
  · cases h
  · next hbase => cases hbase

/-- The path of a URL whose scheme has known rules begins with a slash. -/
theorem isRooted_of_parse? {text : String} {u : Url} (h : parse? text = some u)
    (hspecial : isSpecial u.scheme = true) : IsRooted u.path := by
  rcases path_of_parse? h with hpath | ⟨hscheme, -⟩
  · exact hpath.isRooted
  · exact absurd (hscheme.symm.trans hspecial) Bool.false_ne_true

end Url

end Depot
