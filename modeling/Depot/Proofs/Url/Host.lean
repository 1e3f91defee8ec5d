import Depot.Url.Host
import Depot.Proofs.Unicode.Composed
import Depot.Proofs.Url.Percent

/-!
# Hosts that are domain names

A domain name of small letters, digits and other characters that it keeps is read as it is
written, unless a label of it carries the mark of Punycode or its last label is a number.

## Main definitions

* `Domain.Keeps` : the characters that a domain name keeps as they are.
* `Domain.IsUnmarked` : no label carries the mark.

## Main results

* `Address.endsInNumber_append_cons` : only the last label tells a name from an address.
* `Host.parse?_of_plain` : a plain domain name is a host.
* `Host.parse?_of_keeps` : a host of characters that are kept is not changed.
-/

namespace Depot

namespace Address

/-- Only the last label of a domain tells whether it is meant as an address. -/
theorem endsInNumber_append_cons (front : List Char) {last : List Char} (hne : last ≠ [])
    (hdot : '.' ∉ last) :
    endsInNumber (front ++ '.' :: last) = (last.all Char.isDigit || (part? last).isSome) := by
  have hsplit : Text.splitAll '.' (front ++ '.' :: last) = Text.splitAll '.' front ++ [last] := by
    rw [Text.splitAll_append_cons, Text.splitAll_of_notMem hdot]
  have hdotted : dotted (front ++ '.' :: last) = Text.splitAll '.' front ++ [last] := by
    simp [dotted, hsplit, hne]
  obtain ⟨c, rest, rfl⟩ := List.exists_cons_of_ne_nil hne
  simp [endsInNumber, hdotted]

end Address

namespace Domain

/-- A character that a domain name keeps as it is. -/
structure Keeps (c : Char) : Prop where
  ascii : c.toNat < 128
  toLower_eq : c.toLower = c
  allowed : forbidden c = false

/-- No label of a domain name carries the mark of Punycode. -/
def IsUnmarked (cs : List Char) : Prop :=
  ∀ label ∈ Text.splitAll '.' cs, Text.beginsWith mark label = false

theorem isUnmarked_append_cons {front back : List Char} :
    IsUnmarked (front ++ '.' :: back) ↔ IsUnmarked front ∧ IsUnmarked back := by
  simp only [IsUnmarked, Text.splitAll_append_cons, List.mem_append, or_imp, forall_and]

theorem isUnmarked_of_notMem {label : List Char} (hdot : '.' ∉ label)
    (h : Text.beginsWith mark label = false) : IsUnmarked label := by
  simp [IsUnmarked, Text.splitAll_of_notMem hdot, h]

theorem ascii?_of_plain {cs : List Char} (hkeeps : ∀ c ∈ cs, Keeps c) (hmark : IsUnmarked cs) :
    ascii? cs = some cs := by
  have hlower : cs.map Char.toLower = cs :=
    (List.map_congr_left fun c hc => (hkeeps c hc).toLower_eq).trans (List.map_id cs)
  have hplain : isPlain cs = true := by
    simpa [isPlain, isAscii, IsUnmarked] using ⟨fun c hc => (hkeeps c hc).ascii, hmark⟩
  have hallowed : cs.any forbidden = false :=
    List.any_eq_false.2 fun c hc => by simp [(hkeeps c hc).allowed]
  simp [ascii?, hlower, hplain, Option.filter, hallowed]

theorem mapM_of_forall {α β : Type} {f : α → Option β} {g : α → β} {as : List α}
    (h : ∀ a ∈ as, f a = some (g a)) : as.mapM f = some (as.map g) := by
  induction as with
  | nil => rfl
  | cons a as ih =>
    obtain ⟨ha, has⟩ := List.forall_mem_cons.1 h
    rw [List.mapM_cons, ha, ih has]
    rfl

/-- What a list ends in is mapped on its own. -/
theorem exists_of_mapM_append {α β : Type} {f : α → Option β} {g : α → β} {front back : List α}
    {bs : List β} (hback : ∀ a ∈ back, f a = some (g a)) (h : (front ++ back).mapM f = some bs) :
    ∃ before, front.mapM f = some before ∧ bs = before ++ back.map g := by
  rw [List.mapM_append, mapM_of_forall hback] at h
  obtain ⟨before, hbefore, h⟩ := Option.bind_eq_some_iff.1 h
  exact ⟨before, hbefore, (Option.some.inj h).symm⟩

theorem ne_nil_of_mapM {α β : Type} {f : α → Option β} {as : List α} {bs : List β} (hne : as ≠ [])
    (h : as.mapM f = some bs) : bs ≠ [] := by
  obtain ⟨a, as, rfl⟩ := List.exists_cons_of_ne_nil hne
  rw [List.mapM_cons] at h
  obtain ⟨b, -, h⟩ := Option.bind_eq_some_iff.1 h
  obtain ⟨bs', -, h⟩ := Option.bind_eq_some_iff.1 h
  exact Option.some.inj h ▸ List.cons_ne_nil _ _

theorem keeps_dot : Keeps '.' :=
  ⟨by decide, by decide, by decide⟩

theorem domainForm?_of_keeps {c : Char} (h : Keeps c) : Unicode.domainForm? c = some [c] := by
  rw [Unicode.domainForm?, if_pos h.ascii, h.toLower_eq]

theorem meaning?_of_unmarked {label : List Char} (h : Text.beginsWith mark label = false) :
    meaning? label = some (label, false) := by
  rw [meaning?, Text.beginsWith_eq_false_iff.1 h]

theorem labelText_of_mem {cs label : List Char} (hkeeps : ∀ c ∈ cs, Keeps c)
    (h : label ∈ Text.splitAll '.' cs) : labelText label = label := by
  have hascii : isAscii label = true := by
    rw [isAscii, List.all_eq_true]
    exact fun c hc => decide_eq_true (hkeeps c (Text.mem_of_mem_splitAll h hc)).ascii
  rw [labelText, if_pos hascii]

/-- The plain labels at the end of a domain name come through label by label, whatever stands in
front. -/
theorem general?_append {front back name : List Char} (hkeeps : ∀ c ∈ back, Keeps c)
    (hmark : IsUnmarked back) (h : general? (front ++ '.' :: back) = some name) :
    ∃ before, name = before ++ '.' :: back := by
  have hback : ∀ c ∈ '.' :: back, Keeps c := List.forall_mem_cons.2 ⟨keeps_dot, hkeeps⟩
  obtain ⟨mapped, hmapped, h⟩ := Option.bind_eq_some_iff.1 h
  obtain ⟨start, -, rfl⟩ :=
    exists_of_mapM_append (fun c hc => domainForm?_of_keeps (hback c hc)) hmapped
  have hflatten :
      (start ++ ('.' :: back).map fun c => [c]).flatten = start.flatten ++ '.' :: back := by
    rw [List.flatten_append, ← List.flatMap_def, List.flatMap_singleton']
  rw [hflatten, Unicode.composed_append _ fun c hc => (hback c hc).ascii,
    Text.splitAll_append_cons] at h
  obtain ⟨meant, hmeant, h⟩ := Option.bind_eq_some_iff.1 h
  obtain ⟨labels, hlabels, rfl⟩ :=
    exists_of_mapM_append (fun label hl => meaning?_of_unmarked (hmark label hl)) hmeant
  have hne : labels ≠ [] := ne_nil_of_mapM (Text.splitAll_ne_nil '.' _) hlabels
  have hnames :
      ((Text.splitAll '.' back).map (·, false)).map Prod.fst = Text.splitAll '.' back := by
    rw [List.map_map]
    exact List.map_id _
  have htexts : (Text.splitAll '.' back).map labelText = Text.splitAll '.' back :=
    (List.map_congr_left fun label hl => labelText_of_mem hkeeps hl).trans (List.map_id _)
  simp only at h
  split at h
  · cases h
  · split at h
    · cases h
    · rw [List.map_append, List.map_append, hnames, htexts,
        Text.intercalate_append (by simpa using hne) (Text.splitAll_ne_nil '.' _),
        Text.intercalate_splitAll] at h
      exact ⟨_, (Option.some.inj h).symm⟩

/-- **A domain name that ends in plain labels** ends in them in ASCII, too. -/
theorem ascii?_append {front back name : List Char} (hkeeps : ∀ c ∈ back, Keeps c)
    (hmark : IsUnmarked back) (h : ascii? (front ++ '.' :: back) = some name) :
    ∃ before, name = before ++ '.' :: back := by
  have hlower :
      (front ++ '.' :: back).map Char.toLower = front.map Char.toLower ++ '.' :: back := by
    have hback : back.map Char.toLower = back :=
      (List.map_congr_left fun c hc => (hkeeps c hc).toLower_eq).trans (List.map_id _)
    rw [List.map_append, List.map_cons, hback]
    rfl
  obtain ⟨h, -⟩ := Option.filter_eq_some_iff.1 h
  split at h
  · exact ⟨front.map Char.toLower, by rw [← Option.some.inj h, hlower]⟩
  · exact general?_append hkeeps hmark h

/-! ### Names that are not changed -/

theorem map_of_mapM {α β : Type} {f : α → Option β} {g : β → α} {as : List α} {bs : List β}
    (hback : ∀ a ∈ as, ∀ b, f a = some b → g b = a) (h : as.mapM f = some bs) : bs.map g = as := by
  induction as generalizing bs with
  | nil =>
    cases h
    rfl
  | cons a as ih =>
    obtain ⟨ha, has⟩ := List.forall_mem_cons.1 hback
    rw [List.mapM_cons] at h
    obtain ⟨b, hb, h⟩ := Option.bind_eq_some_iff.1 h
    obtain ⟨bs', hbs', h⟩ := Option.bind_eq_some_iff.1 h
    obtain rfl := Option.some.inj h
    rw [List.map_cons, ha b hb, ih has hbs']

/-- A label that means something is the written form of what it means. -/
theorem labelText_of_meaning? {label : List Char} {meant : List Char × Bool}
    (hascii : labelText label = label) (h : meaning? label = some meant) :
    labelText meant.1 = label := by
  unfold meaning? at h
  split at h
  · obtain rfl := Option.some.inj h
    exact hascii
  · next rest hrest =>
    obtain ⟨cs, -, h⟩ := Option.bind_eq_some_iff.1 h
    split at h
    · cases h
    · next hform =>
      obtain rfl := Option.some.inj h
      rw [Bool.or_eq_true, not_or, Bool.not_eq_true, bne_iff_ne, Classical.not_not] at hform
      rw [Text.afterBeginning_eq_some_iff.1 hrest, labelText, if_neg (by simp [hform.1]), hform.2]

/-- A domain name of characters that are kept is not changed label by label, either. -/
theorem general?_of_keeps {cs name : List Char} (hkeeps : ∀ c ∈ cs, Keeps c)
    (h : general? cs = some name) : name = cs := by
  have hmapped := mapM_of_forall fun c hc => domainForm?_of_keeps (hkeeps c hc)
  have hcomposed : Unicode.composed cs = cs :=
    Unicode.composed_append [] fun c hc => (hkeeps c hc).ascii
  rw [general?, hmapped] at h
  simp only [Option.bind_eq_bind, Option.bind_some, ← List.flatMap_def, List.flatMap_singleton',
    hcomposed] at h
  obtain ⟨meant, hmeant, h⟩ := Option.bind_eq_some_iff.1 h
  have hlabels : (meant.map Prod.fst).map labelText = Text.splitAll '.' cs := by
    rw [List.map_map]
    exact map_of_mapM (fun label hl _ =>
      labelText_of_meaning? (labelText_of_mem hkeeps hl)) hmeant
  split at h
  · cases h
  · split at h
    · cases h
    · rw [hlabels, Text.intercalate_splitAll] at h
      exact (Option.some.inj h).symm

/-- **A domain name of characters that are kept is not changed,** whether or not a label carries the
mark. -/
theorem ascii?_of_keeps {cs name : List Char} (hkeeps : ∀ c ∈ cs, Keeps c)
    (h : ascii? cs = some name) : name = cs := by
  have hlower : cs.map Char.toLower = cs :=
    (List.map_congr_left fun c hc => (hkeeps c hc).toLower_eq).trans (List.map_id cs)
  obtain ⟨h, -⟩ := Option.filter_eq_some_iff.1 h
  rw [hlower] at h
  split at h
  · exact (Option.some.inj h).symm
  · exact general?_of_keeps hkeeps h

end Domain

namespace Host

/-- **A plain domain name is read as it is written.** -/
theorem parse?_of_plain {cs : List Char} (hne : cs ≠ []) (hkeeps : ∀ c ∈ cs, Domain.Keeps c)
    (hmark : Domain.IsUnmarked cs) (hnumber : Address.endsInNumber cs = false) :
    parse? cs = some (.domain (String.ofList cs)) := by
  have hforbidden : ∀ c, Domain.forbidden c = true → c ∉ cs := fun c hc hmem =>
    Bool.noConfusion (hc.symm.trans (hkeeps c hmem).allowed)
  have hdomain : ofDomain? cs = some (.domain (String.ofList cs)) := by
    simp [ofDomain?, Domain.ascii?_of_plain hkeeps hmark, hne, hnumber]
  obtain ⟨c, rest, rfl⟩ := List.exists_cons_of_ne_nil hne
  have hbracket : c ≠ '[' := by
    rintro rfl
    exact hforbidden '[' (by decide) List.mem_cons_self
  rw [parse?, if_neg (hforbidden '%' (by decide)), hdomain]
  rintro rest' heq
  exact hbracket (List.cons.inj heq).1

/-- **A host of characters that are kept is not changed,** if it is one and no address. -/
theorem parse?_of_keeps {cs : List Char} (hkeeps : ∀ c ∈ cs, Domain.Keeps c)
    (hnumber : Address.endsInNumber cs = false) {host : Host} (h : parse? cs = some host) :
    host = .domain (String.ofList cs) := by
  have hforbidden : ∀ c, Domain.forbidden c = true → c ∉ cs := fun c hc hmem =>
    Bool.noConfusion (hc.symm.trans (hkeeps c hmem).allowed)
  unfold parse? at h
  split at h
  · exact absurd List.mem_cons_self (hforbidden '[' (by decide))
  · rw [if_neg (hforbidden '%' (by decide))] at h
    obtain ⟨name, hname, hnamed⟩ := Option.bind_eq_some_iff.1 h
    rw [Domain.ascii?_of_keeps hkeeps hname] at hnamed
    split at hnamed
    · cases hnamed
    · rw [hnumber] at hnamed
      exact (Option.some.inj hnamed).symm

variable {front back : List Char}

/-- A text between brackets ends in one. -/
theorem ofBrackets?_append (hkeeps : ∀ c ∈ back, Domain.Keeps c) :
    ofBrackets? (front ++ '.' :: back) = none := by
  have hlast : (front ++ '.' :: back).getLast? ≠ some ']' := by
    intro hlast
    rw [List.getLast?_append, List.getLast?_cons, Option.some_or, ← List.getLast?_cons] at hlast
    rcases List.mem_cons.1 (List.mem_of_getLast? hlast) with h | h
    · cases h
    · exact absurd (hkeeps _ h).allowed (by decide)
  rw [ofBrackets?, if_neg hlast]

theorem ofDomain?_append (hkeeps : ∀ c ∈ back, Domain.Keeps c) (hmark : Domain.IsUnmarked back)
    (hnumber : ∀ front, Address.endsInNumber (front ++ '.' :: back) = false) {host : Host}
    (h : ofDomain? (front ++ '.' :: back) = some host) :
    ∃ before, host = .domain (String.ofList (before ++ '.' :: back)) := by
  obtain ⟨name, hname, h⟩ := Option.bind_eq_some_iff.1 h
  obtain ⟨before, rfl⟩ := Domain.ascii?_append hkeeps hmark hname
  rw [if_neg (by simp), hnumber before] at h
  exact ⟨before, (Option.some.inj h).symm⟩

/-- **A host that ends in plain labels,** of which the last one is no number, is a domain name
that ends in them, whatever stands in front. -/
theorem parse?_append (hkeeps : ∀ c ∈ back, Domain.Keeps c) (hmark : Domain.IsUnmarked back)
    (hnumber : ∀ front, Address.endsInNumber (front ++ '.' :: back) = false) {host : Host}
    (h : parse? (front ++ '.' :: back) = some host) :
    ∃ before, host = .domain (String.ofList (before ++ '.' :: back)) := by
  unfold parse? at h
  split at h
  · next rest heq =>
    cases front with
    | nil => cases heq
    | cons c front =>
      obtain ⟨-, rfl⟩ := List.cons.inj heq
      cases (ofBrackets?_append hkeeps).symm.trans h
  · split at h
    · obtain ⟨s, hs, h⟩ := Option.bind_eq_some_iff.1 h
      have hpercent : ∀ c ∈ back, c.toNat < 128 ∧ c ≠ '%' := fun c hc =>
        ⟨(hkeeps c hc).ascii, by rintro rfl; exact absurd (hkeeps _ hc).allowed (by decide)⟩
      obtain ⟨before, hbefore⟩ := Percent.decodeText?_append hpercent hs
      rw [hbefore] at h
      exact ofDomain?_append hkeeps hmark hnumber h
    · exact ofDomain?_append hkeeps hmark hnumber h

end Host

end Depot
