import Depot.Json.Reader
import Depot.Proofs.Dict
import Mathlib.Data.List.Forall2

/-!
# Tokens that spell a value

A JSON value can be spelled in many ways: a number by any digits that denote it, and the members of
an object in any order. A reader reads a value as something if it takes that from the front of every
spelling of the value and leaves what comes behind. Objects are read member by member, and what has
been read at any time depends on the keys that have been met and on nothing else, so that their
order does not matter.

Not every value has a spelling, as not every number is denoted by digits, and not every value can
be read back as it is, as objects come back with their members in the order of the keys. Those that
can are the legible ones.

## Main definitions

* `Json.Spells` : the spellings of a value.
* `Json.Reads` : a reader reads a value as something.
* `Json.AllNumbers` : values all of whose numbers have a property.
* `Json.Legible` : values whose members are in order and which are nested no deeper than a number of
  levels.

## Main results

* `Json.readElements_spells`, `Json.readMembers_spells` : the elements of an array and the members
  of an object.
* `Json.exists_spells` : values whose numbers are denoted have spellings.
* `Json.reads_readValue` : legible values are read as they are.
-/

namespace Depot.Json

variable {α σ : Type} {v : Json} {ts : List Token} {depth : Nat}

/-! ### Spellings -/

/-- Pieces with commas between them, and with a comma in front unless they are the first ones. -/
def joined : Bool → List (List Token) → List Token
  | _, [] => []
  | true, piece :: pieces => piece ++ joined false pieces
  | false, piece :: pieces => .comma :: piece ++ joined false pieces

/-- The tokens of a member of an object. -/
def memberTokens (key : String) (ts : List Token) : List Token :=
  .text key :: .colon :: ts

/-- The spellings of a value. -/
inductive Spells : Json → List Token → Prop
  | null : Spells .null [.null]
  | bool (b : Bool) : Spells (.bool b) [.bool b]
  | text (s : String) : Spells (.text s) [.text s]
  | number {n : JsonNumber} {l : NumberLiteral} (h : l.value? = some n) :
    Spells (.number n) [.number l]
  | array {items : List Json} {pieces : List (List Token)} (h : List.Forall₂ Spells items pieces) :
    Spells (.array items) (.openArray :: joined true pieces ++ [.closeArray])
  | object {members listed : List (String × Json)} {pieces : List (List Token)}
      (horder : members.Perm listed) (h : List.Forall₂ Spells (listed.map Prod.snd) pieces) :
    Spells (.object members)
      (.openObject :: joined true (List.zipWith memberTokens (listed.map Prod.fst) pieces) ++
        [.closeObject])

/-- The first token of a spelling ends no array, and it is null for null alone. -/
theorem Spells.head (h : v.Spells ts) :
    ∃ t more, ts = t :: more ∧ t ≠ .closeArray ∧ (v ≠ .null → t ≠ .null) := by
  cases h with
  | null => exact ⟨_, _, rfl, nofun, fun hv => absurd rfl hv⟩
  | bool b => exact ⟨_, _, rfl, nofun, nofun⟩
  | text s => exact ⟨_, _, rfl, nofun, nofun⟩
  | number h => exact ⟨_, _, rfl, nofun, nofun⟩
  | array h => exact ⟨_, _, rfl, nofun, nofun⟩
  | object horder h => exact ⟨_, _, rfl, nofun, nofun⟩

/-- A reader reads a value as something: it takes that from the front of every spelling. -/
def Reads (read : Reader α) (v : Json) (a : α) : Prop :=
  ∀ ts, v.Spells ts → ∀ rest, read (ts ++ rest) = .ok (a, rest)

/-- A value is read back as something: it has spellings, and that is what is read from each of them
when nothing else is there. -/
structure ReadsBack (read : Reader α) (v : Json) (a : α) : Prop where
  exists_spells : ∃ ts, v.Spells ts
  readAll_eq : ∀ ts, v.Spells ts → readAll read ts = .ok a

theorem Reads.readAll_eq {read : Reader α} {a : α} (h : Reads read v a) (hts : v.Spells ts) :
    readAll read ts = .ok a := by
  have hread := h ts hts []
  rw [List.append_nil] at hread
  simp only [readAll, hread, bind, Except.bind, List.isEmpty_nil, if_true]

theorem reads_readText (s : String) : Reads readText (.text s) s := by
  intro ts h rest
  cases h
  rfl

/-- What is not null is read as something that is there. -/
theorem Reads.optional {read : Reader α} {a : α} (h : Reads read v a) (hv : v ≠ .null) :
    Reads (readOptional read) v (some a) := by
  intro ts hts rest
  obtain ⟨t, more, rfl, -, hnull⟩ := hts.head
  have hread := h _ hts rest
  rw [List.cons_append] at hread ⊢
  unfold readOptional
  split
  · next heq => exact absurd (List.cons.inj heq).1 (hnull hv)
  · rw [hread]
    rfl

theorem reads_optionalText (s : String) : Reads (readOptional readText) (.text s) (some s) :=
  (reads_readText s).optional nofun

/-! ### Elements of arrays -/

theorem moreElements_first {t : Token} (h : t ≠ .closeArray) (rest : List Token) :
    moreElements true (t :: rest) = .ok (true, t :: rest) := by
  cases t <;> first | rfl | exact absurd rfl h

theorem moreElements_comma {t : Token} (h : t ≠ .closeArray) (rest : List Token) :
    moreElements false (.comma :: t :: rest) = .ok (true, t :: rest) := by
  cases t <;> first | rfl | exact absurd rfl h

/-- A piece that comes next is what the next element is read from. -/
theorem readElement_joined {read : Reader α} {a : α} {piece : List Token} (hv : v.Spells piece)
    (h : Reads read v a) (first : Bool) (pieces : List (List Token)) (rest : List Token) :
    readElement read first (joined first (piece :: pieces) ++ rest) =
      .ok (some a, joined false pieces ++ rest) := by
  have hread := h piece hv (joined false pieces ++ rest)
  have hmore : moreElements first (joined first (piece :: pieces) ++ rest) =
      .ok (true, piece ++ (joined false pieces ++ rest)) := by
    obtain ⟨t, more, rfl, ht, -⟩ := hv.head
    cases first with
    | true => simpa [joined] using moreElements_first ht (more ++ (joined false pieces ++ rest))
    | false => simpa [joined] using moreElements_comma ht (more ++ (joined false pieces ++ rest))
  unfold readElement
  simp only [hmore, hread, bind, Except.bind, if_true]

theorem readElementsFrom_spells {read : Reader Json} {items : List Json}
    {pieces : List (List Token)} (hpieces : List.Forall₂ Spells items pieces)
    (h : ∀ item ∈ items, Reads read item item) (rest : List Token) {fuel : Nat} (first : Bool)
    (hfuel : pieces.length < fuel) :
    readElementsFrom read fuel first (joined first pieces ++ .closeArray :: rest) =
      .ok (items, .closeArray :: rest) := by
  induction hpieces generalizing fuel first with
  | nil =>
    cases fuel with
    | zero => cases hfuel
    | succ fuel => cases first <;> rfl
  | @cons item piece items pieces hpiece _ ih =>
    obtain ⟨hitem, hitems⟩ := List.forall_mem_cons.1 h
    cases fuel with
    | zero => cases hfuel
    | succ fuel =>
      have hrest := ih hitems false (Nat.lt_of_succ_lt_succ hfuel)
      unfold readElementsFrom
      simp only [readElement_joined hpiece hitem, hrest, bind, Except.bind]

theorem length_le_joined {pieces : List (List Token)} (h : ∀ piece ∈ pieces, piece ≠ [])
    (first : Bool) : pieces.length ≤ (joined first pieces).length := by
  induction pieces generalizing first with
  | nil => exact Nat.zero_le _
  | cons piece pieces ih =>
    obtain ⟨hpiece, hpieces⟩ := List.forall_mem_cons.1 h
    have hpos := List.length_pos_iff.2 hpiece
    have hrest := ih hpieces false
    cases first <;> simp only [joined, List.length_cons, List.length_append, List.cons_append] <;>
      omega

theorem ne_nil_of_spells {items : List Json} {pieces : List (List Token)}
    (h : List.Forall₂ Spells items pieces) : ∀ piece ∈ pieces, piece ≠ [] := by
  induction h with
  | nil => nofun
  | cons hpiece _ ih =>
    obtain ⟨t, more, rfl, -, -⟩ := hpiece.head
    exact List.forall_mem_cons.2 ⟨List.cons_ne_nil _ _, ih⟩

/-- **The elements of an array** are read from every spelling of it. -/
theorem readElements_spells {read : Reader Json} {items : List Json}
    (h : ∀ item ∈ items, Reads read item item) (hts : (array items).Spells ts) :
    ∃ inner, ts = .openArray :: inner ∧
      ∀ rest, readElements read (inner ++ rest) = .ok (items, rest) := by
  cases hts with
  | @array _ pieces hpieces =>
    refine ⟨joined true pieces ++ [.closeArray], rfl, fun rest => ?_⟩
    have hlength := length_le_joined (ne_nil_of_spells hpieces) true
    have hread := readElementsFrom_spells hpieces h rest true
      (show pieces.length < (joined true pieces ++ .closeArray :: rest).length + 1 by
        rw [List.length_append]; omega)
    rw [List.append_assoc, List.singleton_append]
    unfold readElements
    simp only [hread, bind, Except.bind]
    rfl

/-! ### Members of objects -/

theorem readNextKey_joined (first : Bool) (key : String) (ts : List Token)
    (pieces : List (List Token)) (rest : List Token) :
    readNextKey first (joined first (memberTokens key ts :: pieces) ++ rest) =
      .ok (some key, .colon :: ts ++ (joined false pieces ++ rest)) := by
  cases first <;> simp [joined, memberTokens, readNextKey, readKey, bind, Except.bind]

/-- What has been read of members that are spelled, if it depends on the keys that have been met: a
property `P` of these keys and a state that every member of a new key keeps. -/
theorem readMembersFrom_spells {step : String → σ → Reader σ} {P : List String → σ → Prop}
    {members : List (String × Json)} {pieces : List (List Token)}
    (hpieces : List.Forall₂ Spells (members.map Prod.snd) pieces)
    (hkeys : (members.map Prod.fst).Nodup) {met : List String} {state : σ} (hstate : P met state)
    (hmet : ∀ key ∈ members.map Prod.fst, key ∉ met)
    (hstep : ∀ key v, (key, v) ∈ members → ∀ met state, key ∉ met → P met state →
      ∃ next, P (key :: met) next ∧ Reads (fun ts => step key state (.colon :: ts)) v next)
    (first : Bool) :
    ∃ last, P ((members.map Prod.fst).reverse ++ met) last ∧
      ∀ fuel, members.length < fuel → ∀ rest,
        readMembersFrom step fuel first state
          (joined first (List.zipWith memberTokens (members.map Prod.fst) pieces) ++
            .closeObject :: rest) = .ok (last, rest) := by
  induction members generalizing pieces met state first with
  | nil =>
    cases hpieces
    refine ⟨state, hstate, fun fuel hfuel rest => ?_⟩
    cases fuel with
    | zero => cases hfuel
    | succ fuel => cases first <;> rfl
  | cons member members ih =>
    obtain ⟨key, v⟩ := member
    obtain ⟨piece, pieces', hpiece, hpieces', rfl⟩ := List.forall₂_cons_left_iff.1 hpieces
    obtain ⟨hkey, hkeys⟩ := List.nodup_cons.1 hkeys
    obtain ⟨hnew, hmet⟩ := List.forall_mem_cons.1 hmet
    obtain ⟨next, hnext, hread⟩ := hstep key v List.mem_cons_self met state hnew hstate
    obtain ⟨last, hlast, hrest⟩ := ih hpieces' hkeys hnext
      (fun k hk hmem => (List.mem_cons.1 hmem).elim (fun heq => hkey (heq ▸ hk)) (hmet k hk))
      (fun k v hmem => hstep k v (List.mem_cons_of_mem _ hmem)) false
    refine ⟨last, by simpa using hlast, fun fuel hfuel rest => ?_⟩
    cases fuel with
    | zero => cases hfuel
    | succ fuel =>
      have hmember := hread piece hpiece
        (joined false (List.zipWith memberTokens (members.map Prod.fst) pieces') ++
          .closeObject :: rest)
      unfold readMembersFrom
      simp only [List.map_cons, List.zipWith_cons_cons, readNextKey_joined, List.cons_append, bind,
        Except.bind, hmember, hrest fuel (Nat.lt_of_succ_lt_succ hfuel)]

/-- **The members of an object** are read from every spelling of it, in whatever order they come. -/
theorem readMembers_spells (step : String → σ → Reader σ) {P : List String → σ → Prop}
    {members : List (String × Json)} (hkeys : (members.map Prod.fst).Nodup) {state : σ}
    (hstate : P [] state)
    (hstep : ∀ key v, (key, v) ∈ members → ∀ met state, key ∉ met → P met state →
      ∃ next, P (key :: met) next ∧ Reads (fun ts => step key state (.colon :: ts)) v next)
    (hts : (object members).Spells ts) :
    ∃ inner last met, ts = .openObject :: inner ∧ P met last ∧
      (∀ key, key ∈ met ↔ key ∈ members.map Prod.fst) ∧
      ∀ rest, readMembers step state (inner ++ rest) = .ok (last, rest) := by
  cases hts with
  | @object _ listed pieces horder hpieces =>
    -- There are enough tokens for the members, as every member has some.
    have hpieces' :
        ∀ piece ∈ List.zipWith memberTokens (listed.map Prod.fst) pieces, piece ≠ [] := by
      intro piece hpiece
      rw [← List.map_uncurry_zip_eq_zipWith] at hpiece
      obtain ⟨pair, -, rfl⟩ := List.mem_map.1 hpiece
      exact List.cons_ne_nil _ _
    have hlength := length_le_joined hpieces' true
    rw [List.length_zipWith, ← hpieces.length_eq, List.length_map, List.length_map,
      Nat.min_self] at hlength
    obtain ⟨last, hlast, hread⟩ := readMembersFrom_spells hpieces ((horder.map _).nodup_iff.1 hkeys)
      hstate (by simp) (fun key v hmem => hstep key v (horder.mem_iff.2 hmem)) true
    refine ⟨joined true (List.zipWith memberTokens (listed.map Prod.fst) pieces) ++ [.closeObject],
      last, _, rfl, hlast, fun key => ?_, fun rest => ?_⟩
    · rw [List.append_nil, List.mem_reverse, (horder.map Prod.fst).mem_iff]
    · unfold readMembers
      rw [List.append_assoc, List.singleton_append]
      refine hread _ ?_ rest
      rw [List.length_append]
      omega

/-- An entry is read from its value. -/
theorem Reads.entry {read : Reader α} {a : α} (h : Reads read v a) (key : String) (e : Dict α) :
    Reads (fun ts => readEntry read key e (.colon :: ts)) v (e.insert key a) := by
  intro ts hts rest
  simp only [readEntry, afterColon, h ts hts rest, bind, Except.bind]

/-- What a dictionary is read from: the members of an object of its values. -/
theorem readMembers_readEntry {read : Reader α} {write : α → Json} {d : Dict α}
    (h : ∀ pair ∈ d.pairs, Reads read (write pair.2) pair.2)
    (hts : (object (d.pairs.map fun (key, a) => (key, write a))).Spells ts) :
    ∃ inner, ts = .openObject :: inner ∧
      ∀ rest, readMembers (readEntry read) Dict.empty (inner ++ rest) = .ok (d, rest) := by
  have hkeys : (d.pairs.map fun (key, a) => (key, write a)).map Prod.fst = d.keys :=
    List.map_map
  -- The dictionary that has been read has the entries whose keys have been met.
  have hstep : ∀ key v, (key, v) ∈ d.pairs.map (fun (key, a) => (key, write a)) →
      ∀ met e, key ∉ met → d.EntriesAt met e → ∃ next, d.EntriesAt (key :: met) next ∧
        Reads (fun ts => readEntry read key e (.colon :: ts)) v next := by
    intro key v hmem met e _ he
    obtain ⟨⟨k, a⟩, hpair, heq⟩ := List.mem_map.1 hmem
    obtain ⟨rfl, rfl⟩ := Prod.mk.inj heq
    exact ⟨e.insert k a, he.insert (Dict.get?_eq_some_iff.2 hpair), (h _ hpair).entry k e⟩
  obtain ⟨inner, last, met, rfl, hlast, hmet, hread⟩ :=
    readMembers_spells (readEntry read) (hkeys ▸ d.nodup_keys) d.entriesAt_nil hstep hts
  have hlast : last = d := hlast.eq fun key a hvalue =>
    (hmet key).2 (hkeys ▸ Dict.mem_keys_iff.2 ⟨a, hvalue⟩)
  exact ⟨inner, rfl, hlast ▸ hread⟩

/-! ### Numbers of values -/

/-- All numbers in a value have a property. -/
inductive AllNumbers (N : JsonNumber → Prop) : Json → Prop
  | null : AllNumbers N .null
  | bool (b : Bool) : AllNumbers N (.bool b)
  | text (s : String) : AllNumbers N (.text s)
  | number {n : JsonNumber} (h : N n) : AllNumbers N (.number n)
  | array {items : List Json} (h : ∀ item ∈ items, AllNumbers N item) : AllNumbers N (.array items)
  | object {members : List (String × Json)} (h : ∀ member ∈ members, AllNumbers N member.2) :
    AllNumbers N (.object members)

theorem AllNumbers.imp₂ {N N' M : JsonNumber → Prop} (h : v.AllNumbers N) (h' : v.AllNumbers N')
    (hM : ∀ n, N n → N' n → M n) : v.AllNumbers M := by
  induction h with
  | null => exact .null
  | bool b => exact .bool b
  | text s => exact .text s
  | number h =>
    cases h' with
    | number h' => exact .number (hM _ h h')
  | array _ ih =>
    cases h' with
    | array h' => exact .array fun item hitem => ih item hitem (h' item hitem)
  | object _ ih =>
    cases h' with
    | object h' => exact .object fun member hmember => ih member hmember (h' member hmember)

/-- A number is denoted by some digits. -/
def IsDenoted (n : JsonNumber) : Prop :=
  ∃ l : NumberLiteral, l.value? = some n

theorem exists_forall₂ {β : Type} {R : α → β → Prop} {as : List α} (h : ∀ a ∈ as, ∃ b, R a b) :
    ∃ bs, List.Forall₂ R as bs := by
  induction as with
  | nil => exact ⟨[], .nil⟩
  | cons a as ih =>
    obtain ⟨⟨b, hb⟩, has⟩ := List.forall_mem_cons.1 h
    obtain ⟨bs, hbs⟩ := ih has
    exact ⟨b :: bs, .cons hb hbs⟩

/-- **Values whose numbers are denoted have spellings.** -/
theorem exists_spells (h : v.AllNumbers IsDenoted) : ∃ ts, v.Spells ts := by
  induction h with
  | null => exact ⟨_, .null⟩
  | bool b => exact ⟨_, .bool b⟩
  | text s => exact ⟨_, .text s⟩
  | number h =>
    obtain ⟨l, hl⟩ := h
    exact ⟨_, .number hl⟩
  | array h ih =>
    obtain ⟨pieces, hpieces⟩ := exists_forall₂ ih
    exact ⟨_, .array hpieces⟩
  | @object members h ih =>
    obtain ⟨pieces, hpieces⟩ := exists_forall₂ (List.forall_mem_map.2 ih)
    exact ⟨_, .object (List.Perm.refl members) hpieces⟩

/-! ### Legible values -/

/-- Values whose objects have their members in the order of the keys, and which are nested no deeper
than a number of levels. -/
inductive Legible : Nat → Json → Prop
  | null {depth : Nat} : Legible depth .null
  | bool {depth : Nat} (b : Bool) : Legible depth (.bool b)
  | text {depth : Nat} (s : String) : Legible depth (.text s)
  | number {depth : Nat} (n : JsonNumber) : Legible depth (.number n)
  | array {depth : Nat} {items : List Json} (h : ∀ item ∈ items, Legible depth item) :
    Legible (depth + 1) (.array items)
  | object {depth : Nat} {members : List (String × Json)} (hordered : Dict.Ordered members)
      (h : ∀ member ∈ members, Legible depth member.2) : Legible (depth + 1) (.object members)

/-- **Legible values are read as they are.** -/
theorem reads_readValue (h : Legible depth v) : Reads (readValue depth) v v := by
  intro ts hts rest
  induction h generalizing ts rest with
  | null =>
    cases hts
    rw [List.singleton_append, readValue]
  | bool b =>
    cases hts
    rw [List.singleton_append, readValue]
  | text s =>
    cases hts
    rw [List.singleton_append, readValue]
  | number n =>
    cases hts with
    | number hl =>
      rw [List.singleton_append, readValue]
      simp only [hl]
  | array h ih =>
    obtain ⟨inner, rfl, hread⟩ := readElements_spells ih hts
    rw [List.cons_append, readValue]
    simp only [hread, bind, Except.bind]
  | @object depth members hordered h ih =>
    obtain ⟨inner, rfl, hread⟩ :=
      @readMembers_readEntry _ _ _ id ⟨members, hordered⟩ ih (by simpa using hts)
    rw [List.cons_append, readValue]
    simp only [hread, bind, Except.bind]

end Depot.Json
