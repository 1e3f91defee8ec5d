import Depot.Proofs.Json.Spelling

/-!
# Records that are spelled

The fields of a record are read in whatever order they come, each of them once. So what has been
read is known from the keys that have been met: the values of their fields, and nothing of any other
field.

## Main definitions

* `Json.HasMembers` : the objects with certain members.
* `Json.held` : the value of a field, if its key has been met.

## Main results

* `Json.HasMembers.reads` : a record is read from its members.
* `Json.reads_readDict` : a dictionary is read as it is.
-/

namespace Depot.Json

variable {α β σ : Type} {v : Json} {ts : List Token} {depth : Nat} {read : Reader α} {a : α}
  {met : List String} {key other : String}

/-- A value is an object, with no key twice, whose members are those with a property. -/
def HasMembers (v : Json) (P : String → Json → Prop) : Prop :=
  ∃ members, v = .object members ∧ (members.map Prod.fst).Nodup ∧
    ∀ key value, (key, value) ∈ members ↔ P key value

/-! ### Fields -/

/-- The value of a field, if its key has been met. -/
def held (met : List String) (key : String) (a : α) : Option α :=
  if key ∈ met then some a else none

@[simp] theorem held_nil : held [] key a = none :=
  rfl

@[simp] theorem held_cons_self : held (key :: met) key a = some a :=
  if_pos List.mem_cons_self

theorem held_cons_of_ne (h : key ≠ other) : held (other :: met) key a = held met key a := by
  simp only [held, List.mem_cons, h, false_or]

theorem held_of_mem (h : key ∈ met) : held met key a = some a :=
  if_pos h

/-- A field that may be left out has its value if its key is met whenever it has one. -/
theorem join_held {o : Option α} (h : ∀ a, o = some a → key ∈ met) : (held met key o).join = o := by
  cases o with
  | none => unfold held; split <;> rfl
  | some a => rw [held_of_mem (h a rfl), Option.join_some]

theorem Reads.map (h : Reads read v a) (f : α → β) :
    Reads (fun ts => do
      let (a, rest) ← read ts
      .ok (f a, rest)) v (f a) := by
  intro ts hts rest
  simp only [h ts hts rest, bind, Except.bind]

theorem Reads.afterColon (h : Reads read v a) :
    Reads (fun ts => Json.afterColon read (.colon :: ts)) v a :=
  h

/-- The field of a key that has not been met is read from its value. -/
theorem Reads.field (h : Reads read v a) (hnew : key ∉ met) (b : α) :
    Reads (fun ts => readField (held met key b) read (.colon :: ts)) v (some a) := by
  rw [held, if_neg hnew]
  exact h.map some

/-- **A record is read from its members,** if each of them is and the record is made of the fields
that have been read when all their keys have been met. -/
theorem HasMembers.reads {P : String → Json → Prop} {ofArray ofObject : Nat → Reader α}
    {finish : σ × List Token → Except Fault (α × List Token)} (h : v.HasMembers P)
    (step : String → σ → Reader σ) (fieldsAt : List String → σ)
    (hobject : ∀ ts, ofObject depth ts = readMembers step (fieldsAt []) ts >>= finish)
    (hstep : ∀ key w met, P key w → key ∉ met →
      Reads (fun ts => step key (fieldsAt met) (.colon :: ts)) w (fieldsAt (key :: met)))
    (hfinish : ∀ met, (∀ {key w}, P key w → key ∈ met) →
      ∀ rest, finish (fieldsAt met, rest) = .ok (a, rest)) :
    Reads (readRecord ofArray ofObject (depth + 1)) v a := by
  obtain ⟨members, rfl, hkeys, hmem⟩ := h
  intro ts hts rest
  -- What has been read is always what the record has at the keys that have been met.
  obtain ⟨inner, last, met, rfl, rfl, hmet, hread⟩ :=
    readMembers_spells step (P := fun met state => state = fieldsAt met) hkeys rfl
      (fun key w hw met state hnew hstate =>
        ⟨_, rfl, hstate ▸ hstep key w met ((hmem key w).1 hw) hnew⟩) hts
  change ofObject depth (inner ++ rest) = _
  rw [hobject, hread]
  exact hfinish met (fun hw => (hmet _).2 (List.mem_map_of_mem ((hmem _ _).2 hw))) rest

/-! ### Dictionaries -/

/-- **A dictionary is read as it is,** if its values are. -/
theorem reads_readDict {read : Nat → Reader α} {write : α → Json} {d : Dict α}
    (h : d.All fun a => Reads (read depth) (write a) a) :
    Reads (readDict read (depth + 1)) (object (d.pairs.map fun (key, a) => (key, write a))) d := by
  intro ts hts rest
  obtain ⟨inner, rfl, hread⟩ := readMembers_readEntry h hts
  exact hread rest

end Depot.Json
