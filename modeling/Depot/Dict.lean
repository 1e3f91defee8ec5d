/-!
# Dictionaries in the order of their keys

A dictionary holds one value for each of its keys, and lists them in the order of the keys. Keys
are texts, ordered by their first difference; the order of code points is also the order of the
bytes in UTF-8.

## Main definitions

* `Dict`, `Dict.get?`, `Dict.insert` : dictionaries and their operations.

## Main results

* `Dict.get?_insert` : what a lookup finds after an insertion.
-/

namespace Depot

namespace Dict

/-- The pairs of a list in order of their keys with a new value for a key. -/
def insertPair {α : Type} (key : String) (value : α) : List (String × α) → List (String × α)
  | [] => [(key, value)]
  | (k, v) :: rest =>
    if key < k then (key, value) :: (k, v) :: rest
    else if k < key then (k, v) :: insertPair key value rest
    else (key, value) :: rest

/-- The value of a key in a list of pairs. -/
def lookup {α : Type} (key : String) : List (String × α) → Option α
  | [] => none
  | (k, v) :: rest => if k = key then some v else lookup key rest

/-- The pairs stand in the order of their keys, without repetition. -/
abbrev Ordered {α : Type} (pairs : List (String × α)) : Prop :=
  pairs.Pairwise fun a b => a.1 < b.1

theorem mem_insertPair {α : Type} {key : String} {value : α} {pairs : List (String × α)}
    {pair : String × α} (h : pair ∈ insertPair key value pairs) :
    pair = (key, value) ∨ pair ∈ pairs := by
  induction pairs with
  | nil => simpa [insertPair] using h
  | cons head rest ih =>
    obtain ⟨k, v⟩ := head
    unfold insertPair at h
    split at h
    · simpa using h
    · split at h
      · rcases List.mem_cons.1 h with h | h
        · exact .inr (h ▸ List.mem_cons_self)
        · exact (ih h).imp id (List.mem_cons_of_mem _)
      · exact (List.mem_cons.1 h).imp id (List.mem_cons_of_mem _)

theorem ordered_insertPair {α : Type} (key : String) (value : α) {pairs : List (String × α)}
    (h : Ordered pairs) : Ordered (insertPair key value pairs) := by
  induction pairs with
  | nil => simp [insertPair]
  | cons head rest ih =>
    obtain ⟨k, v⟩ := head
    obtain ⟨hk, hrest⟩ := List.pairwise_cons.1 h
    unfold insertPair
    split
    · next lt =>
      refine List.pairwise_cons.2 ⟨fun pair hp => ?_, h⟩
      rcases List.mem_cons.1 hp with rfl | hp
      · exact lt
      · exact String.lt_trans lt (hk pair hp)
    · split
      · next gt =>
        refine List.pairwise_cons.2 ⟨fun pair hp => ?_, ih hrest⟩
        rcases mem_insertPair hp with rfl | hp
        · exact gt
        · exact hk pair hp
      · next le ge =>
        have eq : k = key := String.le_antisymm (String.not_lt.1 le) (String.not_lt.1 ge)
        subst eq
        exact List.pairwise_cons.2 ⟨hk, hrest⟩

theorem lookup_insertPair {α : Type} (key : String) (value : α) (pairs : List (String × α))
    (k : String) :
    lookup k (insertPair key value pairs) = if key = k then some value else lookup k pairs := by
  induction pairs with
  | nil => rfl
  | cons head rest ih =>
    obtain ⟨k', v⟩ := head
    unfold insertPair
    split
    · rfl
    · split
      · next gt =>
        by_cases hk : k' = k
        · subst hk
          have ne : key ≠ k' := fun e => String.lt_irrefl _ (e ▸ gt)
          simp [lookup, ne]
        · simp [lookup, hk, ih]
      · next le ge =>
        have eq : k' = key := String.le_antisymm (String.not_lt.1 le) (String.not_lt.1 ge)
        subst eq
        by_cases hk : k' = k <;> simp [lookup, hk]

end Dict

/-- A dictionary: pairs in the order of their keys. -/
structure Dict (α : Type) where
  pairs : List (String × α)
  ordered : Dict.Ordered pairs
  deriving DecidableEq

namespace Dict

variable {α β : Type}

/-- The dictionary without keys. -/
def empty : Dict α :=
  ⟨[], List.Pairwise.nil⟩

instance : Inhabited (Dict α) :=
  ⟨empty⟩

/-- The value of a key. -/
def get? (d : Dict α) (key : String) : Option α :=
  lookup key d.pairs

/-- The dictionary with a new value for a key. -/
def insert (d : Dict α) (key : String) (value : α) : Dict α :=
  ⟨insertPair key value d.pairs, ordered_insertPair key value d.ordered⟩

/-- The dictionary of a list of pairs. Of the values of one key the last one counts. -/
def ofList (pairs : List (String × α)) : Dict α :=
  pairs.foldl (fun d (key, value) => d.insert key value) empty

/-- The keys in their order. -/
def keys (d : Dict α) : List String :=
  d.pairs.map Prod.fst

@[simp] theorem get?_empty (key : String) : (empty : Dict α).get? key = none :=
  rfl

/-- An insertion is seen at its own key and nowhere else. -/
@[simp] theorem get?_insert (d : Dict α) (key : String) (value : α) (k : String) :
    (d.insert key value).get? k = if key = k then some value else d.get? k :=
  lookup_insertPair key value d.pairs k

end Dict

end Depot
