/-!
# Association lists

A finite map as a list of pairs. A lookup takes the first pair with its key, an insertion replaces
that pair or adds one at the end, an erasure takes all pairs with the key away.

## Main definitions

* `Assoc.get?`, `Assoc.insert`, `Assoc.erase` : the operations.

## Main results

* `Assoc.get?_insert`, `Assoc.get?_erase` : what a lookup finds after each of them.
-/

namespace Depot

/-- A finite map as a list of pairs. -/
abbrev Assoc (κ α : Type) := List (κ × α)

namespace Assoc

variable {κ α : Type} [DecidableEq κ]

/-- The value of a key. -/
def get? : Assoc κ α → κ → Option α
  | [], _ => none
  | (k, v) :: rest, key => if k = key then some v else get? rest key

/-- Whether a key has a value. -/
def contains (m : Assoc κ α) (key : κ) : Bool :=
  (m.get? key).isSome

/-- The map with a new value for a key. -/
def insert : Assoc κ α → κ → α → Assoc κ α
  | [], key, value => [(key, value)]
  | (k, v) :: rest, key, value =>
    if k = key then (key, value) :: rest else (k, v) :: insert rest key value

/-- The map without a key. -/
def erase (m : Assoc κ α) (key : κ) : Assoc κ α :=
  m.filter fun pair => pair.1 ≠ key

@[simp] theorem get?_nil (key : κ) : get? ([] : Assoc κ α) key = none :=
  rfl

@[simp] theorem get?_cons (k : κ) (v : α) (rest : Assoc κ α) (key : κ) :
    get? ((k, v) :: rest) key = if k = key then some v else get? rest key :=
  rfl

/-- An insertion is seen at its own key and nowhere else. -/
@[simp] theorem get?_insert (m : Assoc κ α) (k : κ) (v : α) (key : κ) :
    (m.insert k v).get? key = if k = key then some v else m.get? key := by
  induction m with
  | nil => rfl
  | cons pair rest ih =>
    obtain ⟨k', v'⟩ := pair
    by_cases h : k' = k
    · subst h; by_cases h' : k' = key <;> simp [insert, h']
    · by_cases h' : k' = key
      · subst h'; simp [insert, h, Ne.symm h]
      · simp [insert, h, h', ih]

/-- An erasure is seen at its own key and nowhere else. -/
@[simp] theorem get?_erase (m : Assoc κ α) (k key : κ) :
    (m.erase k).get? key = if k = key then none else m.get? key := by
  induction m with
  | nil => simp [erase]
  | cons pair rest ih =>
    obtain ⟨k', v'⟩ := pair
    by_cases h : k' = k
    · subst h
      by_cases h' : k' = key
      · simpa [erase, h'] using ih
      · simpa [erase, h'] using ih
    · by_cases h' : k' = key
      · subst h'; simp [erase, h, Ne.symm h]
      · simp only [erase, decide_not, get?_cons, h', if_false] at ih ⊢
        simpa [h, h'] using ih

end Assoc

end Depot
