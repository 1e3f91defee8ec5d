import Depot.Dict
import Mathlib.Data.List.Nodup

/-!
# The entries of dictionaries

A dictionary is determined by what its keys are looked up to, and its entries are just what is
found. An entry of a dictionary that was made from a list comes from the list.

## Main definitions

* `Dict.EntriesAt` : dictionaries with the entries of another one under some of its keys.
* `Dict.All` : dictionaries all of whose values have a property.

## Main results

* `Dict.get?_eq_some_iff` : what is found is an entry.
* `Dict.eq_of_get?` : dictionaries in which the same is found.
* `Dict.EntriesAt.insert`, `Dict.EntriesAt.eq` : entries that are put in one after the other.
* `Dict.exists_mem_ofList`, `Dict.mem_of_mem_ofList` : the entries of a dictionary of a list.
-/

namespace Depot

namespace Dict

variable {α : Type} {d e : Dict α} {key : String} {value : α}

/-! ### Entries -/

theorem mem_of_lookup {key : String} {value : α} {pairs : List (String × α)}
    (h : lookup key pairs = some value) : (key, value) ∈ pairs := by
  induction pairs with
  | nil => cases h
  | cons pair rest ih =>
    obtain ⟨k, v⟩ := pair
    by_cases hk : k = key
    · simp only [lookup, if_pos hk, Option.some.injEq] at h
      rw [hk, h]
      exact List.mem_cons_self
    · simp only [lookup, if_neg hk] at h
      exact List.mem_cons_of_mem _ (ih h)

/-- **What is found is an entry.** -/
theorem get?_eq_some_iff : d.get? key = some value ↔ (key, value) ∈ d.pairs := by
  refine ⟨mem_of_lookup, fun h => ?_⟩
  obtain ⟨pairs, ordered⟩ := d
  change lookup key pairs = some value
  induction pairs with
  | nil => cases h
  | cons pair rest ih =>
    obtain ⟨hpair, hrest⟩ := List.pairwise_cons.1 ordered
    rcases List.mem_cons.1 h with rfl | hmem
    · rw [lookup, if_pos rfl]
    · have hne : pair.1 ≠ key := fun heq => String.lt_irrefl _ (heq ▸ hpair _ hmem)
      rw [lookup, if_neg hne]
      exact ih hrest hmem

theorem mem_keys_iff : key ∈ d.keys ↔ ∃ value, d.get? key = some value := by
  simp [keys, get?_eq_some_iff, Prod.exists]

theorem nodup_keys (d : Dict α) : d.keys.Nodup := by
  refine List.pairwise_map.2 (d.ordered.imp ?_)
  intro a b h heq
  exact String.lt_irrefl _ (heq ▸ h)

/-- **Dictionaries in which the same is found** are the same. -/
theorem eq_of_get? (h : ∀ key, d.get? key = e.get? key) : d = e := by
  have hperm : d.pairs.Perm e.pairs := by
    refine (List.perm_ext_iff_of_nodup d.nodup_keys.of_map e.nodup_keys.of_map).2 fun pair => ?_
    obtain ⟨key, value⟩ := pair
    rw [← get?_eq_some_iff, ← get?_eq_some_iff, h]
  have hpairs : d.pairs = e.pairs :=
    hperm.eq_of_pairwise
      (fun a b _ _ hab hba => absurd (String.lt_trans hab hba) (String.lt_irrefl _))
      d.ordered e.ordered
  cases d
  cases e
  cases hpairs
  rfl

/-! ### Entries under some keys -/

/-- A dictionary has just the entries that another one has under certain keys. -/
def EntriesAt (d : Dict α) (met : List String) (e : Dict α) : Prop :=
  ∀ key value, e.get? key = some value ↔ key ∈ met ∧ d.get? key = some value

theorem entriesAt_nil (d : Dict α) : d.EntriesAt [] empty := fun key value => by
  simp

theorem EntriesAt.insert {met : List String} (h : d.EntriesAt met e)
    (hvalue : d.get? key = some value) : d.EntriesAt (key :: met) (e.insert key value) := by
  intro other value'
  rw [get?_insert, List.mem_cons]
  by_cases hother : key = other
  · subst hother
    simp [hvalue]
  · simp [hother, Ne.symm hother, h other value']

/-- A key of no entry makes no difference. -/
theorem EntriesAt.cons_of_none {met : List String} (h : d.EntriesAt met e)
    (hnone : d.get? key = none) : d.EntriesAt (key :: met) e := by
  intro other value'
  rw [h other value', List.mem_cons]
  refine and_congr_left fun hvalue => (or_iff_right ?_).symm
  rintro rfl
  cases hnone.symm.trans hvalue

/-- Under all its keys a dictionary has all its entries. -/
theorem EntriesAt.eq {met : List String} (h : d.EntriesAt met e)
    (hmet : ∀ key value, d.get? key = some value → key ∈ met) : e = d :=
  eq_of_get? fun key => Option.ext fun value =>
    (h key value).trans (and_iff_right_of_imp (hmet key value))

/-! ### Properties of all values -/

/-- All values of a dictionary have a property. -/
def All (P : α → Prop) (d : Dict α) : Prop :=
  ∀ pair ∈ d.pairs, P pair.2

theorem all_empty (P : α → Prop) : (empty : Dict α).All P :=
  nofun

theorem All.insert {P : α → Prop} (h : d.All P) (hvalue : P value) :
    (d.insert key value).All P := by
  intro pair hpair
  rcases mem_insertPair hpair with rfl | hpair
  · exact hvalue
  · exact h pair hpair

theorem All.imp {P Q : α → Prop} (h : d.All P) (hPQ : ∀ value, P value → Q value) : d.All Q :=
  fun pair hpair => hPQ _ (h pair hpair)

/-! ### Dictionaries of lists -/

/-- A pair of a list of pairs that are put into a dictionary was in the list, or in the
dictionary. -/
theorem mem_foldl_insert {pairs : List (String × α)} {d : Dict α} {pair : String × α}
    (h : pair ∈ (pairs.foldl (fun d (key, value) => d.insert key value) d).pairs) :
    pair ∈ pairs ∨ pair ∈ d.pairs := by
  induction pairs generalizing d with
  | nil => exact .inr h
  | cons head rest ih =>
    rcases ih h with hrest | hinsert
    · exact .inl (List.mem_cons_of_mem _ hrest)
    · rcases mem_insertPair hinsert with rfl | hd
      · exact .inl List.mem_cons_self
      · exact .inr hd

/-- A key of a list of pairs that are put into a dictionary has a value there. -/
theorem isSome_get?_foldl_insert {pairs : List (String × α)} {d : Dict α} {key : String}
    (h : (∃ value, (key, value) ∈ pairs) ∨ (d.get? key).isSome) :
    ((pairs.foldl (fun d (key, value) => d.insert key value) d).get? key).isSome := by
  induction pairs generalizing d with
  | nil => exact h.resolve_left fun ⟨_, hnil⟩ => by cases hnil
  | cons head rest ih =>
    obtain ⟨k, v⟩ := head
    refine ih ?_
    rw [get?_insert]
    by_cases hk : k = key
    · right
      rw [if_pos hk]
      rfl
    · rw [if_neg hk]
      refine h.imp_left fun ⟨value, hmem⟩ => ⟨value, ?_⟩
      exact (List.mem_cons.1 hmem).resolve_left fun heq => hk (Prod.mk.inj heq).1.symm

theorem mem_of_mem_ofList {pairs : List (String × α)} {pair : String × α}
    (h : pair ∈ (ofList pairs).pairs) : pair ∈ pairs :=
  (mem_foldl_insert h).resolve_right List.not_mem_nil

theorem exists_mem_ofList {pairs : List (String × α)} {pair : String × α} (h : pair ∈ pairs) :
    ∃ value, (pair.1, value) ∈ (ofList pairs).pairs := by
  obtain ⟨value, hvalue⟩ := Option.isSome_iff_exists.1
    (isSome_get?_foldl_insert (d := empty) (.inl ⟨pair.2, h⟩))
  exact ⟨value, mem_of_lookup hvalue⟩

/-- A dictionary with one key has one pair. -/
theorem exists_pairs_eq {d : Dict α} {key : String} (hne : d.pairs ≠ [])
    (h : ∀ pair ∈ d.pairs, pair.1 = key) : ∃ value, d.pairs = [(key, value)] := by
  obtain ⟨⟨k, value⟩, rest, hpairs⟩ := List.exists_cons_of_ne_nil hne
  have hk : k = key := h (k, value) (hpairs ▸ List.mem_cons_self)
  subst hk
  refine ⟨value, ?_⟩
  cases rest with
  | nil => exact hpairs
  | cons second rest =>
    have hsecond : second.1 = k := h second (hpairs ▸ List.mem_cons_of_mem _ List.mem_cons_self)
    have hlt := (List.pairwise_cons.1 (hpairs ▸ d.ordered)).1 second List.mem_cons_self
    exact absurd hlt (hsecond ▸ String.lt_irrefl _)

end Dict

end Depot
