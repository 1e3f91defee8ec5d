/-!
# Computations that may fail

A computation in steps succeeds exactly if all its steps do. What a computation comes to is known
from its value or its fault alone, so that these can be looked for where outcomes as such cannot be
compared.

## Main results

* `bind_eq_ok_iff`, `map_eq_ok_iff` : computations that succeed.
* `eq_ok_of_toOption`, `eq_error_of_swap` : a computation with a known value or fault.
-/

namespace Depot

theorem bind_eq_ok_iff {φ α β : Type} {x : Except φ α} {f : α → Except φ β} {b : β} :
    (x >>= f) = .ok b ↔ ∃ a, x = .ok a ∧ f a = .ok b := by
  cases x with
  | ok a =>
    constructor
    · intro h
      exact ⟨a, rfl, h⟩
    · rintro ⟨_, ⟨⟩, h⟩
      exact h
  | error fault =>
    constructor
    · intro h
      cases h
    · rintro ⟨_, h, -⟩
      cases h

theorem map_eq_ok_iff {φ α β : Type} {x : Except φ α} {f : α → β} {b : β} :
    x.map f = .ok b ↔ ∃ a, x = .ok a ∧ f a = b := by
  cases x <;> simp [Except.map]

theorem eq_ok_of_toOption {φ α : Type} {x : Except φ α} {a : α} (h : x.toOption = some a) :
    x = .ok a := by
  cases x with
  | ok b => rw [Option.some.inj h]
  | error fault => cases h

theorem eq_error_of_swap {φ α : Type} {x : Except φ α} {fault : φ}
    (h : (match x with | .error e => some e | .ok _ => none) = some fault) : x = .error fault := by
  cases x with
  | ok a => cases h
  | error e => rw [Option.some.inj h]

end Depot
