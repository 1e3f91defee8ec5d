import Depot.Number.Binary64

/-!
# JSON values

A number is a natural number, a negative whole number, or a number of the binary64 format. The
members of an object keep the order in which they are listed.

## Main definitions

* `Json` : the values.
-/

namespace Depot

/-- A number in a JSON text. -/
inductive JsonNumber
  | natural (n : Nat)
  /-- The number `-n`, for a positive `n`. -/
  | negative (n : Nat)
  | binary (x : Number.Binary64)
  deriving DecidableEq, Repr

/-- A JSON value. -/
inductive Json
  | null
  | bool (b : Bool)
  | number (n : JsonNumber)
  | text (s : String)
  | array (items : List Json)
  | object (members : List (String × Json))
  deriving Repr, Inhabited

namespace Json

/-- The text if there is one, and null otherwise. -/
def ofText? : Option String → Json
  | some s => text s
  | none => null

/-- A natural number. -/
def ofNat (n : Nat) : Json :=
  number (.natural n)

end Json

end Depot
