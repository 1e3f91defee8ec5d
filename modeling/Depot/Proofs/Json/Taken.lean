import Depot.Proofs.Except
import Depot.Proofs.Json.Spelling

/-!
# What readers take

Some properties hold of all that a reader takes, from whatever tokens. The readers of parts hand
them on to the readers of the whole: what the elements of an array have in common, and what every
member of an object keeps. In particular the values that are taken are legible and their numbers are
denoted, so that they have spellings and are read from them as they are.

## Main definitions

* `Json.Gives` : all that a reader takes has a property.

## Main results

* `Json.gives_readMembers`, `Json.gives_readElements` : the members of an object and the elements
  of an array.
* `Json.gives_readValue` : values that are taken are legible.
-/

namespace Depot.Json

variable {α β σ : Type} {P : α → Prop} {read : Reader α} {depth : Nat}

/-- All that a reader takes has a property. -/
def Gives (read : Reader α) (P : α → Prop) : Prop :=
  ∀ ts a rest, read ts = .ok (a, rest) → P a

theorem gives_ok {a : α} (h : P a) : Gives (fun ts => .ok (a, ts)) P := by
  rintro ts a' rest ⟨⟩
  exact h

/-- Taking one thing after the other. -/
theorem Gives.bind {Q : β → Prop} {next : α → Reader β} (h : Gives read P)
    (hnext : ∀ a, P a → Gives (next a) Q) :
    Gives (fun ts => do
      let (a, rest) ← read ts
      next a rest) Q := by
  intro ts b rest hread
  obtain ⟨⟨a, rest'⟩, ha, hb⟩ := bind_eq_ok_iff.1 hread
  exact hnext a (h _ _ _ ha) _ _ _ hb

theorem Gives.of_readAll {ts : List Token} {a : α} (h : Gives read P)
    (hread : readAll read ts = .ok a) : P a := by
  obtain ⟨⟨b, rest⟩, hb, hall⟩ := bind_eq_ok_iff.1 hread
  dsimp only at hall
  split_ifs at hall with hrest
  cases hall
  exact h _ _ _ hb

/-! ### Arrays -/

theorem gives_readElement (h : Gives read P) (first : Bool) :
    Gives (readElement read first) fun o => ∀ a, o = some a → P a := by
  intro ts o rest hread
  obtain ⟨⟨more, rest'⟩, -, hread⟩ := bind_eq_ok_iff.1 hread
  cases more with
  | true =>
    obtain ⟨⟨a, rest'⟩, ha, hread⟩ := bind_eq_ok_iff.1 hread
    cases hread
    rintro _ ⟨⟩
    exact h _ _ _ ha
  | false =>
    cases hread
    nofun

theorem gives_readElementsFrom (h : Gives read P) (fuel : Nat) (first : Bool) :
    Gives (readElementsFrom read fuel first) fun as => ∀ a ∈ as, P a := by
  induction fuel generalizing first with
  | zero => nofun
  | succ fuel ih =>
    intro ts as rest hread
    obtain ⟨⟨element, rest'⟩, helement, hread⟩ := bind_eq_ok_iff.1 hread
    cases element with
    | none =>
      cases hread
      nofun
    | some a =>
      obtain ⟨⟨as', rest''⟩, has, hread⟩ := bind_eq_ok_iff.1 hread
      cases hread
      exact List.forall_mem_cons.2
        ⟨gives_readElement h first _ _ _ helement a rfl, ih false _ _ _ has⟩

/-- **The elements of an array** have what one of them has. -/
theorem gives_readElements (h : Gives read P) :
    Gives (readElements read) fun as => ∀ a ∈ as, P a := by
  intro ts as rest hread
  obtain ⟨⟨as', rest'⟩, has, hread⟩ := bind_eq_ok_iff.1 hread
  obtain ⟨⟨⟨⟩, rest''⟩, -, hread⟩ := bind_eq_ok_iff.1 hread
  cases hread
  exact gives_readElementsFrom h _ _ _ _ _ has

/-! ### Objects -/

theorem gives_afterColon (h : Gives read P) : Gives (afterColon read) P := by
  intro ts a rest hread
  unfold afterColon at hread
  split at hread
  · exact h _ _ _ hread
  · cases hread
  · cases hread

theorem gives_readField (h : Gives read P) (field : Option α) :
    Gives (readField field read) fun o => ∀ a, o = some a → P a := by
  cases field with
  | some _ => nofun
  | none =>
    refine (gives_afterColon h).bind fun a ha => gives_ok ?_
    rintro _ ⟨⟩
    exact ha

theorem gives_readMembersFrom {step : String → σ → Reader σ} {I : σ → Prop}
    (hstep : ∀ key state, I state → Gives (step key state) I) (fuel : Nat) (first : Bool)
    {state : σ} (h : I state) : Gives (readMembersFrom step fuel first state) I := by
  induction fuel generalizing first state with
  | zero => nofun
  | succ fuel ih =>
    intro ts last rest hread
    obtain ⟨⟨key, rest'⟩, -, hread⟩ := bind_eq_ok_iff.1 hread
    cases key with
    | none =>
      cases hread
      exact h
    | some key =>
      obtain ⟨⟨next, rest''⟩, hnext, hread⟩ := bind_eq_ok_iff.1 hread
      exact ih false (hstep key state h _ _ _ hnext) _ _ _ hread

/-- **The members of an object** keep what each of them keeps. -/
theorem gives_readMembers {step : String → σ → Reader σ} {I : σ → Prop}
    (hstep : ∀ key state, I state → Gives (step key state) I) {state : σ} (h : I state) :
    Gives (readMembers step state) I :=
  fun ts => gives_readMembersFrom hstep _ _ h ts

/-- The members of a dictionary. -/
theorem gives_readMembers_readEntry (h : Gives read P) :
    Gives (readMembers (readEntry read) Dict.empty) (Dict.All P) :=
  gives_readMembers (fun _ _ hd => (gives_afterColon h).bind fun _ ha => gives_ok (hd.insert ha))
    (Dict.all_empty P)

theorem gives_readDict {read : Nat → Reader α} (h : Gives (read depth) P) :
    Gives (readDict read (depth + 1)) (Dict.All P) := by
  intro ts d rest hread
  cases ts with
  | nil => cases hread
  | cons t ts =>
    cases t with
    | openObject => exact gives_readMembers_readEntry h _ _ _ hread
    | _ => cases hread

theorem gives_readRecord {ofArray ofObject : Nat → Reader α} (harray : Gives (ofArray depth) P)
    (hobject : Gives (ofObject depth) P) : Gives (readRecord ofArray ofObject (depth + 1)) P := by
  intro ts a rest hread
  cases ts with
  | nil => cases hread
  | cons t ts =>
    cases t with
    | openArray =>
      obtain ⟨⟨a', rest'⟩, ha, hread⟩ := bind_eq_ok_iff.1 hread
      obtain ⟨⟨⟨⟩, rest''⟩, -, hread⟩ := bind_eq_ok_iff.1 hread
      cases hread
      exact harray _ _ _ ha
    | openObject => exact hobject _ _ _ hread
    | _ => cases hread

/-! ### Values -/

/-- **Values that are taken are legible,** and their numbers are denoted. -/
theorem gives_readValue (depth : Nat) :
    Gives (readValue depth) fun v => v.Legible depth ∧ v.AllNumbers IsDenoted := by
  induction depth using Nat.strongRecOn with
  | ind depth ih =>
    intro ts v rest hread
    unfold readValue at hread
    split at hread
    · cases hread
      exact ⟨.null, .null⟩
    · cases hread
      exact ⟨.bool _, .bool _⟩
    · cases hread
      exact ⟨.text _, .text _⟩
    · next l rest' =>
      cases hvalue : l.value? with
      | none =>
        rw [hvalue] at hread
        cases hread
      | some n =>
        rw [hvalue] at hread
        cases hread
        exact ⟨.number n, .number ⟨l, hvalue⟩⟩
    · cases depth with
      | zero => cases hread
      | succ depth =>
        obtain ⟨⟨items, rest'⟩, hitems, hread⟩ := bind_eq_ok_iff.1 hread
        cases hread
        have h := gives_readElements (ih depth depth.lt_succ_self) _ _ _ hitems
        exact ⟨.array fun item hitem => (h item hitem).1, .array fun item hitem => (h item hitem).2⟩
    · cases depth with
      | zero => cases hread
      | succ depth =>
        obtain ⟨⟨members, rest'⟩, hmembers, hread⟩ := bind_eq_ok_iff.1 hread
        cases hread
        have h := gives_readMembers_readEntry (ih depth depth.lt_succ_self) _ _ _ hmembers
        exact ⟨.object members.ordered fun member hmember => (h member hmember).1,
          .object fun member hmember => (h member hmember).2⟩
    · cases hread

end Depot.Json
