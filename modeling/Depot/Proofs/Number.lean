import Depot.Number.Decimal

/-!
# Numerals

A number has many numerals, one for each count of zeros in front, and its digits are the one of them
that has no zero too many. Reading accepts exactly the numerals, whichever reader it is: a numeral
within the bounds is read as its number, and what is no numeral is not read at all.

## Main definitions

* `Number.IsNumeral` : the runs of digits that denote a number.
* `Number.IsShort` : texts without a superfluous zero in front.

## Main results

* `Number.naturalBelow?_eq_some_iff` : what is read as a number below a bound.
* `Number.digits_eq_iff` : the numeral that is written.
* `Number.signed?_of_isNumeral` : a numeral as a number of a signed word.
-/

namespace Depot.Number

/-- The nonempty runs of ASCII digits that denote a number. -/
structure IsNumeral (cs : List Char) (n : Nat) : Prop where
  ne_nil : cs ≠ []
  isDigit : ∀ c ∈ cs, c.isDigit
  value : Nat.ofDigitChars 10 cs 0 = n

/-- No zero stands in front of other characters. -/
def IsShort (cs : List Char) : Prop :=
  cs.head? = some '0' → cs = ['0']

instance (cs : List Char) : Decidable (IsShort cs) :=
  inferInstanceAs (Decidable (_ → _))

/-- Only digits stand in a numeral. -/
theorem IsNumeral.notMem {cs : List Char} {n : Nat} (h : IsNumeral cs n) {c : Char}
    (hc : c.isDigit = false) : c ∉ cs :=
  fun hmem => Bool.noConfusion (hc.symm.trans (h.isDigit c hmem))

/-! ### Digits -/

theorem digitChar_eq {d : Nat} (h : d < 10) : digitChar d = Nat.digitChar d := by
  decide +revert

/-- The digits of a number are its digits to the base ten. -/
theorem digits_eq (n : Nat) : digits n = Nat.toDigits 10 n := by
  induction n using Nat.strongRecOn with
  | ind n ih =>
    rw [digits, Nat.toDigits_eq_if (by decide)]
    split
    · next h => rw [digitChar_eq h]
    · next h => rw [ih (n / 10) (by omega), digitChar_eq (by omega)]

theorem isNumeral_digits (n : Nat) : IsNumeral (digits n) n where
  ne_nil := digits_eq n ▸ Nat.toDigits_ne_nil
  isDigit _ hc := Nat.isDigit_of_mem_toDigits (by decide) (by decide) (digits_eq n ▸ hc)
  value := digits_eq n ▸ Nat.ofDigitChars_toDigits (by decide) (by decide)

theorem digitValue?_eq_some_iff {c : Char} {d : Nat} :
    digitValue? c = some d ↔ c.isDigit ∧ c.toNat - '0'.toNat = d := by
  have hiff : ('0' ≤ c ∧ c ≤ '9') ↔ c.isDigit := by
    simp [Char.isDigit, Char.le_def]
  unfold digitValue?
  split
  · next h => simp [hiff.1 h]
  · next h => simp [mt hiff.2 h]

theorem toNat_sub_lt {c : Char} (h : c.isDigit) : c.toNat - '0'.toNat < 10 := by
  have hle : c.toNat ≤ '9'.toNat := (Char.isDigit_iff_toNat.1 h).2
  exact Nat.lt_of_le_of_lt (Nat.sub_le_sub_right hle _) (by decide)

theorem digitChar_toNat_sub {c : Char} (h : c.isDigit) :
    Nat.digitChar (c.toNat - '0'.toNat) = c := by
  have hge : '0'.toNat ≤ c.toNat := (Char.isDigit_iff_toNat.1 h).1
  have hlt := toNat_sub_lt h
  apply Char.toNat_inj.1
  rw [Nat.toNat_digitChar_of_lt_ten hlt]
  exact Nat.add_sub_of_le hge

/-! ### The short numeral -/

/-- Further digits of a number that is not zero are its next digits. -/
theorem toDigits_append {cs : List Char} (h : ∀ c ∈ cs, c.isDigit) {value : Nat}
    (hvalue : 0 < value) :
    Nat.toDigits 10 value ++ cs = Nat.toDigits 10 (Nat.ofDigitChars 10 cs value) := by
  induction cs generalizing value with
  | nil => simp
  | cons c cs ih =>
    obtain ⟨hc, hcs⟩ := List.forall_mem_cons.1 h
    have hlast := Nat.toDigits_append_toDigits (by decide) hvalue (toNat_sub_lt hc)
    rw [Nat.toDigits_of_lt_base (toNat_sub_lt hc), digitChar_toNat_sub hc] at hlast
    rw [Nat.ofDigitChars_cons, ← ih hcs (by omega), ← hlast, List.append_assoc]
    rfl

theorem isShort_digits (n : Nat) : IsShort (digits n) := by
  induction n using Nat.strongRecOn with
  | ind n ih =>
    intro hzero
    rw [digits] at hzero ⊢
    split at hzero
    · next h => rw [if_pos h, List.cons.injEq]; exact ⟨Option.some.inj hzero, rfl⟩
    · next h =>
      have hfront : (digits (n / 10)).head? = some '0' := by
        obtain ⟨d, ds, hds⟩ := List.exists_cons_of_ne_nil (isNumeral_digits (n / 10)).ne_nil
        rw [hds] at hzero ⊢
        exact hzero
      have hvalue := (isNumeral_digits (n / 10)).value
      rw [ih (n / 10) (by omega) hfront] at hvalue
      have : n / 10 = 0 := hvalue.symm
      omega

/-- **The numeral that is written** for a number is the one without a superfluous zero. -/
theorem digits_eq_iff {cs : List Char} {n : Nat} (h : IsNumeral cs n) :
    digits n = cs ↔ IsShort cs := by
  refine ⟨fun hcs => hcs ▸ isShort_digits n, fun hshort => ?_⟩
  obtain ⟨hne, hdigits, hvalue⟩ := h
  cases cs with
  | nil => exact absurd rfl hne
  | cons c cs =>
    by_cases hc : c = '0'
    · subst hc
      rw [hshort rfl] at hvalue ⊢
      rw [digits_eq, ← hvalue]
      rfl
    · obtain ⟨hdigit, hcs⟩ := List.forall_mem_cons.1 hdigits
      have hpos : 0 < c.toNat - '0'.toNat := by
        refine Nat.pos_of_ne_zero fun hzero => hc ?_
        rw [← digitChar_toNat_sub hdigit, hzero]
        rfl
      have happend := toDigits_append hcs hpos
      rw [Nat.toDigits_of_lt_base (toNat_sub_lt hdigit), digitChar_toNat_sub hdigit] at happend
      rw [digits_eq, ← hvalue, Nat.ofDigitChars_cons, Nat.mul_zero, Nat.zero_add, ← happend]
      rfl

/-! ### Reading -/

theorem readDigits_eq_some_iff {cs : List Char} {value n : Nat} :
    readDigits value cs = some n ↔
      (∀ c ∈ cs, c.isDigit) ∧ Nat.ofDigitChars 10 cs value = n := by
  induction cs generalizing value with
  | nil => simp [readDigits]
  | cons c cs ih =>
    rw [readDigits, List.forall_mem_cons, Nat.ofDigitChars_cons]
    split
    · next d hd =>
      obtain ⟨hc, rfl⟩ := digitValue?_eq_some_iff.1 hd
      rw [ih, and_assoc]
      exact (and_iff_right hc).symm
    · next hnone =>
      refine iff_of_false nofun fun ⟨⟨hc, _⟩, _⟩ => ?_
      rw [digitValue?_eq_some_iff.2 ⟨hc, rfl⟩] at hnone
      cases hnone

theorem natural?_eq_some_iff {cs : List Char} {n : Nat} :
    natural? cs = some n ↔ IsNumeral cs n := by
  unfold natural?
  split
  · next h => exact iff_of_false nofun fun hn => hn.ne_nil (List.isEmpty_iff.1 h)
  · next h =>
    rw [readDigits_eq_some_iff]
    exact ⟨fun ⟨hdigits, hvalue⟩ => ⟨mt List.isEmpty_iff.2 h, hdigits, hvalue⟩,
      fun hn => ⟨hn.isDigit, hn.value⟩⟩

/-- **What is read as a number below a bound** are the numerals of numbers below it. -/
theorem naturalBelow?_eq_some_iff {bound : Nat} {cs : List Char} {n : Nat} :
    naturalBelow? bound cs = some n ↔ IsNumeral cs n ∧ n < bound := by
  rw [naturalBelow?, Option.filter_eq_some_iff, natural?_eq_some_iff, decide_eq_true_iff]

/-! ### Reading within bounds -/

theorem le_ofDigitChars (cs : List Char) (value : Nat) : value ≤ Nat.ofDigitChars 10 cs value := by
  induction cs generalizing value with
  | nil => exact Nat.le_refl _
  | cons c cs ih =>
    rw [Nat.ofDigitChars_cons]
    exact Nat.le_trans (by omega) (ih _)

theorem readBounded_of_isDigit {bound : Nat} {beyond : SignedFault} {cs : List Char} {value : Nat}
    (h : ∀ c ∈ cs, c.isDigit) (hbound : Nat.ofDigitChars 10 cs value ≤ bound) :
    readBounded bound beyond value cs = .ok (Nat.ofDigitChars 10 cs value) := by
  induction cs generalizing value with
  | nil => rfl
  | cons c cs ih =>
    obtain ⟨hc, hcs⟩ := List.forall_mem_cons.1 h
    rw [Nat.ofDigitChars_cons] at hbound ⊢
    have hle := Nat.le_trans (le_ofDigitChars cs _) hbound
    simp only [readBounded, digitValue?_eq_some_iff.2 ⟨hc, rfl⟩]
    rw [if_neg (Nat.not_lt.2 hle), ih hcs hbound]

/-- **A numeral is read as its number** of a signed word, if it fits. -/
theorem signed?_of_isNumeral {bits : Nat} {cs : List Char} {n : Nat} (h : IsNumeral cs n)
    (hn : n < Nat.pow 2 (bits - 1)) : signed? bits cs = .ok (n : Int) := by
  obtain ⟨hne, hdigits, hvalue⟩ := h
  have hread : readBounded (Nat.pow 2 (bits - 1) - 1) .tooLarge 0 cs = .ok n := by
    rw [readBounded_of_isDigit hdigits, hvalue]
    exact hvalue ▸ Nat.le_sub_one_of_lt hn
  unfold signed?
  split
  · exact absurd (hdigits '-' List.mem_cons_self) (by decide)
  · exact absurd (hdigits '+' List.mem_cons_self) (by decide)
  · rw [if_neg (mt List.isEmpty_iff.1 hne), hread]
    rfl

end Depot.Number
