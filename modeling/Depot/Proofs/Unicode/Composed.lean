import Depot.Unicode.Composed

/-!
# Composed forms of texts that end in ASCII

A character of ASCII has no parts, is no mark, and is not joined to what stands before it. So the
composed form of a text that ends in ASCII characters ends in them, too, behind the composed form
of what stands in front of them.

## Main results

* `Unicode.composed_append` : the composed form of a text that ends in ASCII characters.
-/

namespace Depot.Unicode

theorem combiningClass_of_lt {n : Nat} (h : n < 0x300) : combiningClass n = 0 :=
  if_pos h

theorem join?_of_lt (a : Nat) {b : Nat} (h : b < 0x300) : join? a b = none := by
  rw [join?, if_pos h]

theorem takeApart_of_lt {n : Nat} (h : n < 0xC0) : takeApart n = [n] := by
  have hhangul : ¬ (hangulSyllable ≤ n ∧ n < hangulSyllable + 11172) := by
    simp only [hangulSyllable]
    omega
  rw [takeApart, if_neg hhangul, if_pos h]

theorem takenApart_append (front back : List Nat) :
    takenApart (front ++ back) = takenApart front ++ takenApart back :=
  List.flatMap_append

theorem takenApart_of_lt {ns : List Nat} (h : ∀ n ∈ ns, n < 0xC0) : takenApart ns = ns := by
  induction ns with
  | nil => rfl
  | cons n ns ih =>
    obtain ⟨hn, hns⟩ := List.forall_mem_cons.1 h
    rw [takenApart, List.flatMap_cons, takeApart_of_lt hn, ← takenApart, ih hns,
      List.singleton_append]

variable {back : List Nat}

/-- A mark stays in front of a character that is none. -/
theorem insertMark_append (n : Nat) (hback : ∀ m ∈ back, m < 0x300) (marks : List Nat) :
    insertMark n (marks ++ back) = insertMark n marks ++ back := by
  induction marks with
  | nil =>
    cases back with
    | nil => rfl
    | cons m back =>
      have hm : combiningClass m = 0 := combiningClass_of_lt (hback m List.mem_cons_self)
      simp [insertMark, hm]
  | cons m marks ih =>
    rw [List.cons_append, insertMark, insertMark]
    split
    · rfl
    · rw [ih, List.cons_append]

theorem orderMarks_of_lt {ns : List Nat} (h : ∀ n ∈ ns, n < 0x300) : orderMarks ns = ns := by
  induction ns with
  | nil => rfl
  | cons n ns ih =>
    obtain ⟨hn, hns⟩ := List.forall_mem_cons.1 h
    rw [orderMarks, if_pos (combiningClass_of_lt hn), ih hns]

theorem orderMarks_append (hback : ∀ m ∈ back, m < 0x300) (ns : List Nat) :
    orderMarks (ns ++ back) = orderMarks ns ++ back := by
  induction ns with
  | nil => exact orderMarks_of_lt hback
  | cons n ns ih =>
    rw [List.cons_append, orderMarks, orderMarks, ih]
    split
    · rfl
    · exact insertMark_append n hback _

/-- Nothing is joined to characters in front of the combining marks. -/
theorem joinFrom_of_lt {ns : List Nat} (h : ∀ n ∈ ns, n < 0x300) (starter : Nat)
    (between : List Nat) : joinFrom starter between ns = starter :: between.reverse ++ ns := by
  induction ns generalizing starter between with
  | nil => simp [joinFrom]
  | cons n ns ih =>
    obtain ⟨hn, hns⟩ := List.forall_mem_cons.1 h
    simp [joinFrom, join?_of_lt starter hn, combiningClass_of_lt hn, ih hns]

theorem joinFrom_append (hback : ∀ m ∈ back, m < 0x300) (ns : List Nat) (starter : Nat)
    (between : List Nat) :
    joinFrom starter between (ns ++ back) = joinFrom starter between ns ++ back := by
  induction ns generalizing starter between with
  | nil => simp [joinFrom_of_lt hback, joinFrom]
  | cons n ns ih =>
    simp only [List.cons_append, joinFrom, ih]
    split
    · rfl
    · split
      · rw [List.cons_append, List.append_assoc]
      · rfl

theorem joinAll_of_lt {ns : List Nat} (h : ∀ n ∈ ns, n < 0x300) : joinAll ns = ns := by
  cases ns with
  | nil => rfl
  | cons n ns =>
    obtain ⟨hn, hns⟩ := List.forall_mem_cons.1 h
    rw [joinAll, if_pos (combiningClass_of_lt hn), joinFrom_of_lt hns]
    rfl

theorem joinAll_append (hback : ∀ m ∈ back, m < 0x300) (ns : List Nat) :
    joinAll (ns ++ back) = joinAll ns ++ back := by
  induction ns with
  | nil => exact joinAll_of_lt hback
  | cons n ns ih =>
    rw [List.cons_append, joinAll, joinAll]
    split
    · exact joinFrom_append hback ns n []
    · rw [ih, List.cons_append]

/-- **The composed form of a text that ends in ASCII characters** is that of what stands in front
of them, and then these characters. -/
theorem composed_append (cs : List Char) {back : List Char} (hback : ∀ c ∈ back, c.toNat < 128) :
    composed (cs ++ back) = composed cs ++ back := by
  have hcodes : ∀ bound, 128 ≤ bound → ∀ n ∈ back.map Char.toNat, n < bound := by
    intro bound hbound n hn
    obtain ⟨c, hc, rfl⟩ := List.mem_map.1 hn
    have := hback c hc
    omega
  have hsmall : back.all (fun c => decide (c.toNat < 0x300)) = true := by
    rw [List.all_eq_true]
    intro c hc
    have := hback c hc
    simp only [decide_eq_true_eq]
    omega
  have hchars : (back.map Char.toNat).map Char.ofNat = back := by
    simp [List.map_map, Function.comp_def]
  unfold composed
  rw [List.all_append, hsmall, Bool.and_true]
  split
  · rfl
  · rw [List.map_append, takenApart_append, takenApart_of_lt (hcodes 0xC0 (by omega)),
      orderMarks_append (hcodes 0x300 (by omega)), joinAll_append (hcodes 0x300 (by omega)),
      List.map_append, hchars]

end Depot.Unicode
