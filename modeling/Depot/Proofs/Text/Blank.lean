import Mathlib.Data.List.TakeWhile
import Depot.Text.Blank

/-!
# Trimming and lines

Trimming takes off the blanks that were put around a text, if the text has none at its own ends.
Blanks at an end make no difference to it, and so neither does the carriage return that may stand
before a line feed.

## Main definitions

* `IsGap` : blanks within a line.
* `Text.IsTrimmed` : texts without blanks at their ends.

## Main results

* `Text.trimChars_append` : a text with blanks around it is trimmed to the text.
* `Text.trimChars_concat` : a blank at the end makes no difference.
* `Text.dropReturn_cases` : what is dropped from the end of a line.
-/

namespace Depot

/-- Blanks within a line. -/
structure IsGap (cs : List Char) : Prop where
  blank : ∀ c ∈ cs, Text.isBlank c
  noLineFeed : '\n' ∉ cs

namespace Text

variable {c : Char} {front core back cs : List Char}

/-- A text neither begins nor ends with a blank. -/
structure IsTrimmed (cs : List Char) : Prop where
  head : ∀ c ∈ cs.head?, isBlank c = false
  last : ∀ c ∈ cs.getLast?, isBlank c = false

theorem isTrimmed_of_forall (h : ∀ c ∈ cs, isBlank c = false) : IsTrimmed cs where
  head c hc := h c (List.mem_of_mem_head? hc)
  last c hc := h c (List.mem_of_mem_getLast? hc)

/-- What stands between trimmed texts is not at an end. -/
theorem IsTrimmed.around (hfront : IsTrimmed front) (hback : IsTrimmed back) (hne : front ≠ [])
    (hne' : back ≠ []) (middle : List Char) : IsTrimmed (front ++ middle ++ back) where
  head c hc := by
    obtain ⟨d, front, rfl⟩ := List.exists_cons_of_ne_nil hne
    exact hfront.head c hc
  last c hc := by
    rw [List.getLast?_append, List.getLast?_eq_some_getLast hne', Option.some_or] at hc
    exact hback.last c (List.getLast?_eq_some_getLast hne' ▸ hc)

theorem ne_of_isBlank {d : Char} (hc : isBlank c) (hd : isBlank d = false) : c ≠ d := by
  rintro rfl
  exact Bool.noConfusion (hc.symm.trans hd)

theorem isBlank_of_isDigit (h : c.isDigit) : isBlank c = false := by
  obtain ⟨hge, hle⟩ := Char.isDigit_iff_toNat.1 h
  have hge : 48 ≤ c.toNat := hge
  have hle : c.toNat ≤ 57 := hle
  simp only [isBlank, Bool.or_eq_false_iff, Bool.and_eq_false_iff, decide_eq_false_iff_not,
    beq_eq_false_iff_ne]
  omega

/-! ### Trimming -/

theorem trimLeft_append (h : ∀ c ∈ front, isBlank c) (cs : List Char) :
    trimLeft (front ++ cs) = trimLeft cs :=
  List.dropWhile_append_of_pos h

theorem trimLeft_eq_nil (h : ∀ c ∈ cs, isBlank c) : trimLeft cs = [] :=
  List.dropWhile_eq_nil_iff.2 h

theorem trimLeft_of_head (h : ∀ c ∈ cs.head?, isBlank c = false) : trimLeft cs = cs := by
  cases cs with
  | nil => rfl
  | cons c cs => exact List.dropWhile_cons_of_neg (by simp [h c rfl])

theorem trimRight_append (cs : List Char) (h : ∀ c ∈ back, isBlank c) :
    trimRight (cs ++ back) = trimRight cs := by
  unfold trimRight
  rw [List.reverse_append, trimLeft_append fun c hc => h c (List.mem_reverse.1 hc)]

theorem trimRight_of_last (h : ∀ c ∈ cs.getLast?, isBlank c = false) : trimRight cs = cs := by
  unfold trimRight
  rw [trimLeft_of_head (by simpa using h), List.reverse_reverse]

/-- **A text with blanks around it is trimmed to the text.** -/
theorem trimChars_append (hfront : ∀ c ∈ front, isBlank c) (hback : ∀ c ∈ back, isBlank c)
    (h : IsTrimmed core) : trimChars (front ++ core ++ back) = core := by
  unfold trimChars
  rw [List.append_assoc, trimLeft_append hfront]
  cases core with
  | nil =>
    rw [List.nil_append, trimLeft_eq_nil hback]
    rfl
  | cons c core =>
    have hhead : trimLeft (c :: core ++ back) = c :: core ++ back := trimLeft_of_head h.head
    rw [hhead, trimRight_append _ hback, trimRight_of_last h.last]

/-- A blank at the end makes no difference. -/
theorem trimChars_concat (cs : List Char) (hc : isBlank c) :
    trimChars (cs ++ [c]) = trimChars cs := by
  have hlast : ∀ d ∈ [c], isBlank d := fun d hd => List.mem_singleton.1 hd ▸ hc
  unfold trimChars
  cases hcs : trimLeft cs with
  | nil =>
    have hall := List.dropWhile_eq_nil_iff.1 hcs
    rw [trimLeft_eq_nil fun d hd => (List.mem_append.1 hd).elim (hall d) (hlast d)]
  | cons d rest =>
    unfold trimLeft at hcs ⊢
    rw [List.dropWhile_append, hcs]
    exact trimRight_append _ hlast

theorem trimRight_cons (h : isBlank c = false) (cs : List Char) :
    trimRight (c :: cs) = c :: trimRight cs := by
  unfold trimRight trimLeft
  rw [List.reverse_cons, List.dropWhile_append]
  split
  · next hempty => simp [List.isEmpty_iff.1 hempty, h]
  · simp

/-- Trimming leaves nothing but characters of the text. -/
theorem mem_of_mem_trimChars (h : c ∈ trimChars cs) : c ∈ cs := by
  have hright : c ∈ trimLeft (trimLeft cs).reverse := List.mem_reverse.1 h
  exact (List.dropWhile_sublist _).mem (List.mem_reverse.1 ((List.dropWhile_sublist _).mem hright))

/-- Only blanks are trimmed to nothing. -/
theorem trim_eq_empty_iff {s : String} : trim s = "" ↔ ∀ c ∈ s.toList, isBlank c := by
  rw [trim, String.ofList_eq_empty_iff]
  unfold trimChars trimRight
  rw [List.reverse_eq_nil_iff]
  constructor
  · intro h
    have hall : ∀ c ∈ trimLeft s.toList, isBlank c := fun c hc =>
      List.dropWhile_eq_nil_iff.1 h c (List.mem_reverse.2 hc)
    cases hrest : trimLeft s.toList with
    | nil => exact List.dropWhile_eq_nil_iff.1 hrest
    | cons c rest =>
      have hhead := List.head?_dropWhile_not isBlank s.toList
      unfold trimLeft at hrest hall
      rw [hrest] at hhead hall
      simp [hall c] at hhead
  · intro h
    rw [trimLeft_eq_nil h]
    rfl

/-! ### Ends of lines -/

/-- Only a carriage return is dropped from the end of a line. -/
theorem dropReturn_cases (line : List Char) :
    dropReturn line = line ∨ line = dropReturn line ++ ['\r'] := by
  unfold dropReturn
  split
  · next rest h => exact .inr (by rw [← List.reverse_reverse line, h, List.reverse_cons])
  · exact .inl rfl

end Text

end Depot
