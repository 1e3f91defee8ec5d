import Depot.Proofs.Path

/-!
# Cutting texts

What the splitters of texts do to texts that are put together from parts: a cut at a separator gives
the parts back, and a beginning that was put in front is found again.

## Main results

* `Text.splitOnce_append_cons`, `Text.splitOnce_eq_some_iff` : a cut at the first separator.
* `Text.intercalate_splitAll` : the parts between separators, put together again.
* `Text.filterMap_lines` : the lines of a text that is put together from lines.
* `Text.afterBeginning_eq_some_iff` : what follows a beginning.
* `Text.of_forall_ascii` : a property of all ASCII characters, checked one by one.
-/

namespace Depot

namespace Text

/-- What holds of each ASCII character by its number holds of every character below 128. -/
theorem of_forall_ascii {P : Char → Prop} (h : ∀ n < 128, P (Char.ofNat n)) {c : Char}
    (hc : c.toNat < 128) : P c := by
  have hP := h c.toNat hc
  rwa [Char.ofNat_toNat] at hP

/-- What holds of each character of a text, checked one by one along the text. -/
theorem forall_mem_of_all {P : Char → Prop} [DecidablePred P] {cs : List Char}
    (h : cs.all (fun c => decide (P c)) = true) : ∀ c ∈ cs, P c := by
  simpa using h

variable {sep : Char}

/-! ### The first separator -/

theorem splitOnce_of_notMem {cs : List Char} (h : sep ∉ cs) : splitOnce sep cs = none := by
  induction cs with
  | nil => rfl
  | cons c rest ih =>
    rw [List.mem_cons, not_or] at h
    rw [splitOnce, if_neg (Ne.symm h.1), ih h.2]
    rfl

/-- A text without separators in front of a text stays in front of its cut. -/
theorem splitOnce_append {front : List Char} (cs : List Char) (h : sep ∉ front) :
    splitOnce sep (front ++ cs) =
      (splitOnce sep cs).map fun (before, after) => (front ++ before, after) := by
  induction front with
  | nil => simp
  | cons c rest ih =>
    rw [List.mem_cons, not_or] at h
    rw [List.cons_append, splitOnce, if_neg (Ne.symm h.1), ih h.2, Option.map_map]
    rfl

theorem splitOnce_append_cons {front : List Char} (back : List Char) (h : sep ∉ front) :
    splitOnce sep (front ++ sep :: back) = some (front, back) := by
  simp [splitOnce_append _ h, splitOnce]

theorem splitOnce_eq_some_iff {cs front back : List Char} :
    splitOnce sep cs = some (front, back) ↔ sep ∉ front ∧ cs = front ++ sep :: back := by
  refine ⟨fun h => ?_, fun ⟨h, hcs⟩ => hcs ▸ splitOnce_append_cons back h⟩
  induction cs generalizing front with
  | nil => cases h
  | cons c rest ih =>
    unfold splitOnce at h
    split at h
    · next hc =>
      cases h
      exact ⟨List.not_mem_nil, by rw [hc, List.nil_append]⟩
    · next hc =>
      obtain ⟨⟨before, after⟩, hsplit, hpair⟩ := Option.map_eq_some_iff.1 h
      cases hpair
      obtain ⟨hnot, rfl⟩ := ih hsplit
      exact ⟨by simpa [Ne.symm hc] using hnot, rfl⟩

/-- Texts that are cut at the same separator have the same parts. -/
theorem append_sep_inj {front front' back back' : List Char} (h : sep ∉ front) (h' : sep ∉ front') :
    front ++ sep :: back = front' ++ sep :: back' ↔ front = front' ∧ back = back' := by
  refine ⟨fun heq => ?_, fun ⟨hfront, hback⟩ => hfront ▸ hback ▸ rfl⟩
  have hsplit := congrArg (splitOnce sep) heq
  rw [splitOnce_append_cons back h, splitOnce_append_cons back' h'] at hsplit
  exact Prod.mk.inj (Option.some.inj hsplit)

/-- Where a text ends in characters other than the separator, a cut at a separator is a cut of what
stands in front of them. -/
theorem exists_of_append_eq {front back before after : List Char} (h : sep ∉ back)
    (heq : front ++ back = before ++ sep :: after) :
    ∃ between, front = before ++ sep :: between ∧ after = between ++ back := by
  rcases List.append_eq_append_iff.1 heq with ⟨more, -, hback⟩ | ⟨more, hfront, hmore⟩
  · exact absurd (by simp [hback]) h
  · cases more with
    | nil => exact absurd (hmore ▸ List.mem_cons_self : sep ∈ [] ++ back) h
    | cons c more =>
      obtain ⟨rfl, rfl⟩ := List.cons.inj hmore
      exact ⟨more, hfront, rfl⟩

/-! ### All separators -/

/-- The parts between the separators of a text, put together again. -/
theorem intercalate_splitAll (sep : Char) (cs : List Char) :
    [sep].intercalate (splitAll sep cs) = cs := by
  induction cs with
  | nil => simp [splitAll]
  | cons c rest ih =>
    obtain ⟨part, parts, hrest⟩ := List.exists_cons_of_ne_nil (splitAll_ne_nil sep rest)
    by_cases hc : c = sep
    · rw [splitAll, if_pos hc, hrest, List.intercalate_cons_cons, ← hrest, ih, hc]
      rfl
    · rw [splitAll, if_neg hc, hrest]
      rw [hrest] at ih
      cases parts with
      | nil =>
        rw [List.intercalate_singleton] at ih ⊢
        rw [ih]
      | cons next parts =>
        rw [List.intercalate_cons_cons] at ih ⊢
        rw [← ih]
        rfl

theorem intercalate_append {parts more : List (List Char)} (hparts : parts ≠ [])
    (hmore : more ≠ []) :
    [sep].intercalate (parts ++ more) =
      [sep].intercalate parts ++ sep :: [sep].intercalate more := by
  induction parts with
  | nil => exact absurd rfl hparts
  | cons part parts ih =>
    cases parts with
    | nil =>
      obtain ⟨next, rest, rfl⟩ := List.exists_cons_of_ne_nil hmore
      rw [List.singleton_append, List.intercalate_cons_cons, List.intercalate_singleton,
        List.append_assoc, List.singleton_append]
    | cons next parts =>
      rw [List.cons_append, List.cons_append, List.intercalate_cons_cons, ← List.cons_append,
        ih (List.cons_ne_nil _ _), List.intercalate_cons_cons]
      simp only [List.append_assoc]

/-- Parts that are put together become what they become one by one, put together. -/
theorem flatMap_intercalate {β : Type} (f : Char → List β) (parts : List (List Char)) :
    ([sep].intercalate parts).flatMap f = (f sep).intercalate (parts.map (·.flatMap f)) := by
  induction parts with
  | nil => rfl
  | cons part rest ih =>
    cases rest with
    | nil => simp
    | cons next rest =>
      rw [List.intercalate_cons_cons, List.flatMap_append, List.flatMap_append,
        List.flatMap_singleton, ih]
      simp only [List.map_cons, List.intercalate_cons_cons]

theorem infix_intercalate {parts : List (List Char)} {part : List Char} (h : part ∈ parts) :
    part <:+: [sep].intercalate parts := by
  induction parts with
  | nil => cases h
  | cons first rest ih =>
    cases rest with
    | nil => simp [List.mem_singleton.1 h]
    | cons next rest =>
      rw [List.intercalate_cons_cons]
      rcases List.mem_cons.1 h with rfl | hmem
      · rw [List.append_assoc]
        exact (List.prefix_append _ _).isInfix
      · exact (ih hmem).trans (List.suffix_append _ _).isInfix

theorem infix_of_mem_splitAll {cs part : List Char} (h : part ∈ splitAll sep cs) : part <:+: cs :=
  intercalate_splitAll sep cs ▸ infix_intercalate h

theorem mem_of_mem_splitAll {cs part : List Char} (hpart : part ∈ splitAll sep cs) {c : Char}
    (hc : c ∈ part) : c ∈ cs :=
  (infix_of_mem_splitAll hpart).subset hc

/-- A character of parts that are put together is a separator or stands in a part. -/
theorem mem_intercalate {parts : List (List Char)} {c : Char} (h : c ∈ [sep].intercalate parts) :
    c = sep ∨ ∃ part ∈ parts, c ∈ part := by
  induction parts with
  | nil => cases h
  | cons part rest ih =>
    cases rest with
    | nil => exact .inr ⟨part, List.mem_cons_self, by simpa using h⟩
    | cons next rest =>
      rw [List.intercalate_cons_cons, List.append_assoc] at h
      rcases List.mem_append.1 h with hc | hc
      · exact .inr ⟨part, List.mem_cons_self, hc⟩
      · rcases List.mem_append.1 hc with hc | hc
        · exact .inl (List.mem_singleton.1 hc)
        · rcases ih hc with hslash | ⟨p, hp, hmem⟩
          · exact .inl hslash
          · exact .inr ⟨p, List.mem_cons_of_mem _ hp, hmem⟩

/-- A text without separators in front of a text stays in front of its first part. -/
theorem splitAll_append_of_notMem {front cs part : List Char} {parts : List (List Char)}
    (h : sep ∉ front) (hcs : splitAll sep cs = part :: parts) :
    splitAll sep (front ++ cs) = (front ++ part) :: parts := by
  induction front with
  | nil => exact hcs
  | cons c front ih =>
    rw [List.mem_cons, not_or] at h
    rw [List.cons_append, splitAll, if_neg (Ne.symm h.1), ih h.2]
    rfl

/-- Where separators are written as themselves, and nothing else is written with one, a text is
written part by part. -/
theorem splitAll_flatMap {f : Char → List Char} (hsep : f sep = [sep])
    (hother : ∀ c, c ≠ sep → sep ∉ f c) (cs : List Char) :
    splitAll sep (cs.flatMap f) = (splitAll sep cs).map fun part => part.flatMap f := by
  induction cs with
  | nil => rfl
  | cons c cs ih =>
    obtain ⟨part, parts, hparts⟩ := List.exists_cons_of_ne_nil (splitAll_ne_nil sep cs)
    rw [List.flatMap_cons]
    by_cases hc : c = sep
    · rw [hc, hsep, List.singleton_append, splitAll, if_pos rfl, ih, splitAll, if_pos rfl]
      rfl
    · rw [hparts, List.map_cons] at ih
      rw [splitAll_append_of_notMem (hother c hc) ih, splitAll, if_neg hc, hparts, List.map_cons,
        List.flatMap_cons]

/-! ### Lines -/

/-- What a function takes from the lines of a text, if an empty line and a carriage return at the
end of a line make no difference to it, is what it takes from the pieces between line feeds. -/
theorem filterMap_linesOfPieces {β : Type} {f : List Char → Option β} (hnil : f [] = none)
    (hreturn : ∀ line, f (dropReturn line) = f line) (pieces : List (List Char)) :
    (linesOfPieces pieces).filterMap f = pieces.filterMap f := by
  induction pieces using linesOfPieces.induct with
  | case1 => rfl
  | case2 last h =>
    obtain rfl := List.isEmpty_iff.1 h
    simp [linesOfPieces, hnil]
  | case3 last h => rw [linesOfPieces, if_neg h]
  | case4 piece pieces hne ih =>
    rw [linesOfPieces, List.filterMap_cons, List.filterMap_cons, hreturn, ih]
    exact hne

theorem filterMap_lines {β : Type} {f : List Char → Option β} (hnil : f [] = none)
    (hreturn : ∀ line, f (dropReturn line) = f line) {lines : List (List Char)}
    (h : ∀ line ∈ lines, '\n' ∉ line) :
    (Text.lines (['\n'].intercalate lines)).filterMap f = lines.filterMap f := by
  unfold Text.lines
  rw [filterMap_linesOfPieces hnil hreturn]
  cases lines with
  | nil => simp [splitAll, hnil]
  | cons line lines => rw [splitAll_intercalate (List.cons_ne_nil _ _) h]

/-! ### Beginnings -/

theorem afterBeginning_append (beginning rest : List Char) :
    afterBeginning beginning (beginning ++ rest) = some rest := by
  induction beginning with
  | nil => rfl
  | cons c beginning ih => rw [List.cons_append, afterBeginning, if_pos rfl, ih]

theorem afterBeginning_eq_some_iff {beginning cs rest : List Char} :
    afterBeginning beginning cs = some rest ↔ cs = beginning ++ rest := by
  refine ⟨fun h => ?_, fun h => h ▸ afterBeginning_append beginning rest⟩
  induction beginning generalizing cs with
  | nil => exact Option.some.inj h
  | cons a beginning ih =>
    cases cs with
    | nil => cases h
    | cons c cs =>
      rw [afterBeginning] at h
      split at h
      · next hc => rw [hc, List.cons_append, ih h]
      · cases h

theorem beginsWith_iff {beginning cs : List Char} :
    beginsWith beginning cs = true ↔ ∃ rest, cs = beginning ++ rest := by
  rw [beginsWith, Option.isSome_iff_exists]
  exact exists_congr fun _ => afterBeginning_eq_some_iff

theorem beginsWith_eq_false_iff {beginning cs : List Char} :
    beginsWith beginning cs = false ↔ afterBeginning beginning cs = none := by
  rw [beginsWith, Option.isSome_eq_false_iff, Option.isNone_iff_eq_none]

/-- A beginning without separators is one of the part before the separator. -/
theorem beginsWith_append_cons {beginning front : List Char} (back : List Char)
    (h : sep ∉ beginning) :
    beginsWith beginning (front ++ sep :: back) = beginsWith beginning front := by
  rw [Bool.eq_iff_iff, beginsWith_iff, beginsWith_iff]
  constructor
  · rintro ⟨rest, heq⟩
    rcases List.append_eq_append_iff.1 heq with ⟨more, hbeginning, hback⟩ | ⟨more, hfront, -⟩
    · cases more with
      | nil => exact ⟨[], by simpa using hbeginning.symm⟩
      | cons c more =>
        obtain ⟨rfl, -⟩ := List.cons.inj hback
        exact absurd (by simp [hbeginning]) h
    · exact ⟨more, hfront⟩
  · rintro ⟨rest, rfl⟩
    exact ⟨rest ++ sep :: back, List.append_assoc _ _ _⟩

/-- A beginning up to a separator is all that stands before the first separator. -/
theorem beginsWith_sep_iff {beginning front back : List Char} (hbeginning : sep ∉ beginning)
    (hfront : sep ∉ front) :
    beginsWith (beginning ++ [sep]) (front ++ sep :: back) = true ↔ front = beginning := by
  rw [beginsWith_iff]
  constructor
  · rintro ⟨rest, heq⟩
    rw [List.append_assoc, List.singleton_append] at heq
    have hcut := splitOnce_append_cons back hfront
    rw [heq, splitOnce_append_cons rest hbeginning] at hcut
    exact (congrArg Prod.fst (Option.some.inj hcut)).symm
  · rintro rfl
    exact ⟨back, by simp⟩

end Text

end Depot
