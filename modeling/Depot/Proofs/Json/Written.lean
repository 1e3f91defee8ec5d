import Depot.Proofs.Json.Lexing
import Depot.Proofs.Json.Spelling

/-!
# Written values are spelled

The text of a value is cut into the tokens of a spelling of it, on one line and over several lines
alike, if the numbers in it are read back from their own texts. Both texts have the same pieces
between the same marks, with other blanks about them.

## Main definitions

* `Json.IsMark` : characters that are tokens by themselves.
* `Json.Writes` : pieces of a text that write a value.

## Main results

* `Json.lexes_between` : pieces with commas between them, between two marks.
* `Json.writes_array`, `Json.writes_object` : arrays and objects, with any blanks about their parts.
* `Json.writes_compact`, `Json.writes_pretty` : the two texts of a value.
-/

namespace Depot.Json

variable {cs : List Char} {ts : List Token} {c : Char} {t : Token} {v : Json}

/-- A character that is a token by itself. -/
structure IsMark (c : Char) (t : Token) : Prop where
  isSpace : isSpace c = false
  lexToken : ∀ fuel cs, lexToken fuel c cs = (t, some cs)
  isBreak : IsBreak c

theorem isMark_comma : IsMark ',' .comma :=
  ⟨rfl, fun _ _ => rfl, by decide⟩

theorem isMark_colon : IsMark ':' .colon :=
  ⟨rfl, fun _ _ => rfl, by decide⟩

theorem isMark_openArray : IsMark '[' .openArray :=
  ⟨rfl, fun _ _ => rfl, by decide⟩

theorem isMark_closeArray : IsMark ']' .closeArray :=
  ⟨rfl, fun _ _ => rfl, by decide⟩

theorem isMark_openObject : IsMark '\x7b' .openObject :=
  ⟨rfl, fun _ _ => rfl, by decide⟩

theorem isMark_closeObject : IsMark '\x7d' .closeObject :=
  ⟨rfl, fun _ _ => rfl, by decide⟩

theorem isBreak_of_isSpace (h : isSpace c) : IsBreak c := by
  simp only [isSpace, Bool.or_eq_true, beq_iff_eq] at h
  rcases h with ((rfl | rfl) | rfl) | rfl <;> decide

/-- Characters that are blanks. -/
def Blanks (cs : List Char) : Prop :=
  ∀ c ∈ cs, isSpace c

theorem blanks_nil : Blanks [] :=
  nofun

/-- Blanks and a mark after them end a number. -/
theorem Blanks.ends {blanks : List Char} (hblanks : Blanks blanks) (hc : IsMark c t)
    (rest : List Char) : EndsNumber (blanks ++ c :: rest) := by
  cases blanks with
  | nil => exact endsNumber_cons hc.isBreak rest
  | cons blank blanks =>
    exact endsNumber_cons (isBreak_of_isSpace (hblanks blank List.mem_cons_self)) _

theorem intercalate_cons (sep cs : List Char) (css : List (List Char)) :
    sep.intercalate (cs :: css) = cs ++ css.flatMap (sep ++ ·) := by
  induction css generalizing cs with
  | nil => simp
  | cons cs' css ih =>
    rw [List.intercalate_cons_cons, ih, List.flatMap_cons, List.append_assoc, List.append_assoc]

/-- Pieces behind others and a mark after them end a number. -/
theorem endsNumber_more (css : List (List Char)) {sep closing : List Char}
    (hclosing : Blanks closing) (hc : IsMark c t) (rest : List Char) :
    EndsNumber (css.flatMap ((',' :: sep) ++ ·) ++ (closing ++ [c]) ++ rest) := by
  cases css with
  | nil => simpa using hclosing.ends hc rest
  | cons cs css => exact endsNumber_cons isMark_comma.isBreak _

/-- Pieces behind others, up to a mark. -/
theorem lexes_more {css : List (List Char)} {tss : List (List Token)}
    (h : List.Forall₂ Lexes css tss) {sep closing : List Char} (hsep : Blanks sep)
    (hclosing : Blanks closing) (hc : IsMark c t) :
    Lexes (css.flatMap ((',' :: sep) ++ ·) ++ (closing ++ [c])) (joined false tss ++ [t]) := by
  induction h with
  | nil =>
    have hmark : Lexes [c] [t] := lexes_token hc.isSpace fun rest _ fuel _ => hc.lexToken fuel rest
    exact hmark.blanks hclosing
  | @cons cs ts css tss hcs h ih =>
    have hpiece := hcs.append ih (endsNumber_more css hclosing hc)
    simpa [joined] using (hpiece.blanks hsep).cons isMark_comma.isSpace isMark_comma.lexToken

/-- **Pieces between two marks.** -/
theorem lexes_between {css : List (List Char)} {tss : List (List Token)} {first : Char}
    {opener : Token} (h : List.Forall₂ Lexes css tss) (hfirst : IsMark first opener)
    {opening sep closing : List Char} (hopening : Blanks opening) (hsep : Blanks sep)
    (hclosing : Blanks closing) (hc : IsMark c t) :
    Lexes (first :: (opening ++ ((',' :: sep).intercalate css ++ (closing ++ [c]))))
      (opener :: joined true tss ++ [t]) := by
  refine Lexes.cons (Lexes.blanks ?_ hopening) hfirst.isSpace hfirst.lexToken
  cases h with
  | nil => simpa [joined] using lexes_more .nil hsep hclosing hc
  | @cons cs ts css tss hcs h =>
    have hpieces :=
      hcs.append (lexes_more h hsep hclosing hc) (endsNumber_more css hclosing hc)
    simpa [joined, intercalate_cons] using hpieces

/-! ### Values -/

/-- Characters write a value: they are cut into a spelling of it. -/
def Writes (cs : List Char) (v : Json) : Prop :=
  ∃ ts, v.Spells ts ∧ Lexes cs ts

theorem Writes.spells_tokens {s : String} (h : Writes s.toList v) : v.Spells (tokens s) := by
  obtain ⟨ts, hts, hlex⟩ := h
  rw [hlex.tokens_eq]
  exact hts

theorem writes_array {items : List Json} (write : Json → List Char)
    (h : ∀ item ∈ items, Writes (write item) item) {opening sep closing : List Char}
    (hopening : Blanks opening) (hsep : Blanks sep) (hclosing : Blanks closing) :
    Writes ('[' :: (opening ++ ((',' :: sep).intercalate (items.map write) ++ (closing ++ [']']))))
      (.array items) := by
  obtain ⟨pieces, hpieces⟩ := exists_forall₂ h
  refine ⟨_, .array (hpieces.imp fun _ _ h => h.1), ?_⟩
  exact lexes_between (List.forall₂_map_left_iff.2 (hpieces.imp fun _ _ h => h.2))
    isMark_openArray hopening hsep hclosing isMark_closeArray

/-- The characters of a member of an object, with blanks after the colon. -/
def memberChars (blanks : List Char) (write : Json → List Char) (member : String × Json) :
    List Char :=
  (quotedText member.1).toList ++ ':' :: (blanks ++ write member.2)

theorem lexes_memberChars {blanks : List Char} (hblanks : Blanks blanks) {write : Json → List Char}
    {member : String × Json} (h : Lexes (write member.2) ts) :
    Lexes (memberChars blanks write member) (memberTokens member.1 ts) :=
  (lexes_quotedText member.1).append
    ((h.blanks hblanks).cons isMark_colon.isSpace isMark_colon.lexToken)
    fun _ => endsNumber_cons isMark_colon.isBreak _

theorem writes_object {members : List (String × Json)} (write : Json → List Char)
    (h : ∀ member ∈ members, Writes (write member.2) member.2)
    {opening colon sep closing : List Char} (hopening : Blanks opening) (hcolon : Blanks colon)
    (hsep : Blanks sep) (hclosing : Blanks closing) :
    Writes ('{' :: (opening ++ ((',' :: sep).intercalate (members.map (memberChars colon write)) ++
      (closing ++ ['}'])))) (.object members) := by
  obtain ⟨pieces, hpieces⟩ := exists_forall₂ h
  have hmembers : List.Forall₂ Lexes (members.map (memberChars colon write))
      (List.zipWith memberTokens (members.map Prod.fst) pieces) := by
    clear h
    induction hpieces with
    | nil => exact .nil
    | cons h _ ih => exact .cons (lexes_memberChars hcolon h.2) ih
  have hvalues : List.Forall₂ Spells (members.map Prod.snd) pieces :=
    List.forall₂_map_left_iff.2 (hpieces.imp fun _ _ h => h.1)
  exact ⟨_, .object (List.Perm.refl members) hvalues,
    lexes_between hmembers isMark_openObject hopening hsep hclosing isMark_closeObject⟩

/-! ### Values on one line -/

theorem toList_compactItems (items : List Json) :
    (compactItems items).map String.toList = items.map fun v => v.compact.toList := by
  induction items with
  | nil => rfl
  | cons item items ih => rw [compactItems, List.map_cons, ih, List.map_cons]

theorem toList_compactMembers (members : List (String × Json)) :
    (compactMembers members).map String.toList =
      members.map (memberChars [] fun v => v.compact.toList) := by
  induction members with
  | nil => rfl
  | cons member members ih =>
    rw [compactMembers, List.map_cons, ih, List.map_cons]
    simp [memberChars]

/-- A word is a value if its first character begins a token that is the word. -/
theorem writes_word {w : String} {ws : List Char} (hw : w.toList = c :: ws)
    (hspells : v.Spells [t]) (hspace : isSpace c = false)
    (h : ∀ fuel rest, lexToken fuel c (ws ++ rest) = (t, some rest)) : Writes w.toList v := by
  rw [hw]
  exact ⟨_, hspells, lexes_token hspace fun rest _ fuel _ => h fuel rest⟩

/-- **A value on one line** is cut into a spelling of it, if its numbers are read back. -/
theorem writes_compact (h : v.AllNumbers Rereads) : Writes v.compact.toList v := by
  induction h with
  | null => exact writes_word rfl .null rfl fun _ _ => rfl
  | bool b =>
    cases b with
    | false => exact writes_word rfl (.bool false) rfl fun _ _ => rfl
    | true => exact writes_word rfl (.bool true) rfl fun _ _ => rfl
  | text s => 
    rw [compact]
    exact ⟨_, .text s, lexes_quotedText s⟩
  | number h =>
    obtain ⟨l, hl, hvalue⟩ := h
    rw [compact]
    exact ⟨_, .number hvalue, hl.lexes⟩
  | @array items h ih =>
    have hwrites := writes_array (fun v => v.compact.toList) ih blanks_nil blanks_nil blanks_nil
    simpa [compact, String.toList_intercalate, toList_compactItems] using hwrites
  | @object members h ih =>
    have hwrites :=
      writes_object (fun v => v.compact.toList) ih blanks_nil blanks_nil blanks_nil blanks_nil
    simpa [compact, String.toList_intercalate, toList_compactMembers] using hwrites

/-! ### Values over several lines -/

theorem blanks_lineBreak (level : Nat) : Blanks (lineBreak level).toList := by
  rw [lineBreak, String.toList_ofList]
  intro c hc
  rcases List.mem_cons.1 hc with rfl | hc
  · rfl
  · rw [List.eq_of_mem_replicate hc]
    rfl

theorem toList_prettyItems (level : Nat) (items : List Json) :
    (prettyItems level items).map String.toList = items.map fun v => (prettyAt level v).toList := by
  induction items with
  | nil => rfl
  | cons item items ih => rw [prettyItems, List.map_cons, ih, List.map_cons]

theorem toList_prettyMembers (level : Nat) (members : List (String × Json)) :
    (prettyMembers level members).map String.toList =
      members.map (memberChars [' '] fun v => (prettyAt level v).toList) := by
  induction members with
  | nil => rfl
  | cons member members ih =>
    rw [prettyMembers, List.map_cons, ih, List.map_cons]
    simp [memberChars]

/-- Laid out parts are parts between marks with blanks about them, and nothing is between the marks
when there are no parts. -/
theorem toList_laidOut (opening closing : String) (level : Nat) (parts : List String) :
    ∃ front back, Blanks front ∧ Blanks back ∧
      (laidOut opening closing level parts).toList =
        opening.toList ++ (front ++
          ((',' :: (lineBreak (level + 1)).toList).intercalate (parts.map String.toList) ++
            (back ++ closing.toList))) := by
  cases parts with
  | nil => exact ⟨[], [], blanks_nil, blanks_nil, by simp [laidOut]⟩
  | cons part parts =>
    refine ⟨(lineBreak (level + 1)).toList, (lineBreak level).toList, blanks_lineBreak _,
      blanks_lineBreak _, ?_⟩
    simp [laidOut, String.toList_intercalate]

/-- **A value over several lines** is cut into a spelling of it, if its numbers are read back. -/
theorem writes_prettyAt (h : v.AllNumbers Rereads) (level : Nat) :
    Writes (prettyAt level v).toList v := by
  induction h generalizing level with
  | null => exact writes_compact .null
  | bool b => exact writes_compact (.bool b)
  | text s => exact writes_compact (.text s)
  | number h => exact writes_compact (.number h)
  | @array items h ih =>
    obtain ⟨front, back, hfront, hback, heq⟩ :=
      toList_laidOut "[" "]" level (prettyItems (level + 1) items)
    rw [prettyAt, heq, toList_prettyItems]
    exact writes_array (fun v => (prettyAt (level + 1) v).toList)
      (fun item hitem => ih item hitem (level + 1)) hfront (blanks_lineBreak (level + 1)) hback
  | @object members h ih =>
    obtain ⟨front, back, hfront, hback, heq⟩ :=
      toList_laidOut "\x7b" "\x7d" level (prettyMembers (level + 1) members)
    have hcolon : Blanks [' '] := by simp [Blanks, isSpace]
    rw [prettyAt, heq, toList_prettyMembers]
    exact writes_object (fun v => (prettyAt (level + 1) v).toList)
      (fun member hmember => ih member hmember (level + 1)) hfront hcolon
      (blanks_lineBreak (level + 1)) hback

theorem writes_pretty (h : v.AllNumbers Rereads) : Writes v.pretty.toList v :=
  writes_prettyAt h 0

end Depot.Json
