import Mathlib.Data.List.TakeDrop
import Mathlib.Data.List.TakeWhile
import Depot.Json.Printer
import Depot.Json.Token
import Depot.Proofs.Number

/-!
# Pieces that are cut into tokens

A text is cut into tokens from left to right, and where a token ends depends on what follows only
for numbers: a digit, a point or the mark of an exponent would go on with the number. So a piece of
a text is cut into the same tokens wherever something else follows, and pieces are put together as
long as no number is followed by one of these.

The pieces that values are written with are all of this kind. A whole number that is denoted by some
digits is read back from the digits it is written in, and a text between quotes from its characters
with their escapes.

## Main definitions

* `Json.IsBreak`, `Json.EndsNumber` : what may follow a number.
* `Json.Lexes` : a piece is cut into tokens.
* `Json.IsLiteral` : pieces that are a number.
* `Json.Rereads` : numbers that are read back from their own texts.

## Main results

* `Json.Lexes.append` : pieces that are put together.
* `Json.lexNumber_append` : a number stays the same when something else follows.
* `Json.IsLiteral.lexes`, `Json.lexes_quotedText` : numbers and texts between quotes.
* `Json.RereadsBinary.of_value?` : whole numbers that are denoted are read back.
-/

namespace Depot.Json

variable {cs cs' rest : List Char} {ts ts' : List Token} {c : Char} {t : Token} {negative : Bool}

/-! ### Pieces of a text -/

/-- A character that does not go on with a number. -/
def IsBreak (c : Char) : Prop :=
  c.isDigit = false ∧ c ≠ '.' ∧ c ≠ 'e' ∧ c ≠ 'E'

instance (c : Char) : Decidable (IsBreak c) :=
  inferInstanceAs (Decidable (_ ∧ _ ∧ _ ∧ _))

/-- A number that stands in front ends there. -/
def EndsNumber (rest : List Char) : Prop :=
  ∀ c ∈ rest.head?, IsBreak c

theorem endsNumber_nil : EndsNumber [] :=
  nofun

theorem endsNumber_cons (hc : IsBreak c) (cs : List Char) : EndsNumber (c :: cs) := by
  rintro _ ⟨⟩
  exact hc

/-- Characters are cut into tokens, whatever follows that ends a number. -/
def Lexes (cs : List Char) (ts : List Token) : Prop :=
  ∀ rest, EndsNumber rest → ∀ fuel, (cs ++ rest).length ≤ fuel →
    ∃ left, rest.length ≤ left ∧ tokensFrom fuel (cs ++ rest) = ts ++ tokensFrom left rest

theorem tokensFrom_nil (fuel : Nat) : tokensFrom fuel [] = [] := by
  cases fuel <;> rfl

theorem Lexes.tokens_eq {s : String} (h : Lexes s.toList ts) : tokens s = ts := by
  obtain ⟨left, -, heq⟩ := h [] endsNumber_nil s.toList.length (by simp)
  rw [List.append_nil, tokensFrom_nil, List.append_nil] at heq
  exact heq

theorem Lexes.append (h : Lexes cs ts) (h' : Lexes cs' ts')
    (hends : ∀ rest, EndsNumber (cs' ++ rest)) : Lexes (cs ++ cs') (ts ++ ts') := by
  intro rest hrest fuel hfuel
  rw [List.append_assoc] at hfuel ⊢
  obtain ⟨left, hleft, heq⟩ := h (cs' ++ rest) (hends rest) fuel hfuel
  obtain ⟨left', hleft', heq'⟩ := h' rest hrest left hleft
  exact ⟨left', hleft', by rw [heq, heq', List.append_assoc]⟩

/-- A token that ends where it ends, whatever follows. -/
theorem lexes_token (hspace : isSpace c = false)
    (h : ∀ rest, EndsNumber rest → ∀ fuel, (c :: cs ++ rest).length ≤ fuel →
      lexToken fuel c (cs ++ rest) = (t, some rest)) : Lexes (c :: cs) [t] := by
  intro rest hrest fuel hfuel
  cases fuel with
  | zero => cases hfuel
  | succ fuel =>
    refine ⟨fuel, ?_, ?_⟩
    · simp only [List.cons_append, List.length_cons, List.length_append] at hfuel
      omega
    · rw [List.cons_append, tokensFrom]
      simp only [hspace, h rest hrest _ hfuel, Bool.false_eq_true, if_false]
      rfl

/-- A mark is a token by itself, even in front of a number. -/
theorem Lexes.cons (h : Lexes cs ts) (hspace : isSpace c = false)
    (ht : ∀ fuel cs, lexToken fuel c cs = (t, some cs)) : Lexes (c :: cs) (t :: ts) := by
  intro rest hrest fuel hfuel
  cases fuel with
  | zero => cases hfuel
  | succ fuel =>
    obtain ⟨left, hleft, heq⟩ := h rest hrest fuel (by simpa using hfuel)
    refine ⟨left, hleft, ?_⟩
    rw [List.cons_append, tokensFrom]
    simp only [hspace, ht, Bool.false_eq_true, if_false, heq]
    rfl

/-- Blanks do not matter. -/
theorem Lexes.blanks {blanks : List Char} (h : Lexes cs ts) (hblanks : ∀ c ∈ blanks, isSpace c) :
    Lexes (blanks ++ cs) ts := by
  induction blanks with
  | nil => exact h
  | cons c blanks ih =>
    obtain ⟨hc, hblanks⟩ := List.forall_mem_cons.1 hblanks
    intro rest hrest fuel hfuel
    cases fuel with
    | zero => cases hfuel
    | succ fuel =>
      obtain ⟨left, hleft, heq⟩ := ih hblanks rest hrest fuel (by simpa using hfuel)
      refine ⟨left, hleft, ?_⟩
      rw [List.cons_append, List.cons_append, tokensFrom]
      simp only [hc, if_true, heq]

/-! ### Numbers -/

theorem span_isDigit_append (hrest : EndsNumber rest) {front back : List Char}
    (h : cs.span Char.isDigit = (front, back)) :
    (cs ++ rest).span Char.isDigit = (front, back ++ rest) := by
  simp only [List.span_eq_takeWhile_dropWhile, Prod.mk.injEq] at h ⊢
  obtain ⟨rfl, rfl⟩ := h
  induction cs with
  | nil =>
    cases rest with
    | nil => exact ⟨rfl, rfl⟩
    | cons c rest =>
      have hc := (hrest c rfl).1
      simp [hc]
  | cons c cs ih =>
    cases hc : c.isDigit with
    | true => simpa [hc] using ih
    | false => simp [hc]

theorem missingDigit_ne {α : Type} {a : α} : missingDigit cs ≠ .found a rest := by
  cases cs <;> nofun

/-- The digits of an exponent after its sign. -/
def lexPower (sign : Int) (cs : List Char) : Lexed (Option Int) :=
  let (exponent, rest) := cs.span Char.isDigit
  if exponent.isEmpty then missingDigit rest
  else .found (some (sign * ((Number.readDigits 0 exponent).getD 0 : Nat))) rest

theorem lexPower_append (hrest : EndsNumber rest) {sign : Int} {e : Option Int}
    (h : lexPower sign cs = .found e []) : lexPower sign (cs ++ rest) = .found e rest := by
  rcases hspan : cs.span Char.isDigit with ⟨exponent, left⟩
  unfold lexPower at h ⊢
  rw [hspan] at h
  rw [span_isDigit_append hrest hspan]
  dsimp only at h ⊢
  split_ifs at h ⊢ with hempty
  · exact absurd h missingDigit_ne
  · cases h
    rfl

/-- The sign of an exponent, and what follows it. -/
def afterSign : List Char → Int × List Char
  | '-' :: ds => (-1, ds)
  | '+' :: ds => (1, ds)
  | ds => (1, ds)

theorem lexExponent_eq (cs : List Char) :
    lexExponent cs = lexPower (afterSign cs).1 (afterSign cs).2 :=
  rfl

theorem afterSign_append (hne : cs ≠ []) :
    afterSign (cs ++ rest) = ((afterSign cs).1, (afterSign cs).2 ++ rest) := by
  cases cs with
  | nil => exact absurd rfl hne
  | cons c cs =>
    by_cases hminus : c = '-'
    · subst hminus
      rfl
    · by_cases hplus : c = '+'
      · subst hplus
        rfl
      · simp [afterSign, hminus, hplus]

theorem lexExponent_append (hrest : EndsNumber rest) {e : Option Int}
    (h : lexExponent cs = .found e []) : lexExponent (cs ++ rest) = .found e rest := by
  cases cs with
  | nil => cases h
  | cons c cs =>
    rw [lexExponent_eq, afterSign_append (List.cons_ne_nil c cs)]
    exact lexPower_append hrest h

/-- A number from the end of its whole part or of its fractional part on. -/
def lexMark (negative : Bool) (whole : List Char) (fractional : Option (List Char))
    (cs : List Char) : Lexed NumberLiteral :=
  match cs with
  | mark :: more =>
    if mark = 'e' ∨ mark = 'E' then
      match lexExponent more with
      | .found e rest => .found ⟨negative, whole, fractional, e⟩ rest
      | .failed t s => .failed t s
    else .found ⟨negative, whole, fractional, none⟩ cs
  | [] => .found ⟨negative, whole, fractional, none⟩ []

theorem lexMark_append (hrest : EndsNumber rest) {whole : List Char}
    {fractional : Option (List Char)} {l : NumberLiteral}
    (h : lexMark negative whole fractional cs = .found l []) :
    lexMark negative whole fractional (cs ++ rest) = .found l rest := by
  cases cs with
  | nil =>
    cases h
    cases rest with
    | nil => rfl
    | cons c rest =>
      obtain ⟨-, -, he, hE⟩ := hrest c rfl
      simp [lexMark, he, hE]
  | cons mark more =>
    unfold lexMark at h
    rw [List.cons_append]
    unfold lexMark
    dsimp only at h ⊢
    split_ifs at h with hmark
    · rw [if_pos hmark]
      cases hexp : lexExponent more with
      | failed t s =>
        rw [hexp] at h
        cases h
      | found e left =>
        rw [hexp] at h
        cases h
        rw [lexExponent_append hrest hexp]
    · cases h

/-- A number from the end of its whole part on. -/
def lexFraction (negative : Bool) (whole : List Char) (cs : List Char) : Lexed NumberLiteral :=
  match cs with
  | '.' :: more =>
    let (fractional, rest) := more.span Char.isDigit
    if fractional.isEmpty then missingDigit rest else lexMark negative whole (some fractional) rest
  | rest => lexMark negative whole none rest

/-- What is a number, if the digits in front have no superfluous zero among them. -/
theorem lexNumber_eq_found_iff {l : NumberLiteral} {whole more : List Char}
    (hspan : cs.span Char.isDigit = (whole, more)) :
    lexNumber negative cs = .found l rest ↔
      whole ≠ [] ∧ Number.IsShort whole ∧ lexFraction negative whole more = .found l rest := by
  unfold lexNumber
  rw [hspan]
  dsimp only
  split
  · exact iff_of_false missingDigit_ne fun h => h.1 rfl
  · exact iff_of_false nofun fun h => by cases h.2.1 rfl
  · next hne hshort =>
    have hshort : Number.IsShort whole := by
      intro hhead
      cases whole with
      | nil => exact absurd rfl hne
      | cons c cs =>
        cases Option.some.inj hhead
        cases cs with
        | nil => rfl
        | cons d ds => exact absurd rfl (hshort d ds)
    exact ⟨fun h => ⟨hne, hshort, h⟩, fun h => h.2.2⟩

theorem lexFraction_append (hrest : EndsNumber rest) {whole : List Char} {l : NumberLiteral}
    (h : lexFraction negative whole cs = .found l []) :
    lexFraction negative whole (cs ++ rest) = .found l rest := by
  unfold lexFraction at h
  split at h
  · next more =>
    rcases hspan : more.span Char.isDigit with ⟨fractional, left⟩
    rw [hspan] at h
    dsimp only at h
    split_ifs at h with hempty
    · exact absurd h missingDigit_ne
    · rw [List.cons_append]
      unfold lexFraction
      simp only [span_isDigit_append hrest hspan, if_neg hempty, lexMark_append hrest h]
  · next hdot =>
    have hmark := lexMark_append hrest h
    unfold lexFraction
    -- A point in front of all that follows would be a part of the number, or stand in `rest`.
    split
    · next heq =>
      cases cs with
      | nil => exact absurd rfl (hrest '.' (by rw [← List.nil_append rest, heq]; rfl)).2.1
      | cons c cs => exact absurd (congrArg (· :: cs) (List.cons.inj heq).1) (hdot cs)
    · exact hmark

/-- A number that is all there is stays the same number when something else follows. -/
theorem lexNumber_append (hrest : EndsNumber rest) {l : NumberLiteral}
    (h : lexNumber negative cs = .found l []) :
    lexNumber negative (cs ++ rest) = .found l rest := by
  rcases hspan : cs.span Char.isDigit with ⟨whole, more⟩
  obtain ⟨hne, hshort, hfraction⟩ := (lexNumber_eq_found_iff hspan).1 h
  exact (lexNumber_eq_found_iff (span_isDigit_append hrest hspan)).2
    ⟨hne, hshort, lexFraction_append hrest hfraction⟩

/-- Characters that are a number and nothing else. -/
inductive IsLiteral : List Char → NumberLiteral → Prop
  | plain {cs : List Char} {l : NumberLiteral} (h : lexNumber false cs = .found l []) :
    IsLiteral cs l
  | minus {cs : List Char} {l : NumberLiteral} (h : lexNumber true cs = .found l []) :
    IsLiteral ('-' :: cs) l

/-- A number begins with a digit. -/
theorem exists_digit {l : NumberLiteral} (h : lexNumber negative cs = .found l rest) :
    ∃ c more, cs = c :: more ∧ c.isDigit := by
  cases cs with
  | nil => cases h
  | cons c cs =>
    refine ⟨c, cs, rfl, ?_⟩
    by_contra hc
    have hspan : (c :: cs).span Char.isDigit = ([], c :: cs) := by
      simp [List.span_eq_takeWhile_dropWhile, hc]
    exact ((lexNumber_eq_found_iff hspan).1 h).1 rfl

theorem lexToken_digit (hc : c.isDigit) (fuel : Nat) (cs : List Char) :
    lexToken fuel c cs =
      match lexNumber false (c :: cs) with
      | .found l rest => (.number l, some rest)
      | .failed taken skipped => (.flawed taken skipped, none) := by
  unfold lexToken
  split
  case h_12 => exact if_pos hc
  -- No other token begins with a digit.
  all_goals exact absurd hc (by decide)

theorem isSpace_eq_false (hc : c.isDigit) : isSpace c = false := by
  rw [Bool.eq_false_iff]
  intro hspace
  simp only [isSpace, Bool.or_eq_true, beq_iff_eq] at hspace
  rcases hspace with ((rfl | rfl) | rfl) | rfl <;> cases hc

/-- **A number is a token.** -/
theorem IsLiteral.lexes {l : NumberLiteral} (h : IsLiteral cs l) : Lexes cs [.number l] := by
  cases h with
  | plain h =>
    obtain ⟨c, cs, rfl, hc⟩ := exists_digit h
    refine lexes_token (isSpace_eq_false hc) fun rest hrest fuel _ => ?_
    rw [lexToken_digit hc, ← List.cons_append, lexNumber_append hrest h]
  | minus h =>
    refine lexes_token rfl fun rest hrest fuel _ => ?_
    simp only [lexToken, lexNumber_append hrest h]

/-- A number is read back from its own text. -/
def Rereads (n : JsonNumber) : Prop :=
  ∃ l, IsLiteral n.text.toList l ∧ l.value? = some n

theorem lexNumber_digits (negative : Bool) (n : Nat) :
    lexNumber negative (Number.digits n) = .found ⟨negative, Number.digits n, none, none⟩ [] := by
  have hnumeral := Number.isNumeral_digits n
  have hspan : (Number.digits n).span Char.isDigit = (Number.digits n, []) := by
    rw [List.span_eq_takeWhile_dropWhile, List.takeWhile_eq_self_iff.2 hnumeral.isDigit,
      List.dropWhile_eq_nil_iff.2 hnumeral.isDigit]
  exact (lexNumber_eq_found_iff hspan).2 ⟨hnumeral.ne_nil, Number.isShort_digits n, rfl⟩

theorem readDigits_digits (n : Nat) : Number.readDigits 0 (Number.digits n) = some n :=
  Number.readDigits_eq_some_iff.2
    ⟨(Number.isNumeral_digits n).isDigit, (Number.isNumeral_digits n).value⟩

theorem rereads_natural {n : Nat} (h : n < Nat.pow 2 64) : Rereads (.natural n) := by
  refine ⟨⟨false, Number.digits n, none, none⟩, ?_, ?_⟩
  · rw [JsonNumber.text, Number.text, String.toList_ofList]
    exact .plain (lexNumber_digits false n)
  · simp [NumberLiteral.value?, readDigits_digits, h]

theorem rereads_negative {n : Nat} (hpos : 0 < n) (h : n ≤ Nat.pow 2 63) :
    Rereads (.negative n) := by
  refine ⟨⟨true, Number.digits n, none, none⟩, ?_, ?_⟩
  · rw [JsonNumber.text, String.toList_append, Number.text, String.toList_ofList,
      String.toList_ofList]
    exact .minus (lexNumber_digits true n)
  · simp [NumberLiteral.value?, readDigits_digits, hpos, h]

/-- A number is read back from its own text, if it is one of the binary64 format. -/
def RereadsBinary (n : JsonNumber) : Prop :=
  ∀ x, n = .binary x → Rereads n

/-- **Whole numbers that are denoted are read back.** -/
theorem RereadsBinary.of_value? {l : NumberLiteral} {n : JsonNumber} (hbinary : RereadsBinary n)
    (h : l.value? = some n) : Rereads n := by
  have hread (h : l.binary? = some n) : Rereads n := by
    obtain ⟨x, -, hx⟩ := Option.map_eq_some_iff.1 h
    exact hbinary _ hx.symm
  unfold NumberLiteral.value? at h
  dsimp only at h
  split_ifs at h with hparts hnegative hsize hsize
  · exact hread h
  · cases h
    exact rereads_negative hsize.1 hsize.2
  · exact hread h
  · cases h
    exact rereads_natural hsize
  · exact hread h

/-- Reading rounds more than once, so that a number need not be read back from its own text. -/
example :
    (NumberLiteral.value? ⟨false, ['1'], none, some (-24)⟩).map JsonNumber.text =
        some "1.0000000000000001e-24" ∧
      (NumberLiteral.value? ⟨false, ['1'], some "0000000000000001".toList, some (-24)⟩).map
        JsonNumber.text = some "1e-24" := by
  decide +kernel

/-! ### Texts -/

theorem hexValue?_hexDigit : ∀ n < 16, Digest.hexValue? (Digest.hexDigit n) = some n := by
  decide

/-- What is written for a control character is read as the character. -/
theorem lexEscape_hexByte (hc : c.toNat < 0x20) (rest : List Char) :
    lexEscape ('u' :: '0' :: '0' :: Digest.hexByte (UInt8.ofNat c.toNat) ++ rest) =
      .ok (c, rest) := by
  have hbyte : (UInt8.ofNat c.toNat).toNat = c.toNat := by
    rw [UInt8.toNat_ofNat']
    omega
  have hhigh := hexValue?_hexDigit (c.toNat / 16) (by omega)
  have hlow := hexValue?_hexDigit (c.toNat % 16) (by omega)
  have hzero : Digest.hexValue? '0' = some 0 := by decide
  have hvalue : ((0 * 16 + 0) * 16 + c.toNat / 16) * 16 + c.toNat % 16 = c.toNat := by omega
  have hhex : lexHex ('0' :: '0' :: Digest.hexByte (UInt8.ofNat c.toNat) ++ rest) =
      .ok (c.toNat, rest) := by
    simp only [lexHex, Digest.hexByte, hbyte, List.cons_append, List.nil_append, hzero, hhigh, hlow,
      hvalue]
  have hplain :
      ¬(0xD800 ≤ c.toNat ∧ c.toNat ≤ 0xDBFF) ∧ ¬(0xDC00 ≤ c.toNat ∧ c.toNat ≤ 0xDFFF) := by
    omega
  rw [List.cons_append]
  simp only [lexEscape, hhex, bind, Except.bind, if_neg hplain.1, if_neg hplain.2, Char.ofNat_toNat]

theorem takeText_escapedChar (c : Char) (fuel : Nat) (done rest : List Char) :
    takeText (fuel + 1) done (escapedChar c ++ rest) = takeText fuel (c :: done) rest := by
  unfold escapedChar
  split
  case h_8 =>
    next hquote hbackslash _ _ _ _ _ =>
    split_ifs with hc
    · have hescape := lexEscape_hexByte hc rest
      simp only [List.cons_append] at hescape ⊢
      rw [takeText]
      simp only [hescape, bind, Except.bind]
    · rw [List.singleton_append, takeText, if_neg hc]
      · exact hquote
      · exact hbackslash
  all_goals rfl

theorem takeText_escaped (s : List Char) {fuel : Nat} (hfuel : s.length < fuel)
    (done rest : List Char) :
    takeText fuel done (s.flatMap escapedChar ++ '"' :: rest) =
      .ok (String.ofList (done.reverse ++ s), rest) := by
  induction s generalizing fuel done with
  | nil =>
    cases fuel with
    | zero => cases hfuel
    | succ fuel =>
      rw [List.append_nil]
      rfl
  | cons c s ih =>
    cases fuel with
    | zero => cases hfuel
    | succ fuel =>
      rw [List.flatMap_cons, List.append_assoc, takeText_escapedChar,
        ih (Nat.lt_of_succ_lt_succ hfuel), List.reverse_cons, List.append_assoc]
      rfl

theorem length_le_escaped (s : List Char) : s.length ≤ (s.flatMap escapedChar).length := by
  have hpos (c : Char) : 0 < (escapedChar c).length := by
    unfold escapedChar
    split
    case h_8 => split_ifs <;> simp
    all_goals simp
  induction s with
  | nil => exact Nat.le_refl _
  | cons c s ih =>
    have hc := hpos c
    rw [List.flatMap_cons, List.length_append, List.length_cons]
    omega

/-- **A text between quotes is a token.** -/
theorem lexes_quotedText (s : String) : Lexes (quotedText s).toList [.text s] := by
  rw [quotedText, String.toList_ofList, List.cons_append]
  refine lexes_token rfl fun rest _ fuel hfuel => ?_
  have hlength := length_le_escaped s.toList
  have htake := takeText_escaped s.toList (show s.toList.length < fuel by
    simp only [List.cons_append, List.length_cons, List.length_append, List.length_nil] at hfuel
    omega) [] rest
  rw [List.append_assoc, List.singleton_append]
  simp only [lexToken, htake, List.reverse_nil, List.nil_append, String.ofList_toList]

end Depot.Json
