import Mathlib.Algebra.Order.BigOperators.Group.List
import Mathlib.Algebra.Order.Ring.Nat
import Depot.Proofs.Url.Percent

/-!
# What encoding and decoding preserve

Encoding changes nothing about what a text stands for, if percent signs and the digits behind them
are not encoded. A byte that a text stands for is one of its characters or has its encoded form in
the text. Decoding never makes a text longer, and a text that it does not make shorter stands for
itself. At a sign that is no digit, such as a slash, a text is decoded part by part.

## Main results

* `Percent.decode_encode` : an encoded text stands for what the text stands for.
* `Percent.decode_flatMap_cons` : decoding one character or escape after the other.
* `Percent.mem_decode` : where the bytes that a text stands for come from.
* `Percent.length_decode_le`, `Percent.decode_eq_self` : decoding and lengths.
* `Percent.decode_intercalate` : decoding part by part.
-/

namespace Depot

open String (utf8EncodeChar)

/-- The bytes of a character outside ASCII are outside ASCII. -/
theorem le_of_mem_utf8EncodeChar {c : Char} (h : 128 ≤ c.toNat) {b : UInt8}
    (hb : b ∈ utf8EncodeChar c) : 128 ≤ b.toNat := by
  have hascii : ¬ c.val.toNat ≤ 127 := fun hle => by
    have hval : c.val.toNat = c.toNat := rfl
    omega
  unfold utf8EncodeChar at hb
  simp only [if_neg hascii] at hb
  split at hb
  · simp only [List.mem_cons, List.not_mem_nil, or_false] at hb
    rcases hb with rfl | rfl <;> rw [UInt8.toNat_ofNat'] <;> omega
  · split at hb
    · simp only [List.mem_cons, List.not_mem_nil, or_false] at hb
      rcases hb with rfl | rfl | rfl <;> rw [UInt8.toNat_ofNat'] <;> omega
    · simp only [List.mem_cons, List.not_mem_nil, or_false] at hb
      rcases hb with rfl | rfl | rfl | rfl <;> rw [UInt8.toNat_ofNat'] <;> omega

/-- A text whose bytes begin with those of ASCII characters begins with them. -/
theorem exists_append_of_flatMap_utf8 {cs front : List Char} {bytes : Bytes}
    (hfront : ∀ c ∈ front, c.toNat < 128)
    (h : cs.flatMap utf8EncodeChar = front.flatMap utf8EncodeChar ++ bytes) :
    ∃ rest, cs = front ++ rest ∧ rest.flatMap utf8EncodeChar = bytes := by
  induction front generalizing cs with
  | nil => exact ⟨cs, rfl, h⟩
  | cons c front ih =>
    obtain ⟨hc, hfront⟩ := List.forall_mem_cons.1 hfront
    rw [List.flatMap_cons, List.append_assoc] at h
    obtain ⟨rest, rfl⟩ := eq_cons_of_flatMap_utf8 hc h
    rw [List.flatMap_cons] at h
    obtain ⟨more, rfl, hmore⟩ := ih hfront (List.append_cancel_left h)
    exact ⟨more, rfl, hmore⟩

/-- Texts of the same bytes are the same. -/
theorem eq_of_flatMap_utf8 {cs ds : List Char}
    (h : cs.flatMap utf8EncodeChar = ds.flatMap utf8EncodeChar) :
    cs = ds := by
  rw [← Bytes.ofText_ofList, ← Bytes.ofText_ofList] at h
  have htext := congrArg Bytes.toText? h
  rw [Bytes.toText?_ofText, Bytes.toText?_ofText] at htext
  exact String.ofList_injective (Option.some.inj htext)

namespace Percent

/-! ### Bytes that stand for themselves -/

/-- Bytes other than percent signs stand for themselves. -/
theorem decode_of_ne {front : Bytes} (h : ∀ b ∈ front, b ≠ 0x25) (rest : Bytes) :
    decode (front ++ rest) = front ++ decode rest := by
  induction front with
  | nil => rfl
  | cons b front ih =>
    obtain ⟨hb, hfront⟩ := List.forall_mem_cons.1 h
    rw [List.cons_append, decode_cons fun heq => absurd heq hb, ih hfront, List.cons_append]

/-- Only an ASCII character has its code as a byte. -/
theorem eq_of_mem_utf8EncodeChar {c d : Char} (hd : d.toNat < 128)
    (h : UInt8.ofNat d.toNat ∈ utf8EncodeChar c) : c = d := by
  rcases Nat.lt_or_ge c.toNat 128 with hc | hc
  · rw [utf8EncodeChar_of_ascii hc, List.mem_singleton] at h
    have hcode := congrArg UInt8.toNat h
    rw [UInt8.toNat_ofNat', UInt8.toNat_ofNat', Nat.mod_eq_of_lt (by omega),
      Nat.mod_eq_of_lt (by omega)] at hcode
    exact Char.toNat_inj.1 hcode.symm
  · have hbyte := le_of_mem_utf8EncodeChar hc h
    rw [UInt8.toNat_ofNat', Nat.mod_eq_of_lt (by omega)] at hbyte
    omega

/-- A character other than a percent sign stands for itself. -/
theorem decode_utf8EncodeChar {c : Char} (hc : c ≠ '%') (rest : Bytes) :
    decode (utf8EncodeChar c ++ rest) = utf8EncodeChar c ++ decode rest := by
  refine decode_of_ne ?_ rest
  rintro _ hb rfl
  exact hc (eq_of_mem_utf8EncodeChar (d := '%') (by decide) hb)

/-! ### Texts that are encoded -/

theorem hexValue?_of_ge : ∀ n < 256, 128 ≤ n → Digest.hexValue? (Char.ofNat n) = none := by
  decide +kernel

theorem hexValue?_eq_none : ∀ n < 128, (Char.ofNat n).isAlphanum = false →
    Digest.hexValue? (Char.ofNat n) = none := by
  decide

/-- A character that is no letter and no digit begins with a byte that is no digit. -/
theorem exists_byte_of_not_isAlphanum {c : Char} (h : c.toNat < 128 → c.isAlphanum = false) :
    ∃ b rest, utf8EncodeChar c = b :: rest ∧ Digest.hexValue? (Char.ofNat b.toNat) = none := by
  rcases Nat.lt_or_ge c.toNat 128 with hc | hc
  · refine ⟨_, _, utf8EncodeChar_of_ascii hc, ?_⟩
    rw [UInt8.toNat_ofNat', Nat.mod_eq_of_lt (by omega)]
    exact hexValue?_eq_none _ hc (by rw [Char.ofNat_toNat]; exact h hc)
  · obtain ⟨b, rest, hbytes, hb⟩ := exists_utf8EncodeChar_eq_cons hc
    exact ⟨b, rest, hbytes, hexValue?_of_ge _ b.toNat_lt hb⟩

/-- A character that is no percent sign and no digit ends what is decoded before it. -/
theorem decode_append_char (front : List Char) {c : Char} (back : List Char) (hpercent : c ≠ '%')
    (hother : c.toNat < 128 → c.isAlphanum = false) :
    decode ((front ++ c :: back).flatMap utf8EncodeChar) =
      decode (front.flatMap utf8EncodeChar) ++
        (utf8EncodeChar c ++ decode (back.flatMap utf8EncodeChar)) := by
  obtain ⟨b, rest, hbytes, hb⟩ := exists_byte_of_not_isAlphanum hother
  have hself := decode_utf8EncodeChar hpercent (back.flatMap utf8EncodeChar)
  rw [List.flatMap_append, List.flatMap_cons, ← hself, hbytes, List.cons_append,
    decode_append _ _ hb]

/-- So does the encoded form of a character. -/
theorem decode_append_escape (front : List Char) (c : Char) (back : List Char) :
    decode ((front ++ ((utf8EncodeChar c).flatMap encodeByte ++ back)).flatMap utf8EncodeChar) =
      decode (front.flatMap utf8EncodeChar) ++
        (utf8EncodeChar c ++ decode (back.flatMap utf8EncodeChar)) := by
  have hself := decode_encodeBytes (utf8EncodeChar c) (back.flatMap utf8EncodeChar)
  obtain ⟨b, rest, hbytes⟩ := List.exists_cons_of_ne_nil (@String.utf8EncodeChar_ne_nil c)
  have hsign : ∃ more, ((utf8EncodeChar c).flatMap encodeByte).flatMap utf8EncodeChar =
      0x25 :: more := by
    rw [hbytes]
    exact ⟨_, rfl⟩
  obtain ⟨more, hmore⟩ := hsign
  rw [List.flatMap_append, List.flatMap_append, ← hself, hmore, List.cons_append,
    decode_append _ _ (by decide)]

variable {set : Char → Bool}

/-- **An encoded text stands for what the text stands for,** if letters, digits and percent signs
are left alone. -/
theorem decode_encode (hset : ∀ c : Char, c.isAlphanum = true → set c = false)
    (hpercent : set '%' = false) (cs : List Char) :
    decode ((encode set cs).flatMap utf8EncodeChar) = decode (cs.flatMap utf8EncodeChar) := by
  -- A percent sign and its digits are left alone together, so what has been left alone is kept.
  have hmain : ∀ front : List Char, decode ((front ++ encode set cs).flatMap utf8EncodeChar) =
      decode ((front ++ cs).flatMap utf8EncodeChar) := by
    induction cs with
    | nil => exact fun _ => rfl
    | cons c cs ih =>
      intro front
      by_cases hc : c.toNat < 128 ∧ set c = false
      · have hchar : encode set (c :: cs) = c :: encode set cs := by
          simp [encode, encodeChar, hc.1, hc.2]
        rw [hchar, List.append_cons, List.append_cons front c cs, ih (front ++ [c])]
      · have hne : c ≠ '%' := by
          rintro rfl
          exact hc ⟨by decide, hpercent⟩
        have hother : c.toNat < 128 → c.isAlphanum = false := fun hascii =>
          Bool.eq_false_iff.2 fun halnum => hc ⟨hascii, hset c halnum⟩
        have hif : (decide (c.toNat < 128) && !set c) = false := by
          rw [Bool.eq_false_iff, Ne, Bool.and_eq_true, decide_eq_true_eq, Bool.not_eq_true']
          exact hc
        have hchar : encode set (c :: cs) =
            (utf8EncodeChar c).flatMap encodeByte ++ encode set cs := by
          simp [encode, encodeChar, hif]
        have htail : decode ((encode set cs).flatMap utf8EncodeChar) =
            decode (cs.flatMap utf8EncodeChar) := ih []
        rw [hchar, decode_append_escape, decode_append_char _ _ hne hother, htail]
  exact hmain []

/-! ### Escapes one by one -/

/-- A digit is one of the digits that bytes are encoded with, in either case. -/
theorem toLower_of_hexValue? {c : Char} {n : Nat} (h : Digest.hexValue? c = some n) :
    n < 16 ∧ c.toLower = (digit n).toLower := by
  have hle : ∀ d, c ≤ d → c.toNat ≤ d.toNat := fun d hd => UInt32.le_iff_toNat_le.1 hd
  have hascii : c.toNat < 128 := by
    unfold Digest.hexValue? at h
    split at h
    · next hc => exact Nat.lt_of_le_of_lt (hle '9' hc.2) (by decide)
    · split at h
      · next hc => exact Nat.lt_of_le_of_lt (hle 'f' hc.2) (by decide)
      · split at h
        · next hc => exact Nat.lt_of_le_of_lt (hle 'F' hc.2) (by decide)
        · cases h
  exact Text.of_forall_ascii
    (P := fun c => ∀ n ∈ Digest.hexValue? c, n < 16 ∧ c.toLower = (digit n).toLower)
    (by decide) hascii n h

theorem utf8EncodeChar_ofNat {b : UInt8} (h : b.toNat < 128) :
    utf8EncodeChar (Char.ofNat b.toNat) = [b] := by
  have hcode : ∀ n < 128, (Char.ofNat n).toNat = n := by decide
  rw [utf8EncodeChar_of_ascii (by rw [hcode _ h]; exact h), hcode _ h, UInt8.ofNat_toNat]

/-- A text whose bytes begin with a digit begins with it. -/
theorem eq_cons_of_hexValue? {cs : List Char} {b : UInt8} {bytes : Bytes} {n : Nat}
    (hb : Digest.hexValue? (Char.ofNat b.toNat) = some n)
    (h : cs.flatMap utf8EncodeChar = b :: bytes) :
    ∃ rest, cs = Char.ofNat b.toNat :: rest ∧ rest.flatMap utf8EncodeChar = bytes := by
  have hascii : b.toNat < 128 := Nat.lt_of_not_le fun hge =>
    nomatch hb.symm.trans (hexValue?_of_ge _ b.toNat_lt hge)
  have hchar := utf8EncodeChar_ofNat hascii
  have hcode : ∀ n < 128, (Char.ofNat n).toNat < 128 := by decide
  obtain ⟨rest, rfl⟩ := eq_cons_of_flatMap_utf8 (hcode _ hascii) (h.trans (by rw [hchar]; rfl))
  rw [List.flatMap_cons, hchar] at h
  exact ⟨rest, rfl, (List.cons.inj h).2⟩

/-- Two digits after a percent sign are the encoded form of the byte that they stand for, in either
case. -/
theorem toLower_escape {high low : Char} {i j : Nat} (hi : Digest.hexValue? high = some i)
    (hj : Digest.hexValue? low = some j) :
    ['%', high, low].map Char.toLower =
      (encodeByte (UInt8.ofNat (16 * i + j))).map Char.toLower := by
  obtain ⟨hilt, hhigh⟩ := toLower_of_hexValue? hi
  obtain ⟨hjlt, hlow⟩ := toLower_of_hexValue? hj
  have hbyte : (UInt8.ofNat (16 * i + j)).toNat = 16 * i + j := by
    rw [UInt8.toNat_ofNat', Nat.mod_eq_of_lt (by omega)]
  have hdiv : (16 * i + j) / 16 = i := by omega
  have hmod : (16 * i + j) % 16 = j := by omega
  simp only [encodeByte, hbyte, hdiv, hmod, List.map_cons, List.map_nil, hhigh, hlow]

/-- **A text stands for its first character and what the rest stands for,** unless it begins with
the encoded form of a byte. -/
theorem decode_flatMap_cons (c : Char) (rest : List Char) :
    decode ((c :: rest).flatMap utf8EncodeChar) =
        utf8EncodeChar c ++ decode (rest.flatMap utf8EncodeChar) ∨
      ∃ escape more b, c :: rest = escape ++ more ∧
        escape.map Char.toLower = (encodeByte b).map Char.toLower ∧
        decode ((c :: rest).flatMap utf8EncodeChar) =
          b :: decode (more.flatMap utf8EncodeChar) := by
  by_cases hc : c = '%'
  · subst hc
    have hbytes : ('%' :: rest).flatMap utf8EncodeChar = 0x25 :: rest.flatMap utf8EncodeChar := rfl
    by_cases hescape : ∃ high low more i j, rest.flatMap utf8EncodeChar = high :: low :: more ∧
        Digest.hexValue? (Char.ofNat high.toNat) = some i ∧
        Digest.hexValue? (Char.ofNat low.toNat) = some j
    · obtain ⟨high, low, bytes, i, j, hrest, hhigh, hlow⟩ := hescape
      obtain ⟨back, rfl, hback⟩ := eq_cons_of_hexValue? hhigh hrest
      obtain ⟨more, rfl, rfl⟩ := eq_cons_of_hexValue? hlow hback
      refine .inr ⟨['%', _, _], more, _, rfl, toLower_escape hhigh hlow, ?_⟩
      rw [hbytes, hrest, decode]
      simp only [hhigh, hlow]
    · left
      rw [hbytes, decode_cons]
      · rfl
      · exact fun _ high low more hrest i j hhigh hlow =>
          hescape ⟨high, low, more, i, j, hrest, hhigh, hlow⟩
  · rw [List.flatMap_cons]
    exact .inl (decode_utf8EncodeChar hc _)

/-- Only the empty text stands for nothing. -/
theorem decode_eq_nil_iff {cs : List Char} :
    decode (cs.flatMap utf8EncodeChar) = [] ↔ cs = [] := by
  constructor
  · intro h
    cases cs with
    | nil => rfl
    | cons c more =>
      rcases decode_flatMap_cons c more with hread | ⟨_, _, b, _, _, hread⟩
      · exact absurd (List.append_eq_nil_iff.1 (hread.symm.trans h)).1 String.utf8EncodeChar_ne_nil
      · cases hread.symm.trans h
  · rintro rfl
    rfl

/-- **A byte that a text stands for** is one of its characters, or the text contains its encoded
form. -/
theorem mem_decode {cs : List Char} {b : UInt8} (h : b ∈ decode (cs.flatMap utf8EncodeChar)) :
    (∃ c ∈ cs, b ∈ utf8EncodeChar c) ∨
      (encodeByte b).map Char.toLower <:+: cs.map Char.toLower := by
  induction hlength : cs.length using Nat.strongRecOn generalizing cs with
  | ind n ih =>
    -- What holds of the text behind a character or an escape holds of the whole text.
    have hback : ∀ more : List Char, more <:+ cs → more.length < n →
        b ∈ decode (more.flatMap utf8EncodeChar) →
          (∃ c ∈ cs, b ∈ utf8EncodeChar c) ∨
            (encodeByte b).map Char.toLower <:+: cs.map Char.toLower := by
      intro more hsuffix hless hmem
      refine (ih _ hless hmem rfl).imp ?_ ?_
      · exact fun ⟨c, hc, hbyte⟩ => ⟨c, hsuffix.subset hc, hbyte⟩
      · exact fun hfound => hfound.trans (hsuffix.map _).isInfix
    cases cs with
    | nil => cases h
    | cons c rest =>
      rcases decode_flatMap_cons c rest with hread | ⟨escape, more, b', hcs, hescape, hread⟩
      · rcases List.mem_append.1 (hread ▸ h) with hfirst | hmem
        · exact .inl ⟨c, List.mem_cons_self, hfirst⟩
        · exact hback rest (List.suffix_cons c rest) (by simp [← hlength]) hmem
      · rcases List.mem_cons.1 (hread ▸ h) with rfl | hmem
        · right
          rw [hcs, List.map_append, hescape]
          exact (List.prefix_append _ _).isInfix
        · have hlong : escape.length = 3 := by simpa [encodeByte] using congrArg List.length hescape
          have hparts := congrArg List.length hcs
          rw [List.length_append] at hparts
          exact hback more (hcs ▸ List.suffix_append _ _) (by omega) hmem

/-! ### Lengths -/

theorem length_decode_le (bytes : Bytes) : (decode bytes).length ≤ bytes.length := by
  fun_induction decode bytes with
  | case1 high low rest h l hhigh hlow ih => simp only [List.length_cons]; omega
  | case2 high low rest hdigits ih =>
    simpa only [List.length_cons, Nat.add_le_add_iff_right] using ih
  | case3 b rest hother ih => simpa only [List.length_cons, Nat.add_le_add_iff_right] using ih
  | case4 => exact Nat.le_refl _

/-- Bytes that decoding does not make fewer stand for themselves. -/
theorem decode_eq_self {bytes : Bytes} (h : bytes.length ≤ (decode bytes).length) :
    decode bytes = bytes := by
  fun_induction decode bytes with
  | case1 high low rest h l hhigh hlow ih =>
    have hle := length_decode_le rest
    simp only [List.length_cons] at h
    omega
  | case2 high low rest hdigits ih =>
    rw [ih (by simpa only [List.length_cons, Nat.add_le_add_iff_right] using h)]
  | case3 b rest hother ih =>
    rw [ih (by simpa only [List.length_cons, Nat.add_le_add_iff_right] using h)]
  | case4 => rfl

/-! ### Texts in parts -/

/-- A sign that is no digit and no percent sign stands for itself between what is decoded. -/
theorem decode_append_cons (front : List Char) {c : Char} (back : List Char) (hc : c.toNat < 128)
    (hpercent : c ≠ '%') (halnum : c.isAlphanum = false) :
    decode ((front ++ c :: back).flatMap utf8EncodeChar) =
      decode (front.flatMap utf8EncodeChar) ++
        UInt8.ofNat c.toNat :: decode (back.flatMap utf8EncodeChar) := by
  rw [decode_append_char front back hpercent fun _ => halnum, utf8EncodeChar_of_ascii hc,
    List.singleton_append]

/-- **A text between slashes is decoded part by part.** -/
theorem decode_intercalate (parts : List (List Char)) :
    decode ((['/'].intercalate parts).flatMap utf8EncodeChar) =
      [0x2F].intercalate (parts.map fun part => decode (part.flatMap utf8EncodeChar)) := by
  induction parts with
  | nil => rfl
  | cons part rest ih =>
    cases rest with
    | nil => simp
    | cons next rest =>
      have hjoin : ['/'].intercalate (part :: next :: rest) =
          part ++ '/' :: ['/'].intercalate (next :: rest) := by simp
      rw [hjoin, decode_append_cons _ _ (by decide) (by decide) (by decide), ih]
      simp only [List.map_cons, List.intercalate_cons_cons, List.append_assoc]
      rfl

/-- How many bytes a text stands for. -/
def decodedLength (cs : List Char) : Nat :=
  (decode (cs.flatMap utf8EncodeChar)).length

theorem decodedLength_le (cs : List Char) :
    decodedLength cs ≤ (cs.flatMap utf8EncodeChar).length :=
  length_decode_le _

theorem decodedLength_append_cons (front : List Char) {c : Char} (back : List Char)
    (hc : c.toNat < 128) (hpercent : c ≠ '%') (halnum : c.isAlphanum = false) :
    decodedLength (front ++ c :: back) = decodedLength front + 1 + decodedLength back := by
  rw [decodedLength, decode_append_cons front back hc hpercent halnum, List.length_append,
    List.length_cons, decodedLength, decodedLength]
  omega

/-- A text between slashes stands for as many bytes as its parts and the slashes. -/
theorem decodedLength_intercalate {parts : List (List Char)} (h : parts ≠ []) :
    decodedLength (['/'].intercalate parts) + 1 = (parts.map (decodedLength · + 1)).sum := by
  induction parts with
  | nil => exact absurd rfl h
  | cons part rest ih =>
    cases rest with
    | nil => simp
    | cons next rest =>
      have hjoin : ['/'].intercalate (part :: next :: rest) =
          part ++ '/' :: ['/'].intercalate (next :: rest) := by simp
      rw [hjoin, decodedLength_append_cons _ _ (by decide) (by decide) (by decide), List.map_cons,
        List.sum_cons, ← ih (List.cons_ne_nil next rest)]
      omega

/-- What a text stands for, by its bytes. -/
theorem decodeText?_eq_some_iff {cs ds : List Char} :
    decodeText? (String.ofList cs) = some (String.ofList ds) ↔
      decode (cs.flatMap utf8EncodeChar) = ds.flatMap utf8EncodeChar := by
  rw [decodeText?, Bytes.ofText_ofList]
  constructor
  · intro h
    rw [← Bytes.ofText_of_toText? h, Bytes.ofText_ofList]
  · intro h
    rw [h, ← Bytes.ofText_ofList, Bytes.toText?_ofText]

/-- In front of a text what stands for itself stays as it is. -/
theorem decodeText?_append_of_plain {front : List Char} (h : ∀ c ∈ front, c.toNat < 128 ∧ c ≠ '%')
    (cs : List Char) :
    decodeText? (String.ofList (front ++ cs)) =
      (decodeText? (String.ofList cs)).map fun s => String.ofList (front ++ s.toList) := by
  cases htext : decodeText? (String.ofList cs) with
  | some s =>
    rw [← String.ofList_toList (s := s), decodeText?_eq_some_iff] at htext
    rw [Option.map_some, decodeText?_eq_some_iff, List.flatMap_append, decode_plain h, htext,
      List.flatMap_append]
  | none =>
    rw [Option.map_none, Option.eq_none_iff_forall_ne_some]
    intro t ht
    rw [← String.ofList_toList (s := t), decodeText?_eq_some_iff, List.flatMap_append,
      decode_plain h] at ht
    obtain ⟨rest, -, hrest⟩ := exists_append_of_flatMap_utf8 (fun c hc => (h c hc).1) ht.symm
    exact nomatch htext.symm.trans (decodeText?_eq_some_iff.2 hrest.symm)

/-- The parts of a text that stands for itself stand for themselves. -/
theorem decode_part {parts : List (List Char)}
    (h : decode ((['/'].intercalate parts).flatMap utf8EncodeChar) =
      (['/'].intercalate parts).flatMap utf8EncodeChar) :
    ∀ part ∈ parts, decode (part.flatMap utf8EncodeChar) = part.flatMap utf8EncodeChar := by
  induction parts with
  | nil => exact fun _ hp => absurd hp List.not_mem_nil
  | cons part rest ih =>
    cases rest with
    | nil => simpa using h
    | cons next rest =>
      have hjoin : ['/'].intercalate (part :: next :: rest) =
          part ++ '/' :: ['/'].intercalate (next :: rest) := by simp
      rw [hjoin, decode_append_cons _ _ (by decide) (by decide) (by decide), List.flatMap_append,
        List.flatMap_cons, utf8EncodeChar_of_ascii (by decide), List.singleton_append] at h
      have hlength := congrArg List.length h
      simp only [List.length_append, List.length_cons] at hlength
      have hpart := length_decode_le (part.flatMap utf8EncodeChar)
      have hrest := length_decode_le ((['/'].intercalate (next :: rest)).flatMap utf8EncodeChar)
      exact List.forall_mem_cons.2 ⟨decode_eq_self (by omega), ih (decode_eq_self (by omega))⟩

end Percent

end Depot
