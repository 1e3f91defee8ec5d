import Depot.Url.Percent
import Depot.Proofs.Files
import Depot.Proofs.Text

/-!
# Percent-encoding undone

What is encoded is written in ASCII characters outside the set, percent signs apart, and decoding
gives the bytes of the text back, as long as percent signs are encoded themselves. Decoding goes
on behind any character that is no digit as if nothing stood before it.

## Main results

* `Bytes.ofText_ofList` : the bytes of a text, character by character.
* `Percent.decode_encodeChar` : decoding undoes encoding.
* `Percent.decode_append` : decoding in front of a character that is no digit.
* `Percent.decodeText?_cons`, `Percent.decodeText?_append` : a text that begins, or ends, in plain
  characters stands for one that does.
-/

namespace Depot

open String (utf8EncodeChar)

/-! ### Bytes of texts -/

theorem Bytes.ofText_ofList (cs : List Char) :
    Bytes.ofText (String.ofList cs) = cs.flatMap utf8EncodeChar := by
  rw [ofText, String.toUTF8_eq_toByteArray, String.toByteArray_ofList]
  exact List.toList_data_toByteArray

theorem Bytes.ofText_eq (s : String) : Bytes.ofText s = s.toList.flatMap utf8EncodeChar := by
  rw [← Bytes.ofText_ofList, String.ofList_toList]

theorem utf8EncodeChar_of_ascii {c : Char} (h : c.toNat < 128) :
    utf8EncodeChar c = [UInt8.ofNat c.toNat] :=
  if_pos (Nat.le_of_lt_succ h)

/-- A character outside ASCII ends in a byte outside ASCII. -/
theorem exists_utf8EncodeChar {c : Char} (h : 128 ≤ c.toNat) :
    ∃ front, utf8EncodeChar c = front ++ [UInt8.ofNat (c.toNat % 64 + 128)] := by
  have hascii : ¬ c.val.toNat ≤ 127 := fun hle => by
    have hval : c.val.toNat = c.toNat := rfl
    omega
  unfold utf8EncodeChar
  simp only [if_neg hascii]
  split
  · exact ⟨[_], rfl⟩
  · split
    · exact ⟨[_, _], rfl⟩
    · exact ⟨[_, _, _], rfl⟩

/-- A text whose bytes end in an ASCII character ends in it. -/
theorem eq_append_of_flatMap_utf8 {cs : List Char} {bytes : Bytes} {c : Char} (hc : c.toNat < 128)
    (h : cs.flatMap utf8EncodeChar = bytes ++ utf8EncodeChar c) :
    ∃ before, cs = before ++ [c] ∧ before.flatMap utf8EncodeChar = bytes := by
  rw [utf8EncodeChar_of_ascii hc] at h
  rcases List.eq_nil_or_concat cs with rfl | ⟨before, d, rfl⟩
  · cases bytes <;> cases h
  · rw [List.concat_eq_append, List.flatMap_append, List.flatMap_singleton] at h
    rcases Nat.lt_or_ge d.toNat 128 with hd | hd
    · rw [utf8EncodeChar_of_ascii hd] at h
      obtain ⟨hbefore, hlast⟩ := List.append_inj' h rfl
      have hcode := congrArg UInt8.toNat (List.cons.inj hlast).1
      rw [UInt8.toNat_ofNat', UInt8.toNat_ofNat', Nat.mod_eq_of_lt (by omega),
        Nat.mod_eq_of_lt (by omega)] at hcode
      exact ⟨before, by rw [List.concat_eq_append, Char.toNat_inj.1 hcode], hbefore⟩
    · obtain ⟨front, hfront⟩ := exists_utf8EncodeChar hd
      rw [hfront, ← List.append_assoc] at h
      have hcode := congrArg UInt8.toNat (List.cons.inj (List.append_inj' h rfl).2).1
      rw [UInt8.toNat_ofNat', UInt8.toNat_ofNat', Nat.mod_eq_of_lt (by omega),
        Nat.mod_eq_of_lt (by omega)] at hcode
      omega

/-- A character outside ASCII begins with a byte outside ASCII. -/
theorem exists_utf8EncodeChar_eq_cons {c : Char} (h : 128 ≤ c.toNat) :
    ∃ b rest, utf8EncodeChar c = b :: rest ∧ 128 ≤ b.toNat := by
  have hascii : ¬ c.val.toNat ≤ 127 := fun hle => by
    have hval : c.val.toNat = c.toNat := rfl
    omega
  unfold utf8EncodeChar
  simp only [if_neg hascii]
  split
  · exact ⟨_, _, rfl, by rw [UInt8.toNat_ofNat']; omega⟩
  · split
    · exact ⟨_, _, rfl, by rw [UInt8.toNat_ofNat']; omega⟩
    · exact ⟨_, _, rfl, by rw [UInt8.toNat_ofNat']; omega⟩

/-- A text whose bytes begin with an ASCII character begins with it. -/
theorem eq_cons_of_flatMap_utf8 {cs : List Char} {bytes : Bytes} {c : Char} (hc : c.toNat < 128)
    (h : cs.flatMap utf8EncodeChar = utf8EncodeChar c ++ bytes) : ∃ rest, cs = c :: rest := by
  rw [utf8EncodeChar_of_ascii hc] at h
  cases cs with
  | nil => cases h
  | cons d rest =>
    rw [List.flatMap_cons] at h
    rcases Nat.lt_or_ge d.toNat 128 with hd | hd
    · rw [utf8EncodeChar_of_ascii hd] at h
      have hcode := congrArg UInt8.toNat (List.cons.inj h).1
      rw [UInt8.toNat_ofNat', UInt8.toNat_ofNat', Nat.mod_eq_of_lt (by omega),
        Nat.mod_eq_of_lt (by omega)] at hcode
      exact ⟨rest, by rw [Char.toNat_inj.1 hcode]⟩
    · obtain ⟨b, more, hfirst, hb⟩ := exists_utf8EncodeChar_eq_cons hd
      rw [hfirst] at h
      rw [(List.cons.inj h).1, UInt8.toNat_ofNat'] at hb
      omega

theorem exists_of_flatMap_utf8 {cs back : List Char} {bytes : Bytes}
    (hback : ∀ c ∈ back, c.toNat < 128)
    (h : cs.flatMap utf8EncodeChar = bytes ++ back.flatMap utf8EncodeChar) :
    ∃ before, cs = before ++ back ∧ before.flatMap utf8EncodeChar = bytes := by
  induction back generalizing bytes with
  | nil => exact ⟨cs, (List.append_nil cs).symm, by simpa using h⟩
  | cons c back ih =>
    obtain ⟨hc, hback⟩ := List.forall_mem_cons.1 hback
    rw [List.flatMap_cons, ← List.append_assoc] at h
    obtain ⟨more, hcs, hmore⟩ := ih hback h
    obtain ⟨before, rfl, hbefore⟩ := eq_append_of_flatMap_utf8 hc hmore
    exact ⟨before, by rw [hcs, List.append_assoc, List.singleton_append], hbefore⟩

theorem Bytes.ofText_of_toText? {bytes : Bytes} {s : String} (h : Bytes.toText? bytes = some s) :
    Bytes.ofText s = bytes := by
  unfold Bytes.toText? String.fromUTF8? at h
  split at h
  · cases h
    rfl
  · cases h

namespace Percent

/-! ### Digits -/

theorem hexValue?_digit : ∀ n < 16, Digest.hexValue? (digit n) = some n := by
  decide

theorem isAlphanum_digit : ∀ n < 16, (digit n).isAlphanum = true := by
  decide

theorem toNat_digit_lt : ∀ n < 16, (digit n).toNat < 128 := by
  decide

theorem ofNat_toNat_digit : ∀ n < 16, Char.ofNat (UInt8.ofNat (digit n).toNat).toNat = digit n := by
  decide

/-! ### Decoding -/

/-- A byte stands for itself unless it is a percent sign before two digits. -/
theorem decode_cons {b : UInt8} {rest : Bytes} (h : b = 0x25 → ∀ high low more,
      rest = high :: low :: more → ∀ i j, Digest.hexValue? (Char.ofNat high.toNat) = some i →
        Digest.hexValue? (Char.ofNat low.toNat) = some j → False) :
    decode (b :: rest) = b :: decode rest := by
  rw [decode.eq_def (b :: rest)]
  split
  · next high low more heq =>
    obtain ⟨rfl, rfl⟩ := List.cons.inj heq
    split
    · next hhigh hlow => exact (h rfl _ _ _ rfl _ _ hhigh hlow).elim
    · rfl
  · next heq =>
    obtain ⟨rfl, rfl⟩ := List.cons.inj heq
    rfl
  · next heq => cases heq

/-- The encoded form of a byte stands for the byte. -/
theorem decode_encodeByte (b : UInt8) (rest : Bytes) :
    decode ((encodeByte b).flatMap utf8EncodeChar ++ rest) = b :: decode rest := by
  have hhigh : b.toNat / 16 < 16 := by have := b.toNat_lt; omega
  have hlow : b.toNat % 16 < 16 := by omega
  have hbytes : (encodeByte b).flatMap utf8EncodeChar =
      [0x25, UInt8.ofNat (digit (b.toNat / 16)).toNat,
        UInt8.ofNat (digit (b.toNat % 16)).toNat] := by
    simp only [encodeByte, List.flatMap_cons, List.flatMap_nil,
      utf8EncodeChar_of_ascii (toNat_digit_lt _ hhigh),
      utf8EncodeChar_of_ascii (toNat_digit_lt _ hlow)]
    rfl
  rw [hbytes, List.cons_append, List.cons_append, List.cons_append, decode]
  rw [ofNat_toNat_digit _ hhigh, ofNat_toNat_digit _ hlow, hexValue?_digit _ hhigh,
    hexValue?_digit _ hlow]
  simp only
  rw [Nat.div_add_mod, UInt8.ofNat_toNat, List.nil_append]

/-- Decoding goes on behind a byte that is no digit as if nothing stood before it. -/
theorem decode_append (front : Bytes) {b : UInt8} (back : Bytes)
    (hb : Digest.hexValue? (Char.ofNat b.toNat) = none) :
    decode (front ++ b :: back) = decode front ++ decode (b :: back) := by
  fun_induction decode front with
  | case1 high low rest h l hhigh hlow ih =>
    rw [List.cons_append, List.cons_append, List.cons_append, decode]
    simp only [hhigh, hlow, ih, List.cons_append]
  | case2 high low rest hdigits ih =>
    rw [List.cons_append, decode_cons, ih, List.cons_append]
    rintro - high' low' more hcons
    obtain ⟨rfl, htail⟩ := List.cons.inj hcons
    obtain ⟨rfl, -⟩ := List.cons.inj htail
    exact hdigits
  | case3 b' rest hother ih =>
    rw [List.cons_append, decode_cons, ih, List.cons_append]
    rintro rfl high low more hcons
    -- Two digits after a percent sign cannot be completed by what is no digit.
    match rest with
    | [] =>
      rintro i - hhigh -
      rw [← (List.cons.inj hcons).1, hb] at hhigh
      cases hhigh
    | [x] =>
      rintro - j - hlow
      rw [← (List.cons.inj (List.cons.inj hcons).2).1, hb] at hlow
      cases hlow
    | x :: y :: rest => exact absurd rfl (hother x y rest rfl)
  | case4 => rfl

/-! ### Encoding -/

variable {set : Char → Bool}

/-- A character that is written as it is stands for itself. -/
theorem decode_char {c : Char} (hc : c.toNat < 128) (hpercent : c ≠ '%') (rest : Bytes) :
    decode (utf8EncodeChar c ++ rest) = utf8EncodeChar c ++ decode rest := by
  rw [utf8EncodeChar_of_ascii hc, List.singleton_append, decode_cons, List.singleton_append]
  intro hb
  refine absurd ?_ hpercent
  have hcode := congrArg UInt8.toNat hb
  rw [UInt8.toNat_ofNat', Nat.mod_eq_of_lt (by omega)] at hcode
  exact Char.toNat_inj.1 hcode

/-- Text without percent signs stands for itself. -/
theorem decode_plain {cs : List Char} (h : ∀ c ∈ cs, c.toNat < 128 ∧ c ≠ '%') (rest : Bytes) :
    decode (cs.flatMap utf8EncodeChar ++ rest) = cs.flatMap utf8EncodeChar ++ decode rest := by
  induction cs with
  | nil => rfl
  | cons c cs ih =>
    obtain ⟨hc, hpercent⟩ := h c List.mem_cons_self
    rw [List.flatMap_cons, List.append_assoc, decode_char hc hpercent,
      ih fun d hd => h d (List.mem_cons_of_mem _ hd), List.append_assoc]

/-- Encoded bytes stand for themselves. -/
theorem decode_encodeBytes (bytes rest : Bytes) :
    decode ((bytes.flatMap encodeByte).flatMap utf8EncodeChar ++ rest) = bytes ++ decode rest := by
  induction bytes with
  | nil => rfl
  | cons b bytes ih =>
    rw [List.flatMap_cons, List.flatMap_append, List.append_assoc, decode_encodeByte, ih,
      List.cons_append]

/-- **An encoded character stands for itself,** if percent signs are encoded. -/
theorem decode_encodeChar (hset : set '%' = true) (c : Char) (rest : Bytes) :
    decode ((encodeChar set c).flatMap utf8EncodeChar ++ rest) =
      utf8EncodeChar c ++ decode rest := by
  unfold encodeChar
  split
  · next hplain =>
    rw [Bool.and_eq_true, decide_eq_true_eq, Bool.not_eq_true'] at hplain
    have hpercent : c ≠ '%' := by
      rintro rfl
      exact Bool.noConfusion (hset.symm.trans hplain.2)
    rw [List.flatMap_singleton, decode_char hplain.1 hpercent]
  · exact decode_encodeBytes _ _

/-- What is encoded is written in characters that need not be encoded, percent signs apart, if
digits and letters need not be. -/
theorem mem_encodeChar (hset : ∀ c : Char, c.isAlphanum = true → set c = false) {c d : Char}
    (h : d ∈ encodeChar set c) : d.toNat < 128 ∧ (d = '%' ∨ set d = false) := by
  unfold encodeChar at h
  split at h
  · next hplain =>
    rw [Bool.and_eq_true, decide_eq_true_eq, Bool.not_eq_true'] at hplain
    rw [List.mem_singleton.1 h]
    exact ⟨hplain.1, .inr hplain.2⟩
  · obtain ⟨b, -, hb⟩ := List.mem_flatMap.1 h
    have hhigh : b.toNat / 16 < 16 := by have := b.toNat_lt; omega
    have hlow : b.toNat % 16 < 16 := by omega
    simp only [encodeByte, List.mem_cons, List.not_mem_nil, or_false] at hb
    rcases hb with rfl | rfl | rfl
    · exact ⟨by decide, .inl rfl⟩
    · exact ⟨toNat_digit_lt _ hhigh, .inr (hset _ (isAlphanum_digit _ hhigh))⟩
    · exact ⟨toNat_digit_lt _ hlow, .inr (hset _ (isAlphanum_digit _ hlow))⟩

/-- Encoding adds percent signs and digits only. -/
theorem eq_or_of_mem_encodeChar {c d : Char} (h : d ∈ encodeChar set c) :
    d = c ∨ d = '%' ∨ d.isAlphanum = true := by
  unfold encodeChar at h
  split at h
  · exact .inl (List.mem_singleton.1 h)
  · obtain ⟨b, -, hb⟩ := List.mem_flatMap.1 h
    simp only [encodeByte, List.mem_cons, List.not_mem_nil, or_false] at hb
    rcases hb with rfl | rfl | rfl
    · exact .inr (.inl rfl)
    · exact .inr (.inr (isAlphanum_digit _ (by have := b.toNat_lt; omega)))
    · exact .inr (.inr (isAlphanum_digit _ (by omega)))

/-- Text that needs no encoding is left alone. -/
theorem encode_of_plain {cs : List Char} (h : ∀ c ∈ cs, c.toNat < 128 ∧ set c = false) :
    encode set cs = cs := by
  induction cs with
  | nil => rfl
  | cons c cs ih =>
    obtain ⟨hc, hset⟩ := h c List.mem_cons_self
    have hchar : encodeChar set c = [c] := by simp [encodeChar, hc, hset]
    rw [encode, List.flatMap_cons, hchar, ← encode, ih fun d hd => h d (List.mem_cons_of_mem _ hd)]
    rfl

/-! ### Texts that begin or end in plain characters -/

/-- A text that begins with an ASCII character other than a percent sign stands for one that
does. -/
theorem decodeText?_cons {c : Char} (hc : c.toNat < 128) (hpercent : c ≠ '%') {rest : List Char}
    {s : String} (h : decodeText? (String.ofList (c :: rest)) = some s) :
    ∃ more, s.toList = c :: more := by
  have htext := Bytes.ofText_of_toText? h
  rw [Bytes.ofText_ofList, Bytes.ofText_eq, List.flatMap_cons, decode_char hc hpercent] at htext
  exact eq_cons_of_flatMap_utf8 hc htext

/-- A text that ends in characters that stand for themselves, behind a dot, stands for one that
ends so. -/
theorem decodeText?_append {front back : List Char} {s : String}
    (hback : ∀ c ∈ back, c.toNat < 128 ∧ c ≠ '%')
    (h : decodeText? (String.ofList (front ++ '.' :: back)) = some s) :
    ∃ before, s.toList = before ++ '.' :: back := by
  have hplain : ∀ c ∈ '.' :: back, c.toNat < 128 ∧ c ≠ '%' :=
    List.forall_mem_cons.2 ⟨by decide, hback⟩
  have hbytes : decode ((front ++ '.' :: back).flatMap utf8EncodeChar) =
      decode (front.flatMap utf8EncodeChar) ++ ('.' :: back).flatMap utf8EncodeChar := by
    have hdot : ('.' :: back).flatMap utf8EncodeChar = 0x2E :: back.flatMap utf8EncodeChar := rfl
    have hself := decode_plain hplain []
    rw [List.append_nil, hdot] at hself
    rw [List.flatMap_append, hdot, decode_append _ _ (by decide), hself]
    exact congrArg _ (List.append_nil _)
  have htext := Bytes.ofText_of_toText? h
  rw [Bytes.ofText_ofList, Bytes.ofText_eq, hbytes] at htext
  obtain ⟨before, hs, -⟩ := exists_of_flatMap_utf8 (fun c hc => (hplain c hc).1) htext
  exact ⟨before, hs⟩

end Percent

end Depot
