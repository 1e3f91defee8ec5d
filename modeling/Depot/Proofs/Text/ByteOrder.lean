import Mathlib.Tactic.SplitIfs
import Depot.Dict
import Depot.Proofs.Url.Percent

/-!
# The order of bytes

Texts are ordered by the first character in which they differ, and byte strings by the first byte.
UTF-8 keeps the order: the bytes of a text are smaller than those of another if the text is. The
entries of a dictionary stand in the order of the bytes of their keys for that reason.

## Main results

* `append_utf8EncodeChar_lt` : a smaller character has smaller bytes, whatever follows.
* `Bytes.ofText_lt` : a smaller text has smaller bytes.
* `Dict.pairwise_bytes` : the entries of a dictionary stand in the order of the bytes of their keys.
-/

namespace Depot

open String (utf8EncodeChar)

theorem toNat_val_lt (c : Char) : c.val.toNat < 1114112 := by
  rcases c.valid with h | h
  · exact Nat.lt_trans h (by decide)
  · exact h.2

/-- Of two bytes that are written for numbers, the smaller one decides. -/
theorem cons_ofNat_lt_iff {m n : Nat} (hm : m < 256) (hn : n < 256) {xs ys : Bytes} :
    UInt8.ofNat m :: xs < UInt8.ofNat n :: ys ↔ m < n ∨ m = n ∧ xs < ys := by
  rw [List.cons_lt_cons_iff, UInt8.ofNat_lt_iff_lt hm hn, ← UInt8.toNat_inj, UInt8.toNat_ofNat',
    UInt8.toNat_ofNat', Nat.mod_eq_of_lt hm, Nat.mod_eq_of_lt hn]

/-- **A smaller character has smaller bytes,** whatever follows them. The first byte tells how many
there are, and more bytes are for greater characters. -/
theorem append_utf8EncodeChar_lt {c d : Char} (h : c < d) (xs ys : Bytes) :
    utf8EncodeChar c ++ xs < utf8EncodeChar d ++ ys := by
  have hlt : c.val.toNat < d.val.toNat := UInt32.lt_iff_toNat_lt.1 h
  have hc := toNat_val_lt c
  have hd := toNat_val_lt d
  -- The digits to the base sixty-four, of which the first one is below eight.
  have hdigits : ∀ k < 1114112,
      k / 64 / 64 = k / 4096 ∧ k / 4096 / 64 = k / 262144 ∧ k / 262144 / 8 = 0 := by omega
  have hdivc := hdigits _ hc
  have hdivd := hdigits _ hd
  simp only [utf8EncodeChar]
  generalize c.val.toNat = m at hlt hc hdivc
  generalize d.val.toNat = n at hlt hd hdivd
  split_ifs <;>
    simp (disch := omega) only [List.cons_append, List.nil_append, cons_ofNat_lt_iff] <;> omega

theorem flatMap_utf8_lt {cs ds : List Char} (h : cs < ds) :
    cs.flatMap utf8EncodeChar < ds.flatMap utf8EncodeChar := by
  induction ds generalizing cs with
  | nil => exact absurd h (List.not_lt_nil cs)
  | cons d ds ih =>
    rw [List.flatMap_cons]
    match cs with
    | [] =>
      obtain ⟨b, bytes, hbytes⟩ := List.exists_cons_of_ne_nil (String.utf8EncodeChar_ne_nil (c := d))
      rw [hbytes]
      exact List.nil_lt_cons _ _
    | c :: cs =>
      rw [List.flatMap_cons]
      rcases List.cons_lt_cons_iff.1 h with hlt | ⟨rfl, hrest⟩
      · exact append_utf8EncodeChar_lt hlt _ _
      · exact List.append_left_lt (ih hrest)

/-- **A smaller text has smaller bytes.** -/
theorem Bytes.ofText_lt {a b : String} (h : a < b) : ofText a < ofText b := by
  rw [ofText_eq, ofText_eq]
  exact flatMap_utf8_lt (String.lt_iff.1 h)

/-- The entries of a dictionary stand in the order of the bytes of their keys. -/
theorem Dict.pairwise_bytes {α : Type} (d : Dict α) :
    d.pairs.Pairwise fun a b => Bytes.ofText a.1 < Bytes.ofText b.1 :=
  d.ordered.imp Bytes.ofText_lt

end Depot
