import Mathlib.Data.String.Basic
import RouteContracts.Proofs.Text.Utf8

/-! # The order of texts and of their bytes
The order of texts by their characters is that by their bytes: a character with a greater number has a greater
first byte, or the same first byte and a greater byte further on.

* `Utf8.encodeChar_append_lt`: the bytes of two characters in order.
* `Utf8.encode_lt_encode`: **texts are in order when their bytes are.** -/

namespace RouteContracts.Utf8

theorem toNat_lt (c : Char) : c.toNat < 0x110000 := by
  have hvalid := c.valid
  unfold UInt32.isValidChar Nat.isValidChar at hvalid
  unfold Char.toNat
  omega

/-- **`encodeChar c` comes before `encodeChar d`** where `c` is the smaller character, whatever follows them. -/
theorem encodeChar_append_lt {c d : Char} (h : c.toNat < d.toNat) (s t : List UInt8) :
    encodeChar c ++ s < encodeChar d ++ t := by
  have hd := toNat_lt d
  simp only [encodeChar]
  -- The first byte tells how many follow it, so bytes of different lengths differ there.
  split_ifs <;>
    simp (disch := omega) only [List.cons_append, List.nil_append, List.cons_lt_cons_iff,
      UInt8.lt_iff_toNat_lt, ← UInt8.toNat_inj, toNat_tail, toNat_ofNat_of_lt] <;> omega

/-- `front ++ s < front ++ t` where `s < t`. -/
theorem append_lt_append (front : List UInt8) {s t : List UInt8} (h : s < t) : front ++ s < front ++ t := by
  induction front with
  | nil => exact h
  | cons b front ih => exact List.cons_lt_cons_iff.mpr (.inr ⟨rfl, ih⟩)

theorem encodeChars_lt {s t : List Char} (h : s < t) : encodeChars s < encodeChars t := by
  induction s generalizing t with
  | nil =>
    cases t with
    | nil => exact absurd h (List.not_lt_nil _)
    | cons d t =>
      obtain ⟨b, bytes, hbytes⟩ := List.exists_cons_of_ne_nil (encodeChar_ne_nil d)
      rw [encodeChars, encodeChars, List.flatMap_nil, List.flatMap_cons, hbytes]
      exact List.nil_lt_cons ..
  | cons c s ih =>
    cases t with
    | nil => exact absurd h (List.not_lt_nil _)
    | cons d t =>
      rw [encodeChars, encodeChars, List.flatMap_cons, List.flatMap_cons]
      -- the first characters that differ decide, and so do their bytes
      rcases List.cons_lt_cons_iff.mp h with hcd | ⟨rfl, hst⟩
      · exact encodeChar_append_lt hcd _ _
      · exact append_lt_append _ (ih hst)

/-- **`encode a < encode b ↔ a < b`**: texts are in order when their bytes are. -/
theorem encode_lt_encode {a b : String} : encode a < encode b ↔ a < b := by
  have hlt : ∀ {a b : String}, a < b → encode a < encode b := fun h =>
    encodeChars_lt (String.lt_iff_toList_lt.mp h)
  refine ⟨fun h => ?_, hlt⟩
  rcases lt_trichotomy a b with hab | rfl | hba
  · exact hab
  · exact absurd h (List.lt_irrefl _)
  · exact absurd h (List.lt_asymm (hlt hba))

end RouteContracts.Utf8
