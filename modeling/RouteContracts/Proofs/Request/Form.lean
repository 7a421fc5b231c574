import RouteContracts.Proofs.Text.Utf8
import RouteContracts.Request.Form

/-! # Reading form-encoded queries
Every list of pairs of texts is read back from its form-encoded text. The separators stand in no name and no
value, for both are encoded there.

* `Form.percentDecode_encodeByte`: the form of a byte is read as the byte.
* `Form.splitOn_intercalate`: pieces between separators are told apart.
* `Form.decodePairs_encodePairs`: **a list of pairs is read back.** -/

namespace RouteContracts.Form

/-! ## Bytes of ASCII characters -/

/-- The bytes of ASCII characters. -/
def asciiBytes (cs : List Char) : List UInt8 := cs.map fun c => UInt8.ofNat c.toNat

theorem asciiBytes_append (cs ds : List Char) : asciiBytes (cs ++ ds) = asciiBytes cs ++ asciiBytes ds :=
  List.map_append

theorem encodeChars_ascii {cs : List Char} (h : ∀ c ∈ cs, c.toNat < 0x80) :
    Utf8.encodeChars cs = asciiBytes cs := by
  induction cs with
  | nil => rfl
  | cons c cs ih =>
    have hc : Utf8.encodeChar c = [UInt8.ofNat c.toNat] := if_pos (h c (List.mem_cons_self ..))
    rw [Utf8.encodeChars, List.flatMap_cons, hc]
    exact congrArg (List.cons _) (ih fun d hd => h d (List.mem_cons_of_mem _ hd))

/-- `asciiBytes` of characters other than `d` do not have the byte of `d`. -/
theorem not_mem_asciiBytes {cs : List Char} {d : Char} (hcs : ∀ c ∈ cs, c.toNat < 0x80 ∧ c ≠ d)
    (hd : d.toNat < 0x80) : UInt8.ofNat d.toNat ∉ asciiBytes cs := by
  intro h
  obtain ⟨c, hc, heq⟩ := List.mem_map.mp h
  obtain ⟨hascii, hne⟩ := hcs c hc
  have hnat := congrArg UInt8.toNat heq
  rw [Utf8.toNat_ofNat_of_lt (by omega), Utf8.toNat_ofNat_of_lt (by omega)] at hnat
  exact hne (Char.ext (UInt32.toNat_inj.mp hnat))

/-- A property of `UInt8.ofNat n` for `n < 256` is one of all bytes. -/
theorem forall_byte {p : UInt8 → Prop} (h : ∀ n < 256, p (UInt8.ofNat n)) (b : UInt8) : p b := by
  have hb := h b.toNat b.toNat_lt
  rwa [UInt8.ofNat_toNat] at hb

/-- The characters of forms: they are ASCII, no separator, and nothing that a URL leaves out or writes in another
way. -/
def IsFormChar (c : Char) : Prop :=
  0x20 < c.toNat ∧ c.toNat < 0x7F ∧ c ∉ ['&', '=', '#', '"', '<', '>', '\'']

instance : DecidablePred IsFormChar := fun _ => inferInstanceAs (Decidable (_ ∧ _))

/-! ## Bytes -/

/-- How a plus sign is read. -/
def plusToSpace (bs : List UInt8) : List UInt8 := bs.map fun b => if b = 0x2B then 0x20 else b

theorem plusToSpace_of_not_mem {bs : List UInt8} (h : 0x2B ∉ bs) : plusToSpace bs = bs := by
  have hkept : ∀ b ∈ bs, (if b = 0x2B then 0x20 else b) = id b := by
    intro b hb
    have hne : b ≠ 0x2B := fun heq => h (heq ▸ hb)
    exact if_neg hne
  exact (List.map_congr_left hkept).trans (List.map_id bs)

theorem percentDecode_cons {b : UInt8} (h : b ≠ 0x25) (rest : List UInt8) :
    percentDecode (b :: rest) = b :: percentDecode rest := by
  rw [percentDecode]
  rintro h' l more rfl
  exact absurd rfl h

/-- `hexDigit d` is an `IsFormChar`, is no plus sign, and `hexValue?` reads it as `d`. -/
theorem hexDigit_spec {d : Nat} (h : d < 16) :
    IsFormChar (hexDigit d) ∧ hexDigit d ≠ '+' ∧ hexValue? (UInt8.ofNat (hexDigit d).toNat) = some d := by
  have hall : ∀ d < 16, IsFormChar (hexDigit d) ∧ hexDigit d ≠ '+' ∧
      hexValue? (UInt8.ofNat (hexDigit d).toNat) = some d := by
    decide
  exact hall d h

/-- A byte with `isPlain` is its character, which is an `IsFormChar`, and neither a percent nor a plus sign. -/
theorem plain_byte {b : UInt8} (h : isPlain b = true) :
    IsFormChar (Char.ofNat b.toNat) ∧ asciiBytes [Char.ofNat b.toNat] = [b] ∧ b ≠ 0x25 ∧ b ≠ 0x2B := by
  refine forall_byte (p := fun b => isPlain b = true →
    IsFormChar (Char.ofNat b.toNat) ∧ asciiBytes [Char.ofNat b.toNat] = [b] ∧ b ≠ 0x25 ∧ b ≠ 0x2B) ?_ b h
  decide +kernel

/-- The characters of `encodeByte b` are `IsFormChar`. -/
theorem encodeByte_chars (b : UInt8) : ∀ c ∈ encodeByte b, IsFormChar c := by
  have hhigh := (hexDigit_spec (show b.toNat / 16 < 16 by have := b.toNat_lt; omega)).1
  have hlow := (hexDigit_spec (show b.toNat % 16 < 16 by omega)).1
  unfold encodeByte
  split
  · next h => exact List.forall_mem_singleton.mpr (plain_byte h).1
  · split
    · exact List.forall_mem_singleton.mpr (by decide)
    · intro c hc
      simp only [List.mem_cons, List.not_mem_nil, or_false] at hc
      rcases hc with rfl | rfl | rfl
      · decide
      · exact hhigh
      · exact hlow

/-- **`percentDecode` reads `encodeByte b` as `b`.** -/
theorem percentDecode_encodeByte (b : UInt8) (rest : List UInt8) :
    percentDecode (plusToSpace (asciiBytes (encodeByte b)) ++ rest) = b :: percentDecode rest := by
  unfold encodeByte
  -- a byte stands for itself, is a space, or has two hexadecimal digits
  split
  · next h =>
    obtain ⟨-, hbyte, hpercent, hplus⟩ := plain_byte h
    rw [hbyte, plusToSpace_of_not_mem (by simpa using hplus.symm), List.singleton_append,
      percentDecode_cons hpercent]
  · split
    · next h =>
      rw [h]
      exact percentDecode_cons (by decide) rest
    · obtain ⟨hformHigh, hplusHigh, hhigh⟩ := hexDigit_spec (show b.toNat / 16 < 16 by have := b.toNat_lt; omega)
      obtain ⟨hformLow, hplusLow, hlow⟩ := hexDigit_spec (show b.toNat % 16 < 16 by omega)
      have hplus : 0x2B ∉ asciiBytes ['%', hexDigit (b.toNat / 16), hexDigit (b.toNat % 16)] := by
        refine not_mem_asciiBytes (d := '+') (fun c hc => ?_) (by decide)
        simp only [List.mem_cons, List.not_mem_nil, or_false] at hc
        rcases hc with rfl | rfl | rfl
        · decide
        · exact ⟨Nat.lt_succ_of_lt hformHigh.2.1, hplusHigh⟩
        · exact ⟨Nat.lt_succ_of_lt hformLow.2.1, hplusLow⟩
      rw [plusToSpace_of_not_mem hplus]
      show percentDecode (0x25 :: _ :: _ :: rest) = _
      rw [percentDecode, hhigh, hlow]
      have hvalue : b.toNat / 16 * 16 + b.toNat % 16 = b.toNat := by omega
      simp only [hvalue, UInt8.ofNat_toNat]

/-- `percentDecode` reads the forms of some bytes as these. -/
theorem percentDecode_encode (bs : List UInt8) :
    percentDecode (plusToSpace (asciiBytes (bs.flatMap encodeByte))) = bs := by
  induction bs with
  | nil => rfl
  | cons b bs ih =>
    have hshape : plusToSpace (asciiBytes ((b :: bs).flatMap encodeByte)) =
        plusToSpace (asciiBytes (encodeByte b)) ++ plusToSpace (asciiBytes (bs.flatMap encodeByte)) := by
      rw [List.flatMap_cons, asciiBytes_append]
      exact List.map_append
    rw [hshape, percentDecode_encodeByte, ih]

/-- **`decode` inverts `encode`.** -/
theorem decode_encode (s : String) : decode (asciiBytes (encode s)) = s := by
  have h := percentDecode_encode (Utf8.encode s)
  rw [decode]
  show Utf8.decodeLossy (percentDecode (plusToSpace (asciiBytes ((Utf8.encode s).flatMap encodeByte)))) = s
  rw [h, Utf8.decodeLossy_encode]

theorem encode_chars (s : String) : ∀ c ∈ encode s, IsFormChar c := by
  intro c hc
  obtain ⟨b, -, hc⟩ := List.mem_flatMap.mp hc
  exact encodeByte_chars b c hc

/-! ## Pairs -/

/-- `splitOn sep` cuts a piece without `sep` off at the separator behind it. -/
theorem splitOn_append {sep : UInt8} {piece : List UInt8} (h : sep ∉ piece) :
    splitOn sep piece = [piece] ∧
      ∀ rest, splitOn sep (piece ++ sep :: rest) = piece :: splitOn sep rest := by
  induction piece with
  | nil => exact ⟨rfl, fun rest => if_pos rfl⟩
  | cons b piece ih =>
    rw [List.mem_cons, not_or] at h
    obtain ⟨hone, hmore⟩ := ih h.2
    have hb : b ≠ sep := fun heq => h.1 heq.symm
    refine ⟨?_, fun rest => ?_⟩
    · rw [splitOn, if_neg hb, hone]
    · rw [List.cons_append, splitOn, if_neg hb, hmore]

/-- **`splitOn sep` inverts `[sep].intercalate`** on pieces without `sep`. -/
theorem splitOn_intercalate {sep : UInt8} {piece : List UInt8} {pieces : List (List UInt8)}
    (h : ∀ p ∈ piece :: pieces, sep ∉ p) :
    splitOn sep ([sep].intercalate (piece :: pieces)) = piece :: pieces := by
  induction pieces generalizing piece with
  | nil =>
    rw [List.intercalate_singleton]
    exact (splitOn_append (h piece (List.mem_cons_self ..))).1
  | cons next pieces ih =>
    rw [List.intercalate_cons_cons, List.append_assoc, List.singleton_append,
      (splitOn_append (h piece (List.mem_cons_self ..))).2, ih fun p hp => h p (List.mem_cons_of_mem _ hp)]

/-- `splitPair` tells a name and a value apart. -/
theorem splitPair_append {name value : List UInt8} (h : 0x3D ∉ name) :
    splitPair (name ++ 0x3D :: value) = (name, value) := by
  have hname : ∀ b ∈ name, decide (b ≠ 0x3D) = true := by
    intro b hb
    exact decide_eq_true fun heq => h (heq ▸ hb)
  rw [splitPair, List.takeWhile_append_of_pos hname, List.dropWhile_append_of_pos hname]
  simp

theorem asciiBytes_intercalate (pieces : List (List Char)) :
    asciiBytes (['&'].intercalate pieces) = [0x26].intercalate (pieces.map asciiBytes) := by
  induction pieces with
  | nil => rfl
  | cons piece pieces ih =>
    cases pieces with
    | nil => simp only [List.map_cons, List.map_nil, List.intercalate_singleton]
    | cons next pieces =>
      have hsep : asciiBytes ['&'] = [0x26] := rfl
      rw [List.intercalate_cons_cons, asciiBytes_append, asciiBytes_append, ih, hsep]
      simp only [List.map_cons, List.intercalate_cons_cons]

theorem mem_intercalate_pairs {pairs : List (String × String)} {c : Char}
    (hc : c ∈ ['&'].intercalate (pairs.map encodePair)) :
    c = '&' ∨ c = '=' ∨ ∃ s, c ∈ encode s := by
  rcases Text.mem_intercalate hc with hc | ⟨w, hw, hc⟩
  · exact .inl hc
  · obtain ⟨p, -, rfl⟩ := List.mem_map.mp hw
    rcases List.mem_append.mp hc with hc | hc
    · exact .inr (.inr ⟨_, hc⟩)
    · rcases List.mem_cons.mp hc with hc | hc
      · exact .inr (.inl hc)
      · exact .inr (.inr ⟨_, hc⟩)

/-- The characters of `encodePairs pairs`: printable ASCII that stands for itself in the query of every URL. -/
theorem encodePairs_chars (pairs : List (String × String)) : ∀ c ∈ (encodePairs pairs).toList,
    0x20 < c.toNat ∧ c.toNat < 0x7F ∧ c ∉ ['#', '"', '<', '>', '\''] := by
  intro c hc
  rw [encodePairs, String.toList_ofList] at hc
  rcases mem_intercalate_pairs hc with rfl | rfl | ⟨s, hc⟩
  · decide
  · decide
  · obtain ⟨hlow, hhigh, hmem⟩ := encode_chars s c hc
    exact ⟨hlow, hhigh, fun h => hmem (List.mem_cons_of_mem _ (List.mem_cons_of_mem _ h))⟩

/-- `splitPair` of `encodePair p` gives the forms of its name and its value. -/
theorem splitPair_encodePair (p : String × String) :
    splitPair (asciiBytes (encodePair p)) = (asciiBytes (encode p.1), asciiBytes (encode p.2)) := by
  have hname : (0x3D : UInt8) ∉ asciiBytes (encode p.1) := by
    refine not_mem_asciiBytes (d := '=') (fun c hc => ?_) (by decide)
    obtain ⟨-, hhigh, hmem⟩ := encode_chars p.1 c hc
    exact ⟨by omega, fun h => hmem (by rw [h]; decide)⟩
  rw [encodePair, asciiBytes_append]
  exact splitPair_append hname

/-- `decode` of `splitPair` of `encodePair p` gives `p`. -/
theorem decode_splitPair_encodePair (p : String × String) :
    (decode (splitPair (asciiBytes (encodePair p))).1, decode (splitPair (asciiBytes (encodePair p))).2) = p := by
  rw [splitPair_encodePair, decode_encode, decode_encode]

/-- The bytes of `encodePairs pairs` are those of its pieces, joined by the separator: it is ASCII. -/
theorem encode_encodePairs (pairs : List (String × String)) :
    Utf8.encode (encodePairs pairs) = [0x26].intercalate (pairs.map fun p => asciiBytes (encodePair p)) := by
  have hascii : ∀ c ∈ ['&'].intercalate (pairs.map encodePair), c.toNat < 0x80 := by
    intro c hc
    have hchars := encodePairs_chars pairs c (by rw [encodePairs, String.toList_ofList]; exact hc)
    omega
  rw [Utf8.encode, encodePairs, String.toList_ofList, encodeChars_ascii hascii, asciiBytes_intercalate,
    List.map_map]
  rfl

/-- The separator of pairs is in no `encodePair`. -/
theorem not_mem_encodePair (p : String × String) : (0x26 : UInt8) ∉ asciiBytes (encodePair p) := by
  refine not_mem_asciiBytes (d := '&') (fun c hc => ?_) (by decide)
  have hencoded : ∀ s, c ∈ encode s → c.toNat < 0x80 ∧ c ≠ '&' := by
    intro s hc
    obtain ⟨-, hhigh, hmem⟩ := encode_chars s c hc
    exact ⟨by omega, fun h => hmem (by rw [h]; decide)⟩
  rcases List.mem_append.mp hc with hc | hc
  · exact hencoded _ hc
  · rcases List.mem_cons.mp hc with rfl | hc
    · decide
    · exact hencoded _ hc

theorem isEmpty_encodePair (p : String × String) : (asciiBytes (encodePair p)).isEmpty = false := by
  rw [encodePair, asciiBytes_append, List.isEmpty_eq_false_iff]
  exact List.append_ne_nil_of_right_ne_nil _ (List.cons_ne_nil _ _)

/-- **`decodePairs` inverts `encodePairs`.** -/
theorem decodePairs_encodePairs (pairs : List (String × String)) : decodePairs (encodePairs pairs) = pairs := by
  rw [decodePairs, encode_encodePairs]
  cases pairs with
  | nil => rfl
  | cons p pairs =>
    -- The pieces are those of the pairs: none has a separator, and none is empty and left out.
    rw [List.map_cons, splitOn_intercalate]
    · rw [← List.map_cons (f := fun p => asciiBytes (encodePair p)), List.filter_eq_self.mpr, List.map_map]
      · exact (List.map_congr_left fun q _ => decode_splitPair_encodePair q).trans (List.map_id _)
      · intro bs hbs
        obtain ⟨q, -, rfl⟩ := List.mem_map.mp hbs
        rw [isEmpty_encodePair]
        rfl
    · intro bs hbs
      rw [← List.map_cons (f := fun p => asciiBytes (encodePair p))] at hbs
      obtain ⟨q, -, rfl⟩ := List.mem_map.mp hbs
      exact not_mem_encodePair q

/-- `decodePairs` inverts `encodePairs` where no pairs have no text. -/
theorem elim_decodePairs (pairs : List (String × String)) :
    (if pairs.isEmpty then none else some (encodePairs pairs)).elim [] decodePairs = pairs := by
  cases pairs with
  | nil => rfl
  | cons p pairs => exact decodePairs_encodePairs _

end RouteContracts.Form
