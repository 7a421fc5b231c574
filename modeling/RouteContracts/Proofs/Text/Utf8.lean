import RouteContracts.Proofs.Text.Characters
import RouteContracts.Text.Utf8

/-! # Reading UTF-8
The bytes of a text are read back as the text. The bytes of a character say how many there are, and no byte
after the first is one that a character can begin with.

* `Utf8.front_encodeChar`: the bytes of a character are read as the character.
* `Utf8.decodeLossy_encode`: **the bytes of a text are those of no other text**, and none is replaced. -/

namespace RouteContracts.Utf8

/-! ## Characters -/

theorem toNat_ofNat_of_lt {n : Nat} (h : n < 256) : (UInt8.ofNat n).toNat = n := by
  rw [UInt8.toNat_ofNat']
  exact Nat.mod_eq_of_lt h

theorem toNat_tail (n : Nat) : (tail n).toNat = 0x80 + n % 64 :=
  toNat_ofNat_of_lt (by omega)

theorem six_tail (n : Nat) : six (tail n) = n % 64 := by
  rw [six, toNat_tail]
  omega

theorem isTail_tail (n : Nat) : isTail (tail n) = true := by
  simp only [isTail, Bool.and_eq_true, decide_eq_true_eq, UInt8.le_iff_toNat_le, toNat_tail]
  exact ⟨show 0x80 ≤ _ by omega, show _ ≤ 0xBF by omega⟩

/-- `low ≤ tail n ≤ high`, by the numbers of the bytes. -/
theorem between_tail {low high : UInt8} {n : Nat} (hlow : low.toNat ≤ 0x80 + n % 64)
    (hhigh : 0x80 + n % 64 ≤ high.toNat) : low ≤ tail n ∧ tail n ≤ high := by
  simp only [UInt8.le_iff_toNat_le, toNat_tail]
  exact ⟨hlow, hhigh⟩

/-- A byte from `0x80` on is no ASCII character. -/
theorem not_lt_ascii {n : Nat} (hlow : 0x80 ≤ n) (hhigh : n < 256) : ¬UInt8.ofNat n < 0x80 := by
  rw [UInt8.lt_iff_toNat_lt, toNat_ofNat_of_lt hhigh]
  exact show ¬_ < 0x80 by omega

theorem front_one {n : Nat} (h : n < 0x80) (rest : List UInt8) :
    front (UInt8.ofNat n :: rest) = (some (Char.ofNat n), 1) := by
  have hlt : UInt8.ofNat n < 0x80 := by
    rw [UInt8.lt_iff_toNat_lt, toNat_ofNat_of_lt (by omega)]
    exact h
  rw [front, if_pos hlt, toNat_ofNat_of_lt (by omega)]

theorem front_two {n : Nat} (hlow : 0x80 ≤ n) (hhigh : n < 0x800) (rest : List UInt8) :
    front (UInt8.ofNat (0xC0 + n / 64) :: tail n :: rest) = (some (Char.ofNat n), 2) := by
  have hn := toNat_ofNat_of_lt (show 0xC0 + n / 64 < 256 by omega)
  have hlead : lead? (UInt8.ofNat (0xC0 + n / 64)) = some (1, 0x80, 0xBF) := by
    rw [lead?, if_pos]
    simp only [UInt8.le_iff_toNat_le, hn]
    exact ⟨show 0xC2 ≤ _ by omega, show _ ≤ 0xDF by omega⟩
  have htail : 0x80 ≤ tail n ∧ tail n ≤ 0xBF :=
    between_tail (show 0x80 ≤ _ by omega) (show _ ≤ 0xBF by omega)
  rw [front, if_neg (not_lt_ascii (by omega) (by omega)), hlead]
  simp only [if_pos htail, hn, six_tail]
  rw [show (0xC0 + n / 64) % 32 * 64 + n % 64 = n by omega]

/-- `lead?` of the first of three bytes allows the second one: short forms and halves of pairs are left out. -/
theorem lead?_three {n : Nat} (hlow : 0x800 ≤ n) (hhigh : n < 0x10000) (hpair : n < 0xD800 ∨ 0xE000 ≤ n) :
    ∃ low high, lead? (UInt8.ofNat (0xE0 + n / 4096)) = some (2, low, high) ∧
      low ≤ tail (n / 64) ∧ tail (n / 64) ≤ high := by
  have hn := toNat_ofNat_of_lt (show 0xE0 + n / 4096 < 256 by omega)
  have hbytes : ∀ b : UInt8, UInt8.ofNat (0xE0 + n / 4096) = b ↔ 0xE0 + n / 4096 = b.toNat := by
    intro b
    rw [← UInt8.toNat_inj, hn]
  simp only [lead?, UInt8.le_iff_toNat_le, hbytes, hn, toNat_tail, UInt8.reduceToNat]
  rw [if_neg (show ¬(0xC2 ≤ 0xE0 + n / 4096 ∧ 0xE0 + n / 4096 ≤ 0xDF) by omega)]
  -- two first bytes allow fewer second ones: no form that is too long, and no half of a pair
  by_cases hfirst : 0xE0 + n / 4096 = 0xE0
  · rw [if_pos hfirst]
    exact ⟨_, _, rfl, show 0xA0 ≤ _ by omega, show _ ≤ 0xBF by omega⟩
  · rw [if_neg hfirst]
    by_cases hpairs : 0xE0 + n / 4096 = 0xED
    · rw [if_pos hpairs]
      exact ⟨_, _, rfl, show 0x80 ≤ _ by omega, show _ ≤ 0x9F by omega⟩
    · rw [if_neg hpairs, if_pos (show 0xE1 ≤ 0xE0 + n / 4096 ∧ 0xE0 + n / 4096 ≤ 0xEF by omega)]
      exact ⟨_, _, rfl, show 0x80 ≤ _ by omega, show _ ≤ 0xBF by omega⟩

theorem front_three {n : Nat} (hlow : 0x800 ≤ n) (hhigh : n < 0x10000) (hpair : n < 0xD800 ∨ 0xE000 ≤ n)
    (rest : List UInt8) :
    front (UInt8.ofNat (0xE0 + n / 4096) :: tail (n / 64) :: tail n :: rest) = (some (Char.ofNat n), 3) := by
  obtain ⟨low, high, hlead, hbetween⟩ := lead?_three hlow hhigh hpair
  have hn := toNat_ofNat_of_lt (show 0xE0 + n / 4096 < 256 by omega)
  rw [front, if_neg (not_lt_ascii (by omega) (by omega)), hlead]
  simp only [if_pos hbetween, if_pos (isTail_tail n), hn, six_tail]
  rw [show (0xE0 + n / 4096) % 16 * 4096 + n / 64 % 64 * 64 + n % 64 = n by omega]

/-- `lead?` of the first of four bytes allows the second one: short forms and large numbers are left out. -/
theorem lead?_four {n : Nat} (hlow : 0x10000 ≤ n) (hhigh : n < 0x110000) :
    ∃ low high, lead? (UInt8.ofNat (0xF0 + n / 262144)) = some (3, low, high) ∧
      low ≤ tail (n / 4096) ∧ tail (n / 4096) ≤ high := by
  have hn := toNat_ofNat_of_lt (show 0xF0 + n / 262144 < 256 by omega)
  have hbytes : ∀ b : UInt8, UInt8.ofNat (0xF0 + n / 262144) = b ↔ 0xF0 + n / 262144 = b.toNat := by
    intro b
    rw [← UInt8.toNat_inj, hn]
  simp only [lead?, UInt8.le_iff_toNat_le, hbytes, hn, toNat_tail, UInt8.reduceToNat]
  rw [if_neg (show ¬(0xC2 ≤ 0xF0 + n / 262144 ∧ 0xF0 + n / 262144 ≤ 0xDF) by omega),
    if_neg (show 0xF0 + n / 262144 ≠ 0xE0 by omega), if_neg (show 0xF0 + n / 262144 ≠ 0xED by omega),
    if_neg (show ¬(0xE1 ≤ 0xF0 + n / 262144 ∧ 0xF0 + n / 262144 ≤ 0xEF) by omega)]
  -- two first bytes allow fewer second ones: no form that is too long, and nothing past the last character
  by_cases hfirst : 0xF0 + n / 262144 = 0xF0
  · rw [if_pos hfirst]
    exact ⟨_, _, rfl, show 0x90 ≤ _ by omega, show _ ≤ 0xBF by omega⟩
  · rw [if_neg hfirst]
    by_cases hmiddle : 0xF1 ≤ 0xF0 + n / 262144 ∧ 0xF0 + n / 262144 ≤ 0xF3
    · rw [if_pos hmiddle]
      exact ⟨_, _, rfl, show 0x80 ≤ _ by omega, show _ ≤ 0xBF by omega⟩
    · rw [if_neg hmiddle, if_pos (show 0xF0 + n / 262144 = 0xF4 by omega)]
      exact ⟨_, _, rfl, show 0x80 ≤ _ by omega, show _ ≤ 0x8F by omega⟩

theorem front_four {n : Nat} (hlow : 0x10000 ≤ n) (hhigh : n < 0x110000) (rest : List UInt8) :
    front (UInt8.ofNat (0xF0 + n / 262144) :: tail (n / 4096) :: tail (n / 64) :: tail n :: rest) =
      (some (Char.ofNat n), 4) := by
  obtain ⟨low, high, hlead, hbetween⟩ := lead?_four hlow hhigh
  have hn := toNat_ofNat_of_lt (show 0xF0 + n / 262144 < 256 by omega)
  rw [front, if_neg (not_lt_ascii (by omega) (by omega)), hlead]
  simp only [if_pos hbetween, if_pos (isTail_tail n), if_pos (isTail_tail (n / 64)), hn, six_tail]
  rw [show (0xF0 + n / 262144) % 8 * 262144 + n / 4096 % 64 * 4096 + n / 64 % 64 * 64 + n % 64 = n by omega]

/-- **`front` reads the bytes of a character as the character**, whatever follows them. -/
theorem front_encodeChar (c : Char) (rest : List UInt8) :
    front (encodeChar c ++ rest) = (some c, (encodeChar c).length) := by
  obtain ⟨hlast, hpair⟩ := Text.toNat_bounds c
  have hc : Char.ofNat c.toNat = c := Char.ofNat_toNat c
  unfold encodeChar
  dsimp only
  -- one case for each number of bytes
  split
  · next h =>
    have hread := front_one h rest
    rwa [hc] at hread
  · next h1 =>
    split
    · next h =>
      have hread := front_two (by omega) h rest
      rwa [hc] at hread
    · next h2 =>
      split
      · next h =>
        have hread := front_three (by omega) h hpair rest
        rwa [hc] at hread
      · next h3 =>
        have hread := front_four (by omega) hlast rest
        rwa [hc] at hread

theorem encodeChar_ne_nil (c : Char) : encodeChar c ≠ [] := by
  unfold encodeChar
  dsimp only
  repeat' split
  all_goals exact List.cons_ne_nil _ _

/-! ## Texts -/

/-- `stretches` reads `encodeChars cs` as the characters, one after another. -/
theorem stretches_encodeChars (cs : List Char) {fuel : Nat} (hfuel : (encodeChars cs).length ≤ fuel) :
    stretches fuel (encodeChars cs) = cs.map some := by
  induction cs generalizing fuel with
  | nil => cases fuel <;> rfl
  | cons c cs ih =>
    have hshape : encodeChars (c :: cs) = encodeChar c ++ encodeChars cs := List.flatMap_cons
    have hpos : 0 < (encodeChar c).length := List.length_pos_iff.mpr (encodeChar_ne_nil c)
    rw [hshape, List.length_append] at hfuel
    obtain ⟨fuel, rfl⟩ : ∃ n, fuel = n + 1 := ⟨fuel - 1, by omega⟩
    -- the first character's bytes are taken as a whole, as they are read back as it
    have hdrop : (encodeChar c ++ encodeChars cs).drop (max (encodeChar c).length 1) = encodeChars cs := by
      rw [Nat.max_eq_left hpos, List.drop_left]
    rw [hshape, stretches]
    · rw [front_encodeChar]
      simp only [hdrop]
      rw [ih (by omega)]
      rfl
    · intro h
      exact absurd (List.append_eq_nil_iff.mp h).1 (encodeChar_ne_nil c)

/-- **`decodeLossy (encode s) = s`.** -/
theorem decodeLossy_encode (s : String) : decodeLossy (encode s) = s := by
  rw [decodeLossy, encode, stretches_encodeChars s.toList (Nat.le_refl _), List.map_map]
  have hid : (fun c : Option Char => c.getD '\ufffd') ∘ some = id := rfl
  rw [hid, List.map_id, String.ofList_toList]

/-- **`decode? (encode s) = some s`.** -/
theorem decode?_encode (s : String) : decode? (encode s) = some s := by
  have hall : (s.toList.map some).mapM id = some s.toList := by
    rw [List.mapM_map]
    exact (List.mapM_pure (f := id)).trans (congrArg some (List.map_id _))
  rw [decode?, encode, stretches_encodeChars s.toList (Nat.le_refl _), hall]
  exact congrArg some String.ofList_toList

end RouteContracts.Utf8
