import RouteContracts.Text.Quoted

/-! # Reading quoted texts
A quoted text can be read back, also when more follows it: where a text begins with two quoted texts, they
quote the same.

* `Text.quotedChar_prefix`: the form of a character tells which one it is, and where it ends.
* `Text.quoted_prefix`: **a quoted text tells what is quoted**, and where it ends. -/

namespace RouteContracts.Text

/-! ## Hexadecimal numbers -/

/-- `Nat.digitChar` is injective below 16. -/
theorem digitChar_inj {a b : Nat} (ha : a < 16) (hb : b < 16) (h : a.digitChar = b.digitChar) : a = b := by
  have hall : ∀ a : Fin 16, ∀ b : Fin 16, a.val.digitChar = b.val.digitChar → a.val = b.val := by decide
  exact hall ⟨a, ha⟩ ⟨b, hb⟩ h

/-- `Nat.toDigits 16 n` holds no brace. -/
theorem brace_not_mem_toDigits (n : Nat) : '\x7d' ∉ Nat.toDigits 16 n := by
  induction n using Nat.strongRecOn with
  | _ n ih =>
    have hdigit : ∀ d : Fin 16, '\x7d' ≠ d.val.digitChar := by decide
    by_cases h : n < 16
    · rw [Nat.toDigits_of_lt_base h, List.mem_singleton]
      exact hdigit ⟨n, h⟩
    · have hlt : n % 16 < 16 := Nat.mod_lt n (by decide)
      rw [Nat.toDigits_of_base_le (by decide) (Nat.le_of_not_lt h), List.mem_append, not_or]
      exact ⟨ih (n / 16) (by omega), fun hmem => hdigit ⟨n % 16, hlt⟩ (List.mem_singleton.mp hmem)⟩

/-- **`Nat.toDigits 16` is injective.** -/
theorem toDigits_inj {n m : Nat} (h : Nat.toDigits 16 n = Nat.toDigits 16 m) : n = m := by
  induction n using Nat.strongRecOn generalizing m with
  | _ n ih =>
    have hlength : ∀ k, 16 ≤ k → 1 < (Nat.toDigits 16 k).length := by
      intro k hk
      have hpos : 0 < (Nat.toDigits 16 (k / 16)).length := Nat.length_toDigits_pos
      rw [Nat.toDigits_of_base_le (by decide) hk, List.length_append, List.length_singleton]
      omega
    by_cases hn : n < 16
    · -- one digit is not as long as several, so both numbers have one or neither has
      by_cases hm : m < 16
      · rw [Nat.toDigits_of_lt_base hn, Nat.toDigits_of_lt_base hm, List.cons.injEq] at h
        exact digitChar_inj hn hm h.1
      · have := hlength m (by omega)
        rw [← h, Nat.toDigits_of_lt_base hn, List.length_singleton] at this
        omega
    · by_cases hm : m < 16
      · have := hlength n (by omega)
        rw [h, Nat.toDigits_of_lt_base hm, List.length_singleton] at this
        omega
      · rw [Nat.toDigits_of_base_le (n := n) (by decide) (by omega),
          Nat.toDigits_of_base_le (n := m) (by decide) (by omega)] at h
        obtain ⟨hfront, hlast⟩ := List.append_inj' h rfl
        have hdiv : n / 16 = m / 16 := ih (n / 16) (by omega) hfront
        have hmod : n % 16 = m % 16 :=
          digitChar_inj (Nat.mod_lt n (by decide)) (Nat.mod_lt m (by decide)) (List.cons.inj hlast).1
        omega

/-! ## Characters -/

/-- The character that a letter after a backslash stands for. -/
def meantBy? : Char → Option Char
  | '0' => some '\x00'
  | 't' => some '\t'
  | 'r' => some '\r'
  | 'n' => some '\n'
  | '\\' => some '\\'
  | '"' => some '"'
  | _ => none

/-- `meantBy?` inverts `quotedLetter?`. -/
theorem meantBy?_of_quotedLetter? {c l : Char} (h : quotedLetter? c = some l) : meantBy? l = some c := by
  unfold quotedLetter? at h
  split at h
  case h_7 => exact nomatch h
  all_goals
    obtain rfl := Option.some.inj h
    rfl

/-- `quotedLetter?` is injective. -/
theorem quotedLetter?_inj {c d l : Char} (hc : quotedLetter? c = some l) (hd : quotedLetter? d = some l) :
    c = d := by
  have h := meantBy?_of_quotedLetter? hc
  rw [meantBy?_of_quotedLetter? hd] at h
  exact (Option.some.inj h).symm

/-- `quotedLetter?` is never `u`, which stands in front of a hexadecimal number. -/
theorem quotedLetter?_ne {c : Char} : quotedLetter? c ≠ some 'u' := by
  unfold quotedLetter?
  split <;> simp

/-- A character without a `quotedLetter?` is no backslash and no quote. -/
theorem ne_of_quotedLetter?_none {c : Char} (h : quotedLetter? c = none) : c ≠ '\\' ∧ c ≠ '"' := by
  constructor
  · rintro rfl; exact nomatch h
  · rintro rfl; exact nomatch h

/-- `quotedChar c` is not empty and does not begin with a quote. -/
theorem exists_of_quotedChar (c : Char) : ∃ first rest, quotedChar c = first :: rest ∧ first ≠ '"' := by
  unfold quotedChar
  split
  · exact ⟨'\\', _, rfl, by decide⟩
  · next h =>
    split
    · exact ⟨c, [], rfl, (ne_of_quotedLetter?_none h).2⟩
    · exact ⟨'\\', _, rfl, by decide⟩

/-- What stands in braces ends with the first closing brace. -/
theorem eq_of_braces {xs ys t u : List Char} (hx : '\x7d' ∉ xs) (hy : '\x7d' ∉ ys)
    (h : xs ++ '\x7d' :: t = ys ++ '\x7d' :: u) : xs = ys ∧ t = u := by
  induction xs generalizing ys with
  | nil =>
    cases ys with
    | nil => exact ⟨rfl, (List.cons.inj h).2⟩
    | cons y ys =>
      have hy' : '\x7d' = y := (List.cons.inj h).1
      exact absurd (hy' ▸ List.mem_cons_self ..) hy
  | cons x xs ih =>
    cases ys with
    | nil =>
      have hx' : x = '\x7d' := (List.cons.inj h).1
      exact absurd (hx' ▸ List.mem_cons_self ..) hx
    | cons y ys =>
      obtain ⟨hhead, htail⟩ := List.cons.inj h
      obtain ⟨hrest, ht⟩ := ih (fun hm => hx (List.mem_cons_of_mem _ hm))
        (fun hm => hy (List.mem_cons_of_mem _ hm)) htail
      exact ⟨by rw [hhead, hrest], ht⟩

/-- **`quotedChar c ++ t` determines `c` and `t`.** -/
theorem quotedChar_prefix {c d : Char} {t u : List Char} (h : quotedChar c ++ t = quotedChar d ++ u) :
    c = d ∧ t = u := by
  unfold quotedChar at h
  -- a character has a letter, or a number, or stands for itself; what comes first tells which
  cases hc : quotedLetter? c with
  | some l =>
    rw [hc] at h
    cases hd : quotedLetter? d with
    | some l' =>
      rw [hd] at h
      obtain ⟨-, hl, ht⟩ : '\\' = '\\' ∧ l = l' ∧ t = u := by simpa using h
      exact ⟨quotedLetter?_inj hc (hl ▸ hd), ht⟩
    | none =>
      rw [hd] at h
      have hne := ne_of_quotedLetter?_none hd
      dsimp only at h
      split at h
      · exact absurd (List.cons.inj h).1.symm hne.1
      · have hl : l = 'u' := (List.cons.inj (List.cons.inj h).2).1
        exact absurd (hl ▸ hc) quotedLetter?_ne
  | none =>
    rw [hc] at h
    have hnec := ne_of_quotedLetter?_none hc
    cases hd : quotedLetter? d with
    | some l' =>
      rw [hd] at h
      dsimp only at h
      split at h
      · exact absurd (List.cons.inj h).1 hnec.1
      · have hl : 'u' = l' := (List.cons.inj (List.cons.inj h).2).1
        exact absurd (hl ▸ hd) quotedLetter?_ne
    | none =>
      rw [hd] at h
      have hned := ne_of_quotedLetter?_none hd
      dsimp only at h
      split at h
      · split at h
        · exact ⟨(List.cons.inj h).1, (List.cons.inj h).2⟩
        · exact absurd (List.cons.inj h).1 hnec.1
      · split at h
        · exact absurd (List.cons.inj h).1.symm hned.1
        · obtain ⟨hx, ht⟩ := eq_of_braces (brace_not_mem_toDigits _) (brace_not_mem_toDigits _)
            (by simpa [hexNumber] using h)
          exact ⟨Char.ext (UInt32.toNat_inj.mp (toDigits_inj hx)), ht⟩

/-! ## Texts -/

/-- **`cs.flatMap quotedChar` with a closing quote determines `cs`** and what follows it: no `quotedChar` begins with a
quote. -/
theorem quotedChars_prefix {cs ds t u : List Char}
    (h : cs.flatMap quotedChar ++ '"' :: t = ds.flatMap quotedChar ++ '"' :: u) : cs = ds ∧ t = u := by
  induction cs generalizing ds with
  | nil =>
    cases ds with
    | nil => exact ⟨rfl, (List.cons.inj h).2⟩
    | cons d ds =>
      obtain ⟨first, rest, hd, hne⟩ := exists_of_quotedChar d
      rw [List.flatMap_cons, hd] at h
      exact absurd (List.cons.inj h).1.symm hne
  | cons c cs ih =>
    cases ds with
    | nil =>
      obtain ⟨first, rest, hc, hne⟩ := exists_of_quotedChar c
      rw [List.flatMap_cons, hc] at h
      exact absurd (List.cons.inj h).1 hne
    | cons d ds =>
      rw [List.flatMap_cons, List.flatMap_cons, List.append_assoc, List.append_assoc] at h
      obtain ⟨hcd, hrest⟩ := quotedChar_prefix h
      obtain ⟨hds, ht⟩ := ih hrest
      exact ⟨by rw [hcd, hds], ht⟩

/-- **`quoted s` at the head of a text determines `s`** and what follows it. -/
theorem quoted_prefix {s s' : String} {t u : List Char}
    (h : (quoted s).toList ++ t = (quoted s').toList ++ u) : s = s' ∧ t = u := by
  rw [quoted, quoted, String.toList_ofList, String.toList_ofList] at h
  have hinside : s.toList.flatMap quotedChar ++ '"' :: t = s'.toList.flatMap quotedChar ++ '"' :: u := by simpa using h
  obtain ⟨hcs, ht⟩ := quotedChars_prefix hinside
  exact ⟨String.toList_inj.mp hcs, ht⟩

end RouteContracts.Text
