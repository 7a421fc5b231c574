import RouteContracts.Proofs.Text.WordCase
import RouteContracts.Source.Lexer

/-! # The characters of cased names
Both spellings of a name consist of forms of its letters and digits. In the tables of letters and of their forms no
blank and no mark occurs, so neither does one in the spelling of a name.

* `IsWordChar`: a letter or digit of ASCII, or a character beyond ASCII that is no blank.
* `Spaceless`, `WordPoints`: ranges of code points without blanks, by which the tables are gone through.
* `isWordChar_of_isAlphanumeric`: no letter and no digit is a blank.
* `isWordChar_upperCamel`, `isWordChar_snake`: **the characters of the spellings of a name.** -/

namespace RouteContracts.Text

open Source.Lexer

/-! ## Characters of words -/

/-- A letter or digit of ASCII, or a character beyond ASCII that is no blank. -/
structure IsWordChar (c : Char) : Prop where
  alphanum : c.toNat < 0x80 → c.isAlphanum = true
  notBlank : isSpace c = false

instance (c : Char) : Decidable (IsWordChar c) :=
  decidable_of_iff ((c.toNat < 0x80 → c.isAlphanum = true) ∧ isSpace c = false)
    ⟨fun h => ⟨h.1, h.2⟩, fun h => ⟨h.1, h.2⟩⟩

/-- The code points of the characters that `isSpace`. -/
def spaceRanges : Ranges := (0x200e, 0x200f) :: blankRanges

/-- Code points beyond ASCII with no `spaceRanges` among them. -/
def Spaceless (low high : Nat) : Prop :=
  0x80 ≤ low ∧ (0x3000 < low ∨ ∀ r ∈ spaceRanges, high < r.1 ∨ r.2 < low)

instance (low high : Nat) : Decidable (Spaceless low high) := inferInstanceAs (Decidable (_ ∧ _))

theorem isWordChar_of_spaceless {low high : Nat} (h : Spaceless low high) {c : Char} (hlow : low ≤ c.toNat)
    (hhigh : c.toNat ≤ high) : IsWordChar c := by
  refine ⟨fun hc => absurd (Nat.le_trans h.1 hlow) (by omega), ?_⟩
  rw [← Bool.not_eq_true]
  intro hspace
  obtain ⟨r, hr, hrange⟩ : ∃ r ∈ spaceRanges, r.1 ≤ c.toNat ∧ c.toNat ≤ r.2 := by
    simp only [isSpace, Bool.or_eq_true, beq_iff_eq] at hspace
    rcases hspace with (hblank | rfl) | rfl
    · obtain ⟨r, hr, hrange⟩ := List.any_eq_true.mp hblank
      simp only [Bool.and_eq_true, decide_eq_true_eq] at hrange
      exact ⟨r, List.mem_cons_of_mem _ hr, hrange⟩
    · exact ⟨_, List.mem_cons_self .., by decide⟩
    · exact ⟨_, List.mem_cons_self .., by decide⟩
  rcases h.2 with hbeyond | hapart
  · have hlast : ∀ r ∈ spaceRanges, r.2 ≤ 0x3000 := by decide
    have hr := hlast r hr
    omega
  · have hr := hapart r hr
    omega

/-- `isAlphanumeric` implies `IsWordChar`: no letter and no digit is a blank. -/
theorem isWordChar_of_isAlphanumeric {c : Char} (h : isAlphanumeric c = true) : IsWordChar c := by
  by_cases hascii : c.toNat < 0x80
  · exact of_ascii (p := fun c => isAlphanumeric c = true → IsWordChar c) (by decide) hascii h
  · have hranges : ∀ r ∈ alphanumericRanges, Spaceless r.1 r.2 := by decide +kernel
    rw [isAlphanumeric, if_neg hascii] at h
    obtain ⟨r, hr, hrange⟩ := List.any_eq_true.mp h
    simp only [Bool.and_eq_true, decide_eq_true_eq] at hrange
    exact isWordChar_of_spaceless (hranges r hr) hrange.1 hrange.2

/-- Code points that are valid and `Spaceless`, or one that is a letter or digit of ASCII. -/
def WordPoints (low high : Nat) : Prop :=
  Spaceless low high ∧ (high < 0xd800 ∨ 0xe000 ≤ low ∧ high < 0x110000) ∨
    low = high ∧ IsWordChar (Char.ofNat low)

instance (low high : Nat) : Decidable (WordPoints low high) := inferInstanceAs (Decidable (_ ∨ _))

theorem isWordChar_of_wordPoints {low high : Nat} (h : WordPoints low high) {n : Nat} (hlow : low ≤ n)
    (hhigh : n ≤ high) : IsWordChar (Char.ofNat n) := by
  rcases h with ⟨hspaceless, hvalid⟩ | ⟨rfl, h⟩
  · have hchar : n.isValidChar := by
      simp only [Nat.isValidChar]
      omega
    have hn : (Char.ofNat n).toNat = n := by
      unfold Char.ofNat
      rw [dif_pos hchar]
      rfl
    exact isWordChar_of_spaceless hspaceless (by omega) (by omega)
  · obtain rfl : n = low := by omega
    exact h

/-- What `mapped` makes of a character that `IsWordChar`, where all forms in the tables are such characters. -/
theorem isWordChar_of_mem_mapped {runs : List (Nat × Nat × Nat × Nat)} {sequences : List (Nat × List Nat)}
    (hruns : ∀ r ∈ runs, WordPoints r.2.2.2 (r.2.2.2 + (r.2.1 - r.1)))
    (hsequences : ∀ s ∈ sequences, ∀ n ∈ s.2, IsWordChar (Char.ofNat n)) {c : Char} (hc : IsWordChar c) :
    ∀ d ∈ mapped runs sequences c, IsWordChar d := by
  unfold mapped
  dsimp only
  intro d hd
  split at hd
  · next r hr =>
    obtain rfl := List.mem_singleton.mp hd
    have hrange := List.find?_some hr
    simp only [Bool.and_eq_true, decide_eq_true_eq] at hrange
    exact isWordChar_of_wordPoints (hruns r (List.mem_of_find?_eq_some hr)) (by omega) (by omega)
  · split at hd
    · next s hs =>
      obtain ⟨n, hn, rfl⟩ := List.mem_map.mp hd
      exact hsequences s (List.mem_of_find?_eq_some hs) n hn
    · rw [List.mem_singleton.mp hd]
      exact hc

theorem isWordChar_upperChar {c : Char} (h : isAlphanumeric c = true) : ∀ d ∈ upperChar c, IsWordChar d := by
  unfold upperChar
  split
  · next hascii =>
    rw [List.forall_mem_singleton]
    exact of_ascii (p := fun c => isAlphanumeric c = true → IsWordChar c.toUpper) (by decide) hascii h
  · exact isWordChar_of_mem_mapped (by decide +kernel) (by decide +kernel) (isWordChar_of_isAlphanumeric h)

theorem isWordChar_lowerChar {c : Char} (h : isAlphanumeric c = true) : ∀ d ∈ lowerChar c, IsWordChar d := by
  unfold lowerChar
  split
  · next hascii =>
    rw [List.forall_mem_singleton]
    exact of_ascii (p := fun c => isAlphanumeric c = true → IsWordChar c.toLower) (by decide) hascii h
  · exact isWordChar_of_mem_mapped (by decide +kernel) (by decide +kernel) (isWordChar_of_isAlphanumeric h)

/-- No form of a letter is empty. -/
theorem lowerChar_ne_nil (c : Char) : lowerChar c ≠ [] := by
  have hsequences : ∀ s ∈ lowerSequences, s.2.map Char.ofNat ≠ [] := by decide
  unfold lowerChar mapped
  dsimp only
  split
  · exact List.cons_ne_nil _ _
  · split
    · exact List.cons_ne_nil _ _
    · split
      · next s hs => exact hsequences s (List.mem_of_find?_eq_some hs)
      · exact List.cons_ne_nil _ _

theorem isWordChar_lowerWord {w : List Char} (hw : ∀ c ∈ w, isAlphanumeric c = true) :
    ∀ d ∈ lowerWord w, IsWordChar d := by
  induction w with
  | nil => exact fun d hd => absurd hd List.not_mem_nil
  | cons c w ih =>
    rw [List.forall_mem_cons] at hw
    unfold lowerWord
    split
    · exact fun d hd => absurd hd List.not_mem_nil
    · rw [List.forall_mem_singleton]
      decide
    · next heq =>
      obtain ⟨rfl, rfl⟩ := List.cons.inj heq
      rw [List.forall_mem_append]
      exact ⟨isWordChar_lowerChar hw.1, ih hw.2⟩

theorem lowerWord_ne_nil {w : List Char} (hw : w ≠ []) : lowerWord w ≠ [] := by
  unfold lowerWord
  split
  · exact absurd rfl hw
  · exact List.cons_ne_nil _ _
  · exact List.append_ne_nil_of_left_ne_nil (lowerChar_ne_nil _) _

/-- **The characters of `upperCamel`** are `IsWordChar`. -/
theorem isWordChar_upperCamel (name : String) : ∀ d ∈ (upperCamel name).toList, IsWordChar d := by
  rw [upperCamel, String.toList_ofList]
  intro d hd
  obtain ⟨w, hw, hd⟩ := List.mem_flatMap.mp hd
  have hletters : ∀ c ∈ w, isAlphanumeric c = true := fun c hc => ((mem_words hw).2 c hc).2
  cases w with
  | nil => cases hd
  | cons c w =>
    rw [List.forall_mem_cons] at hletters
    rcases List.mem_append.mp hd with hd | hd
    · exact isWordChar_upperChar hletters.1 d hd
    · exact isWordChar_lowerWord hletters.2 d hd

/-- **The characters of `snake`** are `IsWordChar` or underscores, the first one is no underscore. -/
theorem isWordChar_snake (name : String) : (∀ d ∈ (snake name).toList, IsWordChar d ∨ d = '_') ∧
    ∀ d ∈ (snake name).toList.head?, IsWordChar d := by
  rw [snake, String.toList_ofList]
  have hwords : ∀ w ∈ (words name.toList).map lowerWord, w ≠ [] ∧ ∀ c ∈ w, IsWordChar c := by
    intro w hw
    obtain ⟨v, hv, rfl⟩ := List.mem_map.mp hw
    obtain ⟨hne, hletters⟩ := mem_words hv
    exact ⟨lowerWord_ne_nil hne, isWordChar_lowerWord fun c hc => (hletters c hc).2⟩
  generalize (words name.toList).map lowerWord = ws at hwords
  refine ⟨fun d hd => ?_, fun d hd => ?_⟩
  · rcases mem_intercalate hd with hd | ⟨w, hw, hd⟩
    · exact .inr hd
    · exact .inl ((hwords w hw).2 d hd)
  · cases ws with
    | nil => cases hd
    | cons w ws =>
      obtain ⟨hne, hall⟩ := hwords w (List.mem_cons_self ..)
      cases w with
      | nil => exact absurd rfl hne
      | cons c w =>
        rw [head?_intercalate] at hd
        obtain rfl := Option.some.inj hd
        exact hall _ (List.mem_cons_self ..)

end RouteContracts.Text
