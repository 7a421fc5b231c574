import RouteContracts.Proofs.Text.Characters
import RouteContracts.Text.Identifier
import RouteContracts.Text.WordCase

/-! # Words of ASCII names
A word of a name holds letters and digits of the name, at least one. In both spellings of an ASCII name each
of its characters stays a letter or digit of ASCII, and the first one tells which spelling it is.

* `Text.mem_words`: what the words of a name are.
* `Text.upperCamel_ascii`, `Text.snake_ascii`: **the spellings of an ASCII name.** -/

namespace RouteContracts.Text

/-! ## Words -/

theorem mem_runs {cs w : List Char} (hw : w ∈ runs cs) : ∀ c ∈ w, c ∈ cs ∧ isAlphanumeric c = true := by
  induction cs generalizing w with
  | nil =>
    obtain rfl := List.mem_singleton.mp hw
    exact fun c hc => absurd hc List.not_mem_nil
  | cons d cs ih =>
    have hrest : ∀ v ∈ runs cs, ∀ c ∈ v, c ∈ d :: cs ∧ isAlphanumeric c = true := fun v hv c hc =>
      ⟨List.mem_cons_of_mem _ (ih hv c hc).1, (ih hv c hc).2⟩
    rw [runs] at hw
    split at hw
    · next hd =>
      cases hruns : runs cs with
      | nil =>
        rw [hruns] at hw
        obtain rfl := List.mem_singleton.mp hw
        intro c hc
        rw [List.mem_singleton.mp hc]
        exact ⟨List.mem_cons_self .., hd⟩
      | cons r rs =>
        rw [hruns] at hw hrest
        rcases List.mem_cons.mp hw with rfl | hw
        · intro c hc
          rcases List.mem_cons.mp hc with rfl | hc
          · exact ⟨List.mem_cons_self .., hd⟩
          · exact hrest r (List.mem_cons_self ..) c hc
        · exact hrest w (List.mem_cons_of_mem _ hw)
    · rcases List.mem_cons.mp hw with rfl | hw
      · exact fun c hc => absurd hc List.not_mem_nil
      · exact hrest w hw

/-- The words of `wordsFrom mode word cs` are not empty, and have characters of `word` and `cs`. A word that has been
begun is not empty once a letter of it has a case. -/
theorem mem_wordsFrom {mode : LetterMode} {word cs w : List Char} (hword : mode ≠ .none → word ≠ [])
    (hw : w ∈ wordsFrom mode word cs) : w ≠ [] ∧ ∀ c ∈ w, c ∈ word ++ cs := by
  induction mode, word, cs using wordsFrom.induct with
  | case1 => exact absurd hw List.not_mem_nil
  | case2 mode word c =>
    obtain rfl := List.mem_singleton.mp hw
    exact ⟨by simp, fun d hd => hd⟩
  | case3 mode word c next rest h ih =>
    rw [wordsFrom, if_pos h] at hw
    -- the word ends behind the letter
    rcases List.mem_cons.mp hw with rfl | hw
    · refine ⟨by simp, fun d hd => ?_⟩
      rw [List.append_cons]
      exact List.mem_append_left _ hd
    · obtain ⟨hne, hsub⟩ := ih (fun h => absurd rfl h) hw
      refine ⟨hne, fun d hd => ?_⟩
      have := hsub d hd
      simp_all
  | case4 mode word c next rest h h' ih =>
    rw [wordsFrom, if_neg h, if_pos h'] at hw
    -- the word ends in front of the letter
    rcases List.mem_cons.mp hw with rfl | hw
    · exact ⟨hword (by rw [h'.1]; decide), fun d hd => List.mem_append_left _ hd⟩
    · obtain ⟨hne, hsub⟩ := ih (fun h => absurd rfl h) hw
      exact ⟨hne, fun d hd => List.mem_append_right _ (hsub d hd)⟩
  | case5 mode word c next rest h h' ih =>
    rw [wordsFrom, if_neg h, if_neg h'] at hw
    obtain ⟨hne, hsub⟩ := ih (fun _ => by simp) hw
    refine ⟨hne, fun d hd => ?_⟩
    rw [List.append_cons]
    exact hsub d hd

/-- **`words name`** holds letters and digits of the name, at least one in each word. -/
theorem mem_words {name w : List Char} (hw : w ∈ words name) :
    w ≠ [] ∧ ∀ c ∈ w, c ∈ name ∧ isAlphanumeric c = true := by
  obtain ⟨r, hr, hw⟩ := List.mem_flatMap.mp hw
  obtain ⟨hne, hsub⟩ := mem_wordsFrom (fun h => absurd rfl h) hw
  exact ⟨hne, fun c hc => mem_runs hr c (hsub c hc)⟩

/-! ## ASCII -/

/-- A text of ASCII characters. -/
def IsAscii (s : String) : Prop := ∀ c ∈ s.toList, c.toNat < 0x80

instance (s : String) : Decidable (IsAscii s) := List.decidableBAll (fun c : Char => c.toNat < 0x80) s.toList

/-- What holds of each of the ASCII characters. -/
theorem of_ascii {p : Char → Prop} (h : ∀ n < 0x80, p (Char.ofNat n)) {c : Char} (hc : c.toNat < 0x80) : p c := by
  rw [← Char.ofNat_toNat c]
  exact h c.toNat hc

/-- `upperChar` and `lowerChar` of a letter or digit of ASCII are one character each, `c.toUpper` and `c.toLower`. -/
theorem ascii_forms {c : Char} (hc : c.toNat < 0x80) (h : isAlphanumeric c = true) :
    upperChar c = [c.toUpper] ∧ lowerChar c = [c.toLower] ∧ c.toUpper.isAlphanum = true ∧
      c.toUpper.isLower = false ∧ c.toLower.isAlphanum = true ∧ c ≠ '\u03a3' := by
  refine ⟨if_pos hc, if_pos hc, ?_, ?_, ?_, ?_⟩
  · exact of_ascii (p := fun c => isAlphanumeric c = true → c.toUpper.isAlphanum = true) (by decide) hc h
  · exact of_ascii (p := fun c => isAlphanumeric c = true → c.toUpper.isLower = false) (by decide) hc h
  · exact of_ascii (p := fun c => isAlphanumeric c = true → c.toLower.isAlphanum = true) (by decide) hc h
  · rintro rfl
    exact absurd hc (by decide)

/-- A word of ASCII letters and digits. -/
def IsAsciiWord (w : List Char) : Prop := ∀ c ∈ w, c.toNat < 0x80 ∧ isAlphanumeric c = true

theorem isAsciiWord_of_mem_words {name : String} (hname : IsAscii name) {w : List Char}
    (hw : w ∈ words name.toList) : IsAsciiWord w := fun c hc =>
  ⟨hname c ((mem_words hw).2 c hc).1, ((mem_words hw).2 c hc).2⟩

theorem lowerWord_ascii {w : List Char} (hw : IsAsciiWord w) : lowerWord w = w.map Char.toLower := by
  induction w with
  | nil => rfl
  | cons c w ih =>
    obtain ⟨hascii, halnum⟩ := hw c (List.mem_cons_self ..)
    obtain ⟨-, hlower, -, -, -, hsigma⟩ := ascii_forms hascii halnum
    rw [lowerWord, hlower, ih fun d hd => hw d (List.mem_cons_of_mem _ hd)]
    · rfl
    · intro h
      exact absurd h hsigma

theorem lowerWord_ascii_isAlphanum {w : List Char} (hw : IsAsciiWord w) :
    ∀ c ∈ lowerWord w, c.isAlphanum = true := by
  rw [lowerWord_ascii hw]
  intro c hc
  obtain ⟨d, hd, rfl⟩ := List.mem_map.mp hc
  exact (ascii_forms (hw d hd).1 (hw d hd).2).2.2.2.2.1

/-- `capitalized w` begins with a letter that is not in lower case, or with a digit. -/
theorem capitalized_ascii {w : List Char} (hw : IsAsciiWord w) :
    (∀ c ∈ capitalized w, c.isAlphanum = true) ∧ ∀ c ∈ (capitalized w).head?, c.isLower = false := by
  cases w with
  | nil => exact ⟨fun c hc => absurd hc List.not_mem_nil, fun c hc => by cases hc⟩
  | cons c w =>
    obtain ⟨hascii, halnum⟩ := hw c (List.mem_cons_self ..)
    obtain ⟨hupper, -, hu, hl, -, -⟩ := ascii_forms hascii halnum
    have hrest := lowerWord_ascii_isAlphanum fun d hd => hw d (List.mem_cons_of_mem _ hd)
    rw [capitalized, hupper, List.singleton_append]
    refine ⟨fun d hd => ?_, fun d hd => ?_⟩
    · rcases List.mem_cons.mp hd with rfl | hd
      · exact hu
      · exact hrest d hd
    · obtain rfl := Option.some.inj hd
      exact hl

/-- **`upperCamel name` of an ASCII name** has letters and digits, and does not begin with a letter in lower case. -/
theorem upperCamel_ascii {name : String} (hname : IsAscii name) :
    (∀ c ∈ (upperCamel name).toList, c.isAlphanum = true) ∧
      ∀ c ∈ (upperCamel name).toList.head?, c.isLower = false := by
  rw [upperCamel, String.toList_ofList]
  refine ⟨fun c hc => ?_, fun c hc => ?_⟩
  · obtain ⟨w, hw, hc⟩ := List.mem_flatMap.mp hc
    exact (capitalized_ascii (isAsciiWord_of_mem_words hname hw)).1 c hc
  · cases hwords : words name.toList with
    | nil => rw [hwords] at hc; cases hc
    | cons w ws =>
      have hw : w ∈ words name.toList := hwords ▸ List.mem_cons_self ..
      have hhead := (capitalized_ascii (isAsciiWord_of_mem_words hname hw)).2
      rw [hwords, List.flatMap_cons] at hc
      cases hcap : capitalized w with
      | nil =>
        -- a word is not empty, and neither is its capitalized form
        cases w with
        | nil => exact absurd rfl (mem_words hw).1
        | cons d w =>
          obtain ⟨hascii, halnum⟩ := isAsciiWord_of_mem_words hname hw d (List.mem_cons_self ..)
          rw [capitalized, (ascii_forms hascii halnum).1] at hcap
          cases hcap
      | cons d v =>
        rw [hcap] at hc hhead
        exact hhead c hc

theorem head?_intercalate {c : Char} {w : List Char} (ws : List (List Char)) :
    (['_'].intercalate ((c :: w) :: ws)).head? = some c := by
  cases ws with
  | nil => rw [List.intercalate_singleton]; rfl
  | cons v ws => rw [List.intercalate_cons_cons]; rfl

/-- **`snake name` of an ASCII name** has letters, digits and underscores, and does not begin with an underscore. -/
theorem snake_ascii {name : String} (hname : IsAscii name) :
    (∀ c ∈ (snake name).toList, c.isAlphanum = true ∨ c = '_') ∧
      ∀ c ∈ (snake name).toList.head?, c.isAlphanum = true := by
  rw [snake, String.toList_ofList]
  have hwords : ∀ w ∈ (words name.toList).map lowerWord, w ≠ [] ∧ ∀ c ∈ w, c.isAlphanum = true := by
    intro w hw
    obtain ⟨v, hv, rfl⟩ := List.mem_map.mp hw
    have hascii := isAsciiWord_of_mem_words hname hv
    refine ⟨?_, lowerWord_ascii_isAlphanum hascii⟩
    rw [lowerWord_ascii hascii]
    simpa using (mem_words hv).1
  -- the words are joined by underscores, and none is empty, so the first character is one of a word
  generalize (words name.toList).map lowerWord = ws at hwords
  refine ⟨fun c hc => ?_, fun c hc => ?_⟩
  · rcases mem_intercalate hc with hc | ⟨w, hw, hc⟩
    · exact .inr hc
    · exact .inl ((hwords w hw).2 c hc)
  · cases ws with
    | nil => cases hc
    | cons w ws =>
      obtain ⟨hne, hall⟩ := hwords w (List.mem_cons_self ..)
      cases w with
      | nil => exact absurd rfl hne
      | cons d w =>
        rw [head?_intercalate] at hc
        obtain rfl := Option.some.inj hc
        exact hall _ (List.mem_cons_self ..)

end RouteContracts.Text
