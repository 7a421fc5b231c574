import RouteContracts.Artifact.RuntimePath

/-! # Characters of words
What may stand in a word is the same wherever words are read: a word of a text, a name, or a part of the
path of a runtime. So marks that are no such characters tell where a word ends.

* `Text.isWordChar`: the characters of words, raw or not.
* `Source.Lexer.words_of_trees?`: the words of a text have no other characters.
* `Artifact.isName_chars`, `Artifact.RuntimePath.spelled_chars`: nor have names and runtime paths, except
  for the colons of a path. -/

namespace RouteContracts

/-- The characters of words, raw or not. -/
def Text.isWordChar (c : Char) : Bool := Text.isIdentPart c || c == '#'

/-- `isIdentStart` implies `isIdentPart`. -/
theorem Text.isIdentPart_of_isIdentStart {c : Char} (h : Text.isIdentStart c = true) :
    Text.isIdentPart c = true := by
  unfold Text.isIdentStart at h
  unfold Text.isIdentPart
  split at h
  · next hc =>
    rw [if_pos hc]
    simp only [Char.isAlphanum, Bool.or_eq_true] at h ⊢
    rcases h with h | h
    · exact .inl (.inl h)
    · exact .inr h
  · next hc =>
    simp only [if_neg hc, h, Bool.true_or]

/-- `isIdent` implies that all characters are `isWordChar`. -/
theorem Text.isWordChar_of_isIdent {cs : List Char} (h : Text.isIdent cs = true) :
    cs.all Text.isWordChar = true := by
  cases cs with
  | nil => rfl
  | cons c rest =>
    rw [Text.isIdent, Bool.and_eq_true] at h
    rw [List.all_eq_true] at h ⊢
    intro d hd
    rw [Text.isWordChar, Bool.or_eq_true]
    rcases List.mem_cons.mp hd with rfl | hd
    · exact .inl (Text.isIdentPart_of_isIdentStart h.1)
    · exact .inl (h.2 d hd)

namespace Source.Lexer

/-! ## Words of a text -/

/-- Trees whose words have no other characters than `isWordChar`. -/
def WordsOnly (ts : List Tree) : Prop := ∀ w, Tree.word w ∈ ts → w.toList.all Text.isWordChar = true

theorem wordsOnly_nil : WordsOnly [] := fun _ hw => absurd hw List.not_mem_nil

/-- `plainWord?` reads an identifier. -/
theorem isIdent_of_plainWord? {s w rest : List Char} (h : plainWord? s = some (w, rest)) :
    Text.isIdent w = true := by
  unfold plainWord? at h
  split at h
  · next c tail =>
    split at h
    · next hc =>
      obtain ⟨rfl, -⟩ := Prod.mk.inj (Option.some.inj h)
      rw [Text.isIdent, hc]
      exact List.all_takeWhile
    · exact nomatch h
  · exact nomatch h

theorem isWordChar_of_word? {s w rest : List Char} (h : word? s = some (w, rest)) :
    w.all Text.isWordChar = true := by
  unfold word? at h
  split at h
  · next tail =>
    rw [Option.bind_eq_bind, Option.bind_eq_some_iff] at h
    obtain ⟨⟨v, after⟩, hv, h⟩ := h
    dsimp only at h
    split at h
    · exact nomatch h
    · obtain ⟨rfl, -⟩ := Prod.mk.inj (Option.some.inj h)
      have hident := Text.isWordChar_of_isIdent (isIdent_of_plainWord? hv)
      rw [List.all_cons, List.all_cons, hident]
      decide
  · exact Text.isWordChar_of_isIdent (isIdent_of_plainWord? h)

/-- `mark?` reads no word. -/
theorem mark?_ne_word {s rest : List Char} {w : String} : mark? s ≠ some (.word w, rest) := by
  unfold mark?
  split
  · exact fun h => nomatch h
  · split
    · intro h
      rw [Option.bind_eq_bind, Option.bind_eq_some_iff] at h
      obtain ⟨⟨v, after⟩, -, h⟩ := h
      dsimp only at h
      split at h
      · exact nomatch h
      · split at h
        · exact nomatch h
        · exact nomatch h
      · exact nomatch h
    · exact fun h => nomatch h
    · exact fun h => nomatch h

/-- A word that `leaf?` reads has `isWordChar` characters. -/
theorem isWordChar_of_leaf? {s rest : List Char} {w : String} (h : leaf? s = some (.word w, rest)) :
    w.toList.all Text.isWordChar = true := by
  unfold leaf? at h
  split at h
  · exact nomatch h
  · split at h
    · next r hmark =>
      obtain rfl := Option.some.inj h
      exact absurd hmark mark?_ne_word
    · split at h
      · exact nomatch h
      · rw [Option.map_eq_some_iff] at h
        obtain ⟨⟨v, after⟩, hv, h⟩ := h
        obtain ⟨hw, -⟩ := Prod.mk.inj h
        rw [← Tree.word.inj hw, String.toList_ofList]
        exact isWordChar_of_word? hv

/-- The tokens that a lexeme stands for. -/
def Lexeme.WordsOnly : Lexeme → Prop
  | .trees ts => Lexer.WordsOnly ts
  | _ => True

theorem wordsOnly_documentation (inner : Bool) (comment : List Char) :
    WordsOnly (documentation inner comment) := by
  intro w hw
  cases inner <;> simp [documentation, Tree.lone] at hw

/-- `documented?` reads the tokens of an attribute, which are `WordsOnly`. -/
theorem wordsOnly_of_documented? {s : List Char} {ts : List Tree} {rest : List Char}
    (h : documented? s = some (ts, rest)) : WordsOnly ts := by
  have hend : ∀ (inner : Bool) (comment after : List Char), (if hasBareReturn comment = true then none
      else some (documentation inner comment, after)) = some (ts, rest) → WordsOnly ts := by
    intro inner comment after h
    split at h
    · exact nomatch h
    · obtain ⟨rfl, -⟩ := Prod.mk.inj (Option.some.inj h)
      exact wordsOnly_documentation inner comment
  unfold documented? at h
  dsimp only at h
  split at h
  case h_2 | h_5 | h_6 | h_8 => exact nomatch h
  case h_1 | h_3 => exact hend _ _ _ h
  case h_4 | h_7 =>
    obtain ⟨⟨inner, comment, after⟩, -, h⟩ := Option.bind_eq_some_iff.mp h
    exact hend inner comment after h

theorem wordsOnly_of_lexeme? {s : List Char} {l : Lexeme} {rest : List Char}
    (h : lexeme? s = some (l, rest)) : l.WordsOnly := by
  unfold lexeme? at h
  split at h
  · next ts after hdoc =>
    obtain ⟨rfl, -⟩ := Prod.mk.inj (Option.some.inj h)
    exact wordsOnly_of_documented? hdoc
  · split at h
    · split at h
      · obtain ⟨rfl, -⟩ := Prod.mk.inj (Option.some.inj h)
        exact trivial
      · obtain ⟨rfl, -⟩ := Prod.mk.inj (Option.some.inj h)
        exact trivial
      · rw [Option.map_eq_some_iff] at h
        obtain ⟨⟨tree, after⟩, htree, h⟩ := h
        obtain ⟨rfl, -⟩ := Prod.mk.inj h
        intro w hw
        obtain rfl := List.mem_singleton.mp hw
        exact isWordChar_of_leaf? htree
    · exact nomatch h

theorem wordsOnly_of_lexemesWithin {fuel : Nat} {s : List Char} {ls : List Lexeme}
    (h : lexemesWithin fuel s = some ls) : ∀ l ∈ ls, l.WordsOnly := by
  induction fuel generalizing s ls with
  | zero =>
    cases s with
    | nil =>
      obtain rfl := Option.some.inj h
      exact fun _ hl => nomatch hl
    | cons => exact nomatch h
  | succ fuel ih =>
    cases s with
    | nil =>
      obtain rfl := Option.some.inj h
      exact fun _ hl => nomatch hl
    | cons c rest =>
      rw [lexemesWithin] at h
      split at h
      · exact ih h
      · simp only [Option.bind_eq_bind, Option.bind_eq_some_iff] at h
        obtain ⟨⟨l, after⟩, hl, ls', hls, h⟩ := h
        obtain rfl := Option.some.inj h
        intro l' hl'
        rcases List.mem_cons.mp hl' with rfl | hl'
        · exact wordsOnly_of_lexeme? hl
        · exact ih hls l' hl'
      · exact fun h => nomatch h

/-- `assemble` has the words of the flat tokens. -/
theorem wordsOnly_of_assemble {ls : List Lexeme} (hls : ∀ l ∈ ls, l.WordsOnly)
    {around : List (Delimiter × List Tree)} (haround : ∀ a ∈ around, WordsOnly a.2) {here : List Tree}
    (hhere : WordsOnly here) {ts : List Tree} (h : assemble around here ls = some ts) : WordsOnly ts := by
  induction ls generalizing around here with
  | nil =>
    cases around with
    | nil =>
      obtain rfl := Option.some.inj h
      exact fun w hw => hhere w (List.mem_reverse.mp hw)
    | cons => exact nomatch h
  | cons l rest ih =>
    have hrest : ∀ l ∈ rest, l.WordsOnly := fun l hl => hls l (List.mem_cons_of_mem _ hl)
    cases l with
    | opening d =>
      rw [assemble] at h
      refine ih hrest ?_ wordsOnly_nil h
      intro a ha
      rcases List.mem_cons.mp ha with rfl | ha
      · exact hhere
      · exact haround a ha
    -- a closed bracket has the words that stood in front of it
    | closing e =>
      cases around with
      | nil => exact nomatch h
      | cons a around =>
        obtain ⟨d, before⟩ := a
        rw [assemble] at h
        split at h
        · refine ih hrest (fun a ha => haround a (List.mem_cons_of_mem _ ha)) ?_ h
          intro w hw
          rcases List.mem_cons.mp hw with hw | hw
          · exact nomatch hw
          · exact haround (d, before) (List.mem_cons_self ..) w hw
        · exact nomatch h
    | trees ts' =>
      rw [assemble] at h
      refine ih hrest haround ?_ h
      intro w hw
      rcases List.mem_append.mp hw with hw | hw
      · exact hls _ (List.mem_cons_self ..) w (List.mem_reverse.mp hw)
      · exact hhere w hw

/-- **The words of `trees?` consist of `isWordChar` characters.** -/
theorem words_of_trees? {s : List Char} {ts : List Tree} (h : trees? s = some ts) : WordsOnly ts := by
  rw [trees?, Option.bind_eq_bind, Option.bind_eq_some_iff] at h
  obtain ⟨ls, hls, h⟩ := h
  exact wordsOnly_of_assemble (wordsOnly_of_lexemesWithin hls) (fun _ ha => absurd ha List.not_mem_nil)
    wordsOnly_nil h

end Source.Lexer

namespace Artifact

/-! ## Names and paths -/

/-- `isName name` implies that all characters are `isWordChar`, and that there is one. -/
theorem isName_chars {name : String} (h : isName name = true) :
    name.toList.all Text.isWordChar = true ∧ name.toList ≠ [] := by
  unfold isName at h
  split at h
  · next rest hname =>
    rw [Bool.and_eq_true] at h
    rw [hname]
    have hrest := Text.isWordChar_of_isIdent h.1
    refine ⟨?_, by simp⟩
    rw [List.all_cons, List.all_cons, hrest]
    decide
  · rw [isPlainName, Bool.and_eq_true] at h
    refine ⟨Text.isWordChar_of_isIdent h.1, ?_⟩
    intro hnil
    rw [hnil] at h
    exact nomatch h.1

/-- The characters of a path: those of words, and colons. -/
def isPathChar (c : Char) : Bool := Text.isWordChar c || c == ':'

theorem RuntimePath.spelledParts?_chars {ts : List Source.Tree} (hts : Source.Lexer.WordsOnly ts) {s : String}
    (h : RuntimePath.spelledParts? ts = some s) : s.toList.all isPathChar = true := by
  induction ts using RuntimePath.spelledParts?.induct generalizing s with
  | case1 =>
    obtain rfl := Option.some.inj h
    rfl
  | case2 w joins rest hpart ih =>
    rw [RuntimePath.spelledParts?, if_pos hpart, Option.map_eq_some_iff] at h
    obtain ⟨s', hs', rfl⟩ := h
    have hw := hts w (List.mem_cons_self ..)
    have hrest := ih (fun v hv => hts v (by simp [hv])) hs'
    rw [String.toList_append, String.toList_append, List.all_append, List.all_append, hrest]
    have hpath : w.toList.all isPathChar = true := by
      rw [List.all_eq_true] at hw ⊢
      intro c hc
      rw [isPathChar, hw c hc]
      rfl
    rw [hpath]
    decide
  | case3 w joins rest hpart =>
    rw [RuntimePath.spelledParts?, if_neg hpart] at h
    exact nomatch h
  | case4 ts h1 h2 =>
    rw [RuntimePath.spelledParts?] at h
    · exact nomatch h
    · exact h1
    · exact h2

/-- **`RuntimePath.ofText?` gives paths of `isPathChar` characters.** -/
theorem RuntimePath.spelled_chars {given : String} {p : RuntimePath} (h : RuntimePath.ofText? given = some p) :
    p.spelled.toList.all isPathChar = true := by
  rw [RuntimePath.ofText?, Option.bind_eq_bind, Option.bind_eq_some_iff] at h
  obtain ⟨ts, hts, h⟩ := h
  rw [Option.bind_eq_bind, Option.bind_eq_some_iff] at h
  obtain ⟨s, hs, h⟩ := h
  obtain rfl := Option.some.inj h
  have hwords := Source.Lexer.words_of_trees? hts
  unfold RuntimePath.spelled? at hs
  split at hs
  · rw [Option.map_eq_some_iff] at hs
    obtain ⟨s', hs', rfl⟩ := hs
    have hparts := RuntimePath.spelledParts?_chars (fun w hw => hwords w (by simp [hw])) hs'
    rw [String.toList_append, List.all_append, hparts]
    decide
  · exact RuntimePath.spelledParts?_chars hwords hs

end Artifact

end RouteContracts
