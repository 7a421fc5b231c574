import Mathlib.Data.List.Basic
import RouteContracts.Analysis.Declaration
import RouteContracts.Proofs.Text.Characters

/-! # Names of schemas
A name declares the schema of a method when it is put together from an underscore, the letters of the method in any
case, perhaps another underscore, and a schema word. The parts could overlap: the words are made of letters, and a run
of letters may itself end like a word. Still a name has one decomposition at most, since all words are of one length and
the separator is no letter; so it does not matter in which order the decompositions are tried.

* `SchemaName`: the parts of such a name. `SchemaName.eq_of_text_eq`: **a name has one decomposition.**
* `shortestRun?`, `searchedMethod?`: the search that takes as few letters as it can and goes back for more.
* `schemaMethod?_grammar`: **which names declare a schema**, and of which method. -/

namespace RouteContracts

/-! ## Parts of names -/

/-- The parts of a name that declares a schema. -/
structure SchemaName where
  /-- The letters of the method, in any case. -/
  letters : List Char
  /-- Whether an underscore follows them. -/
  separated : Bool
  /-- The word at the end. -/
  word : String
  letters_ne_nil : letters ≠ []
  isAlpha_of_mem : ∀ c ∈ letters, c.isAlpha = true
  word_mem : word ∈ ["SCHEMA", "Schema", "schema"]

namespace SchemaName

/-- The underscore between the letters and the word, if there is one. -/
def separator (separated : Bool) : List Char := if separated then ['_'] else []

/-- **The name itself.** -/
def text (n : SchemaName) : String :=
  String.ofList ('_' :: (n.letters ++ separator n.separated ++ n.word.toList))

/-- The letters are those of the method, in any case. -/
def Declares (n : SchemaName) (m : Method) : Prop := String.ofList (n.letters.map Char.toUpper) = m.token

@[simp] theorem toList_text (n : SchemaName) :
    n.text.toList = '_' :: (n.letters ++ separator n.separated ++ n.word.toList) := String.toList_ofList

theorem length_word {w : String} (hw : w ∈ schemaWords) : w.toList.length = 6 := by
  revert w
  decide

/-- Letters do not end with the separator. -/
theorem getLast?_ne_underscore {letters : List Char} (h : ∀ c ∈ letters, c.isAlpha = true) :
    letters.getLast? ≠ some '_' := by
  intro hlast
  exact absurd (h '_' (List.mem_of_getLast? hlast)) (by decide)

/-- Letters in front of a separator, or of none, are told from it. -/
theorem append_separator_inj {letters letters' : List Char} {b b' : Bool} (h : ∀ c ∈ letters, c.isAlpha = true)
    (h' : ∀ c ∈ letters', c.isAlpha = true) (heq : letters ++ separator b = letters' ++ separator b') :
    letters = letters' ∧ b = b' := by
  cases b with
  | false =>
    cases b' with
    | false =>
      simp only [separator, Bool.false_eq_true, if_false, List.append_nil] at heq
      exact ⟨heq, rfl⟩
    | true =>
      simp only [separator, Bool.false_eq_true, if_false, List.append_nil, if_true] at heq
      -- only one side ends in an underscore, which is no letter
      exact absurd (by rw [heq, List.getLast?_concat]) (getLast?_ne_underscore h)
  | true =>
    cases b' with
    | false =>
      simp only [separator, Bool.false_eq_true, if_false, List.append_nil, if_true] at heq
      exact absurd (by rw [← heq, List.getLast?_concat]) (getLast?_ne_underscore h')
    | true =>
      simp only [separator, if_true] at heq
      exact ⟨(List.append_left_inj ['_']).mp heq, rfl⟩

/-- **`text` is injective**: a name has one decomposition at most. -/
theorem eq_of_text_eq {n n' : SchemaName} (h : n.text = n'.text) : n = n' := by
  have hlist := congrArg String.toList h
  rw [toList_text, toList_text, List.cons.injEq] at hlist
  have hlength : n.word.toList.length = n'.word.toList.length := by
    rw [length_word n.word_mem, length_word n'.word_mem]
  obtain ⟨hfront, hword⟩ := List.append_inj' hlist.2 hlength
  obtain ⟨hletters, hseparated⟩ := append_separator_inj n.isAlpha_of_mem n'.isAlpha_of_mem hfront
  have hwords : n.word = n'.word := String.toList_inj.mp hword
  cases n
  cases n'
  simp_all

end SchemaName

/-! ## Reading names from their ends -/

namespace SchemaName

/-- `schemaLetters?` finds the letters of `n.text` in front of its last six characters. -/
theorem schemaLetters?_text (n : SchemaName) : schemaLetters? n.text.toList = some n.letters := by
  have hlength : n.word.toList.length = 6 := length_word n.word_mem
  have hkept : (n.letters ++ separator n.separated ++ n.word.toList).length - 6 =
      (n.letters ++ separator n.separated).length := by
    rw [List.length_append, hlength, Nat.add_sub_cancel]
  have hword : schemaWords.contains n.word = true := List.contains_iff_mem.mpr n.word_mem
  rw [toList_text, schemaLetters?]
  simp only [hkept, List.drop_left, List.take_left, String.ofList_toList, hword, if_true]
  cases hseparated : n.separated with
  | false =>
    have hlast := getLast?_ne_underscore n.isAlpha_of_mem
    simp [separator, hlast]
  | true => simp [separator]

/-- What `schemaLetters?` finds, when it is made of letters, decomposes the name. -/
theorem exists_of_schemaLetters? {cs letters : List Char} (h : schemaLetters? cs = some letters)
    (hne : letters ≠ []) (halpha : ∀ c ∈ letters, c.isAlpha = true) :
    ∃ n : SchemaName, n.text.toList = cs ∧ n.letters = letters := by
  unfold schemaLetters? at h
  split at h
  · next rest =>
    dsimp only at h
    split at h
    · next hword =>
      have hmem : String.ofList (rest.drop (rest.length - 6)) ∈ ["SCHEMA", "Schema", "schema"] :=
        List.contains_iff_mem.mp hword
      have hrest := List.take_append_drop (rest.length - 6) rest
      have hletters := Option.some.inj h
      generalize rest.take (rest.length - 6) = front at hrest hletters
      generalize rest.drop (rest.length - 6) = behind at hrest hmem
      subst hrest
      split at hletters
      · next hlast =>
        -- the last character in front of the word separates it from the letters
        have hfront : front = letters ++ ['_'] := by
          rw [← hletters]
          exact (List.dropLast_append_getLast? '_' hlast).symm
        refine ⟨⟨letters, true, _, hne, halpha, hmem⟩, ?_, rfl⟩
        rw [toList_text, String.toList_ofList, hfront]
        rfl
      · refine ⟨⟨letters, false, _, hne, halpha, hmem⟩, ?_, rfl⟩
        rw [toList_text, String.toList_ofList, hletters, separator, if_neg Bool.false_ne_true, List.append_nil]
    · exact nomatch h
  · exact nomatch h

end SchemaName

/-- **`schemaMethod? name = some m`** exactly if `name` is `n.text` of parts that `Declares m`. -/
theorem schemaMethod?_eq_some_iff {name : String} {m : Method} :
    schemaMethod? name = some m ↔ ∃ n : SchemaName, n.text = name ∧ n.Declares m := by
  rw [schemaMethod?, Option.bind_eq_bind, Option.bind_eq_some_iff]
  constructor
  · rintro ⟨letters, hletters, hmethod⟩
    split at hmethod
    · next halpha =>
      have htoken := Method.token_of_ofToken? hmethod
      -- no method has the empty token
      have hne : letters ≠ [] := by
        rintro rfl
        revert htoken
        cases m <;> decide
      obtain ⟨n, htext, rfl⟩ := SchemaName.exists_of_schemaLetters? hletters hne (List.all_eq_true.mp halpha)
      exact ⟨n, String.toList_inj.mp htext, htoken.symm⟩
    · exact nomatch hmethod
  · rintro ⟨n, rfl, hdeclares⟩
    refine ⟨n.letters, n.schemaLetters?_text, ?_⟩
    rw [if_pos (List.all_eq_true.mpr n.isAlpha_of_mem), hdeclares]
    exact Method.ofToken?_token m

/-! ## Searching for the shortest run -/

/-- Whether the rest of a name is a schema word, behind a separator or without one. -/
def completes (rest : List Char) : Bool :=
  (match rest with
    | '_' :: behind => schemaWords.contains (String.ofList behind)
    | _ => false) || schemaWords.contains (String.ofList rest)

/-- The shortest run of letters, at least one, behind which the name is complete. One letter more is taken each time
that it is not. -/
def shortestRun? : List Char → Option (List Char)
  | [] => none
  | c :: rest =>
    if c.isAlpha then
      if completes rest then some [c] else (shortestRun? rest).map (c :: ·)
    else none

/-- The method whose schema a name declares, as that search tells it. -/
def searchedMethod? (name : String) : Option Method :=
  match name.toList with
  | '_' :: rest => do
    let letters ← shortestRun? rest
    Method.ofToken? (String.ofList (letters.map Char.toUpper))
  | _ => none

theorem completes_iff {rest : List Char} :
    completes rest = true ↔ ∃ separated, ∃ w ∈ schemaWords, rest = SchemaName.separator separated ++ w.toList := by
  unfold completes
  rw [Bool.or_eq_true]
  constructor
  · rintro (h | h)
    · split at h
      · next behind => exact ⟨true, _, List.contains_iff_mem.mp h, by simp [SchemaName.separator]⟩
      · cases h
    · exact ⟨false, _, List.contains_iff_mem.mp h, by simp [SchemaName.separator]⟩
  · rintro ⟨separated, w, hw, rfl⟩
    rw [← List.contains_iff_mem] at hw
    cases separated with
    | false => exact .inr (by simpa [SchemaName.separator] using hw)
    | true => exact .inl (by simpa [SchemaName.separator] using hw)

/-- A run of letters in front of a rest that `completes` a name does not complete one itself: it would be too long, or
the separator would be a letter. -/
theorem not_completes_of_completes {c : Char} {letters rest : List Char} (hc : c.isAlpha = true)
    (h : completes rest = true) : completes (c :: letters ++ rest) = false := by
  rw [← Bool.not_eq_true]
  intro hlong
  obtain ⟨b, w, hw, rfl⟩ := completes_iff.mp h
  obtain ⟨b', w', hw', heq⟩ := completes_iff.mp hlong
  -- the words are of one length, so a letter in front leaves no room for a rest that is complete
  have hlength := congrArg List.length heq
  simp only [List.length_append, List.length_cons, SchemaName.length_word hw, SchemaName.length_word hw'] at hlength
  cases b' with
  | false =>
    simp only [SchemaName.separator, Bool.false_eq_true, if_false, List.length_nil] at hlength
    omega
  | true =>
    rw [List.cons_append] at heq
    obtain ⟨rfl, -⟩ := List.cons.inj heq
    exact absurd hc (by decide)

/-- **`shortestRun?` finds the one run** of letters that a rest follows which `completes` the name. -/
theorem shortestRun?_eq_some_iff {cs letters : List Char} :
    shortestRun? cs = some letters ↔ letters ≠ [] ∧ (∀ c ∈ letters, c.isAlpha = true) ∧
      ∃ rest, completes rest = true ∧ cs = letters ++ rest := by
  induction cs generalizing letters with
  | nil =>
    constructor
    · intro h
      cases h
    · rintro ⟨hne, -, rest, -, heq⟩
      exact absurd (List.append_eq_nil_iff.mp heq.symm).1 hne
  | cons c cs ih =>
    rw [shortestRun?]
    constructor
    · intro h
      split at h
      · next hc =>
        split at h
        · next hrest =>
          obtain rfl := Option.some.inj h
          exact ⟨List.cons_ne_nil _ _, by simpa using hc, cs, hrest, rfl⟩
        · obtain ⟨more, hmore, rfl⟩ := Option.map_eq_some_iff.mp h
          obtain ⟨-, halpha, rest, hrest, rfl⟩ := ih.mp hmore
          exact ⟨List.cons_ne_nil _ _, List.forall_mem_cons.mpr ⟨hc, halpha⟩, rest, hrest, rfl⟩
      · cases h
    · rintro ⟨hne, halpha, rest, hrest, heq⟩
      cases letters with
      | nil => exact absurd rfl hne
      | cons d more =>
        obtain ⟨rfl, htail⟩ := List.cons.inj heq
        obtain rfl : cs = more ++ rest := htail
        obtain ⟨hc, hmore⟩ := List.forall_mem_cons.mp halpha
        rw [if_pos hc]
        cases more with
        | nil => rw [List.nil_append, if_pos hrest]
        | cons e more =>
          -- a rest that is complete later is not complete here, or a shorter run would have been taken
          have hlong : completes (e :: more ++ rest) = false :=
            not_completes_of_completes (hmore e List.mem_cons_self) hrest
          rw [hlong, if_neg Bool.false_ne_true, ih.mpr ⟨List.cons_ne_nil _ _, hmore, rest, hrest, rfl⟩, Option.map_some]

/-- `searchedMethod?` answers as `schemaMethod?` does: a name has one decomposition, so any order of trying finds it. -/
theorem searchedMethod?_eq_some_iff {name : String} {m : Method} :
    searchedMethod? name = some m ↔ ∃ n : SchemaName, n.text = name ∧ n.Declares m := by
  constructor
  · intro h
    unfold searchedMethod? at h
    split at h
    · next rest hname =>
      rw [Option.bind_eq_bind, Option.bind_eq_some_iff] at h
      obtain ⟨letters, hletters, hmethod⟩ := h
      obtain ⟨hne, halpha, rest, hrest, rfl⟩ := shortestRun?_eq_some_iff.mp hletters
      obtain ⟨separated, w, hw, rfl⟩ := completes_iff.mp hrest
      refine ⟨⟨letters, separated, w, hne, halpha, hw⟩, ?_, (Method.token_of_ofToken? hmethod).symm⟩
      rw [← String.toList_inj, SchemaName.toList_text, hname, List.append_assoc]
    · cases h
  · rintro ⟨n, rfl, hdeclares⟩
    -- the run that is found is the one of the name, as no other one is followed by a complete rest
    have hrun : shortestRun? (n.letters ++ SchemaName.separator n.separated ++ n.word.toList) = some n.letters :=
      shortestRun?_eq_some_iff.mpr ⟨n.letters_ne_nil, n.isAlpha_of_mem, _,
        completes_iff.mpr ⟨n.separated, n.word, n.word_mem, rfl⟩, List.append_assoc ..⟩
    rw [searchedMethod?, SchemaName.toList_text]
    simp only [hrun, Option.bind_eq_bind, Option.bind_some]
    rw [hdeclares]
    exact Method.ofToken?_token m

/-- **The grammar of the names that declare a schema.** `schemaMethod? name = some m` exactly if `name` is `n.text` of
parts that `Declares m`; it has one such decomposition and one method at most; and `searchedMethod?`, the search for the
shortest run of letters, answers the same. -/
theorem schemaMethod?_grammar (name : String) :
    (∀ m, schemaMethod? name = some m ↔ ∃ n : SchemaName, n.text = name ∧ n.Declares m) ∧
      (∀ n n' : SchemaName, n.text = name → n'.text = name → n = n') ∧
      (∀ m m', (∃ n : SchemaName, n.text = name ∧ n.Declares m) →
        (∃ n : SchemaName, n.text = name ∧ n.Declares m') → m = m') ∧
      searchedMethod? name = schemaMethod? name := by
  refine ⟨fun m => schemaMethod?_eq_some_iff, fun n n' h h' => ?_, fun m m' h h' => ?_, ?_⟩
  · exact SchemaName.eq_of_text_eq (h.trans h'.symm)
  · rw [← schemaMethod?_eq_some_iff] at h h'
    exact Option.some.inj (h.symm.trans h')
  · refine Option.ext fun m => ?_
    rw [searchedMethod?_eq_some_iff, schemaMethod?_eq_some_iff]

/-- A name in which nothing stands between the letters of the method and the word, which is made of letters too. -/
def postName : SchemaName where
  letters := ['P', 'o', 's', 't']
  separated := false
  word := "Schema"
  letters_ne_nil := by decide
  isAlpha_of_mem := Text.forall_mem_of_all (by decide)
  word_mem := by decide

/-- `postName` declares the schema of one method, and has no other decomposition. -/
theorem schemaMethod?_grammar_post : postName.text = "_PostSchema" ∧ postName.Declares .post ∧
    schemaMethod? "_PostSchema" = some .post ∧ ∀ n : SchemaName, n.text = "_PostSchema" → n = postName := by
  have htext : postName.text = "_PostSchema" := rfl
  have hdeclares : postName.Declares .post := rfl
  obtain ⟨hiff, hunique, -, -⟩ := schemaMethod?_grammar "_PostSchema"
  exact ⟨htext, hdeclares, (hiff .post).mpr ⟨postName, htext, hdeclares⟩, fun n hn => hunique n postName hn htext⟩

/-- The word in front of the last one belongs to the letters, so no method is meant. -/
example : schemaMethod? "_PostSchemaSchema" = none ∧ schemaMethod? "_POST_SCHEMAS" = none ∧
    schemaMethod? "__SCHEMA" = none ∧ schemaMethod? "_delete_schema" = some .delete := by decide +kernel

end RouteContracts
