import RouteContracts.Proofs.Source.Scanning

/-! # Paths of runtimes
An artifact can refer to every runtime whose path is that of a module: identifiers, raw or not, or the words
of paths, with double colons between and perhaps in front, and blanks wherever one may stand.

* `IsModulePath`: the path of a module. `ModuleTrees`: its trees.
* `IsModulePath.steps`: **the path of a module is read as its trees**, wherever it stands.
* `IsModulePath.exists_runtime`: **the path of a module is that of a runtime**, which records can refer
  to and types can begin with. -/

namespace RouteContracts

namespace Artifact

open Source Source.Lexer

/-! ## Paths -/

/-- The spelling of a part of a path: an identifier that is no keyword, one of the words `self`, `super` and `crate`, or
a raw identifier. -/
inductive IsPathPart : List Char → Prop where
  | plain {w : List Char} (hw : Text.isIdent w = true) (hpart : RuntimePath.isPart (String.ofList w) = true)
      (htry : String.ofList w ≠ "try") : IsPathPart w
  | raw {w : List Char} (hw : Text.isIdent w = true) (hraw : neverRaw.contains (String.ofList w) = false) :
      IsPathPart ('r' :: '#' :: w)

/-- Blanks that may stand in a path; a carriage return cannot stand in the attributes of records. -/
def IsPathBlank (b : List Char) : Prop := ∀ c ∈ b, isSpace c = true ∧ c ≠ '\r'

/-- Parts of a path with double colons between. -/
inductive IsPathParts : List Char → Prop where
  | last {w b : List Char} (hw : IsPathPart w) (hb : IsPathBlank b) : IsPathParts (w ++ b)
  | more {w b b' rest : List Char} (hw : IsPathPart w) (hb : IsPathBlank b) (hb' : IsPathBlank b')
      (h : IsPathParts rest) : IsPathParts (w ++ (b ++ ':' :: ':' :: (b' ++ rest)))

/-- **The path of a module**: parts with double colons between, and perhaps in front. -/
inductive IsModulePath : String → Prop where
  | relative {given : String} {b path : List Char} (hb : IsPathBlank b) (h : IsPathParts path)
      (heq : given.toList = b ++ path) : IsModulePath given
  | absolute {given : String} {b b' path : List Char} (hb : IsPathBlank b) (hb' : IsPathBlank b')
      (h : IsPathParts path) (heq : given.toList = b ++ ':' :: ':' :: (b' ++ path)) : IsModulePath given

/-! ## Reading paths -/

theorem endsWord_append {b s : List Char} (hb : IsPathBlank b) (hs : EndsWord s) : EndsWord (b ++ s) := by
  cases b with
  | nil => exact hs
  | cons c b => exact endsWord_space (hb c (List.mem_cons_self ..)).1 (b ++ s)

theorem endsWord_colon (s : List Char) : EndsWord (':' :: s) := endsWord_mark (by decide) s

/-- The trees of parts of a path with double colons between. No part is `try`, with which no type can begin. -/
inductive PathTrees : List Tree → Prop where
  | last {w : String} (hpart : RuntimePath.isPart w = true) (htry : w ≠ "try") : PathTrees [.word w]
  | more {w : String} (hpart : RuntimePath.isPart w = true) (htry : w ≠ "try") {ts : List Tree}
      (h : PathTrees ts) : PathTrees (.word w :: .mark ':' true :: .mark ':' false :: ts)

/-- The trees of a path, which may begin with a double colon. -/
inductive ModuleTrees : List Tree → Prop where
  | relative {ts : List Tree} (h : PathTrees ts) : ModuleTrees ts
  | absolute {ts : List Tree} (h : PathTrees ts) : ModuleTrees (.mark ':' true :: .mark ':' false :: ts)

/-- `r#` and a word is a part: no reserved word has the mark. -/
theorem isPart_raw (w : List Char) : RuntimePath.isPart (String.ofList ('r' :: '#' :: w)) = true := by
  have hreserved : ∀ k ∈ Peek.reserved, k.toList.take 2 ≠ ['r', '#'] := by decide
  rw [RuntimePath.isPart, Bool.or_eq_true, Bool.not_eq_true']
  refine .inr ?_
  rw [← Bool.not_eq_true, List.contains_iff_mem]
  intro hmem
  exact hreserved _ hmem (by rw [String.toList_ofList]; rfl)

/-- A character at which a part of a path or a blank begins is no mark. -/
theorem markAtFront_of_part {c : Char} (hc : isSpace c = true ∨ Text.isIdentPart c = true) (s : List Char) :
    markAtFront (c :: s) = false := by
  have hblank : ∀ d ∈ "~!@#$%^&*-=+|;:,<.>/?'".toList, isSpace d = false :=
    Text.forall_mem_of_all (by decide +kernel)
  have hmark : isMark c = false := by
    rcases hc with hc | hc
    · rw [← Bool.not_eq_true, isMark, List.contains_iff_mem]
      intro hmem
      rw [hblank c hmem] at hc
      cases hc
    · exact isMark_of_isIdentPart hc
  unfold markAtFront
  split
  · rfl
  · rfl
  · next heq => rw [← (List.cons.inj heq).1]; exact hmark
  · rfl

/-- A part of a path begins with an `isIdentPart`. -/
theorem IsPathPart.exists_head {w : List Char} (hw : IsPathPart w) :
    ∃ c rest, w = c :: rest ∧ Text.isIdentPart c = true := by
  cases hw with
  | plain hw _ _ =>
    cases w with
    | nil => cases hw
    | cons c rest =>
      rw [Text.isIdent, Bool.and_eq_true] at hw
      exact ⟨c, rest, rfl, Text.isIdentPart_of_isIdentStart hw.1⟩
  | raw _ _ => exact ⟨'r', _, rfl, by decide⟩

/-- No mark stands at the front of parts of a path, with blanks in front of them or not. -/
theorem IsPathParts.markAtFront {b path : List Char} (hb : IsPathBlank b) (h : IsPathParts path) (s : List Char) :
    markAtFront (b ++ (path ++ s)) = false := by
  have hpath : ∃ c rest, path ++ s = c :: rest ∧ Text.isIdentPart c = true := by
    cases h with
    | last hw _ | more hw _ _ _ =>
      obtain ⟨c, rest, rfl, hc⟩ := hw.exists_head
      exact ⟨c, _, rfl, hc⟩
  cases b with
  | nil =>
    obtain ⟨c, rest, heq, hc⟩ := hpath
    rw [List.nil_append, heq]
    exact markAtFront_of_part (.inr hc) rest
  | cons c b => exact markAtFront_of_part (.inl (hb c (List.mem_cons_self ..)).1) _

variable {around : List (Delimiter × List Tree)} {here : List Tree} {s : List Char}

theorem steps_blanks {b : List Char} (hb : IsPathBlank b) : Steps ⟨around, here, b ++ s⟩ ⟨around, here, s⟩ :=
  .blanks fun c hc => (hb c hc).1

/-- `Steps` over a part of a path. -/
theorem IsPathPart.steps {w : List Char} (hw : IsPathPart w) (hs : EndsWord s) :
    Steps ⟨around, here, w ++ s⟩ ⟨around, .word (String.ofList w) :: here, s⟩ := by
  cases hw with
  | plain hw _ _ => exact .plain hw hs
  | raw hw hraw => exact .raw hw hraw hs

/-- A part of a path is a word for which `RuntimePath.isPart` holds, and which is not `try`. -/
theorem IsPathPart.isPart {w : List Char} (hw : IsPathPart w) :
    RuntimePath.isPart (String.ofList w) = true ∧ String.ofList w ≠ "try" := by
  cases hw with
  | plain _ hpart htry => exact ⟨hpart, htry⟩
  | raw _ _ =>
    refine ⟨isPart_raw _, fun heq => ?_⟩
    have hlist := congrArg String.toList heq
    rw [String.toList_ofList] at hlist
    exact absurd (List.cons.inj hlist).1 (by decide)

/-- `Steps` over the double colon in front of parts of a path. -/
theorem IsPathParts.steps_colons {b path : List Char} (hb : IsPathBlank b) (h : IsPathParts path) (s : List Char) :
    Steps ⟨around, here, ':' :: ':' :: (b ++ (path ++ s))⟩
      ⟨around, .mark ':' false :: .mark ':' true :: here, path ++ s⟩ := by
  have hcolons : Steps ⟨around, here, ':' :: ':' :: (b ++ (path ++ s))⟩ _ := .colons
  rw [h.markAtFront hb s] at hcolons
  exact hcolons.trans (steps_blanks hb)

/-- **`Steps` over parts of a path** read their `PathTrees`. -/
theorem IsPathParts.steps {path : List Char} (h : IsPathParts path) :
    ∃ ts, PathTrees ts ∧ ∀ around here s, EndsWord s →
      Steps ⟨around, here, path ++ s⟩ ⟨around, ts.reverse ++ here, s⟩ := by
  induction h with
  | @last w b hw hb =>
    obtain ⟨hpart, htry⟩ := hw.isPart
    refine ⟨_, .last hpart htry, fun around here s hs => ?_⟩
    rw [List.append_assoc]
    exact (hw.steps (endsWord_append hb hs)).trans (steps_blanks hb)
  | @more w b b' rest hw hb hb' hrest ih =>
    obtain ⟨ts, hts, hsteps⟩ := ih
    obtain ⟨hpart, htry⟩ := hw.isPart
    refine ⟨_, .more hpart htry hts, fun around here s hs => ?_⟩
    have hpart : Steps ⟨around, here, w ++ (b ++ ':' :: ':' :: (b' ++ (rest ++ s)))⟩
        ⟨around, .word (String.ofList w) :: here, ':' :: ':' :: (b' ++ (rest ++ s))⟩ :=
      (hw.steps (endsWord_append hb (endsWord_colon _))).trans (steps_blanks hb)
    have h := (hpart.trans (hrest.steps_colons hb' s)).trans (hsteps _ _ s hs)
    simpa using h

/-- **`Steps` over the path of a module** read its `ModuleTrees`. -/
theorem IsModulePath.steps {given : String} (h : IsModulePath given) :
    ∃ ts, ModuleTrees ts ∧ ∀ around here s, EndsWord s →
      Steps ⟨around, here, given.toList ++ s⟩ ⟨around, ts.reverse ++ here, s⟩ := by
  cases h with
  | relative hb h heq =>
    obtain ⟨ts, hts, hsteps⟩ := h.steps
    refine ⟨ts, .relative hts, fun around here s hs => ?_⟩
    rw [heq, List.append_assoc]
    exact (steps_blanks hb).trans (hsteps around here s hs)
  | @absolute b b' path hb hb' h heq =>
    obtain ⟨ts, hts, hsteps⟩ := h.steps
    refine ⟨_, .absolute hts, fun around here s hs => ?_⟩
    have hfront : Steps ⟨around, here, b ++ ':' :: ':' :: (b' ++ (path ++ s))⟩
        ⟨around, .mark ':' false :: .mark ':' true :: here, path ++ s⟩ :=
      (steps_blanks hb).trans (h.steps_colons hb' s)
    have h := hfront.trans (hsteps _ _ s hs)
    rw [heq]
    simpa using h

/-- `spelledParts?` spells `PathTrees` and the separator behind them. -/
theorem PathTrees.isSome_spelledParts? {ts : List Tree} (h : PathTrees ts) (joins : Bool) :
    (RuntimePath.spelledParts? (ts ++ [.mark ':' true, .mark ':' joins])).isSome = true := by
  induction h with
  | last hpart _ =>
    rw [List.singleton_append, RuntimePath.spelledParts?, if_pos hpart]
    rfl
  | more hpart _ _ ih =>
    rw [List.cons_append, List.cons_append, List.cons_append, RuntimePath.spelledParts?, if_pos hpart,
      Option.isSome_map]
    exact ih

/-- A word that `RuntimePath.isPart` can be the first one of the path of a type, `try` apart. -/
theorem pathStart_word {w : String} (hpart : RuntimePath.isPart w = true) (htry : w ≠ "try") (ts : List Tree) :
    Peek.pathStart (.word w :: ts) = true := by
  have hwords : ∀ k ∈ RuntimePath.pathWords, k ≠ "try" → Peek.pathStart (.word k :: ts) = true := by
    intro k hk hne
    simp only [RuntimePath.pathWords, List.mem_cons, List.not_mem_nil, or_false] at hk
    rcases hk with rfl | rfl | rfl | rfl
    · rfl
    · rfl
    · rfl
    · exact absurd rfl hne
  rw [RuntimePath.isPart, Bool.or_eq_true, List.contains_iff_mem] at hpart
  rcases hpart with hpart | hpart
  · exact hwords w hpart htry
  · rw [Peek.pathStart, Peek.any, List.any_cons, Peek.identifier, hpart, Bool.true_or]

/-- A type can begin with `ModuleTrees`. -/
theorem ModuleTrees.pathStart {ts : List Tree} (h : ModuleTrees ts) (rest : List Tree) :
    Peek.pathStart (ts ++ rest) = true := by
  cases h with
  | relative h =>
    cases h with
    | last hpart htry | more hpart htry _ => exact pathStart_word hpart htry _
  | absolute h => rfl

/-! ## Paths in the attributes of records -/

/-- A text without the characters that mean something in quotes or at the front of a text. -/
def IsPlainText (s : List Char) : Prop := ∀ c ∈ s, c ∉ ['"', '\\', '\r', '\ufeff']

instance (s : List Char) : Decidable (IsPlainText s) :=
  List.decidableBAll (fun c => c ∉ ['"', '\\', '\r', '\ufeff']) s

theorem IsPlainText.append {s t : List Char} (hs : IsPlainText s) (ht : IsPlainText t) :
    IsPlainText (s ++ t) := by
  intro c hc
  rcases List.mem_append.mp hc with hc | hc
  · exact hs c hc
  · exact ht c hc

theorem isPlainText_colons {s : List Char} (h : IsPlainText s) : IsPlainText (':' :: ':' :: s) :=
  IsPlainText.append (s := [':', ':']) (by decide) h

theorem IsPathBlank.isPlainText {b : List Char} (hb : IsPathBlank b) : IsPlainText b := by
  intro c hc hmem
  obtain ⟨hspace, hreturn⟩ := hb c hc
  simp only [List.mem_cons, List.not_mem_nil, or_false] at hmem
  rcases hmem with rfl | rfl | rfl | rfl
  · exact absurd hspace (by decide)
  · exact absurd hspace (by decide)
  · exact hreturn rfl
  · exact absurd hspace (by decide)

theorem isPlainText_of_words {w : List Char} (hw : w.all Text.isWordChar = true) : IsPlainText w := by
  have hall : ∀ c ∈ ['"', '\\', '\r', '\ufeff'], Text.isWordChar c = false :=
    Text.forall_mem_of_all (by decide +kernel)
  intro c hc hmem
  have hfalse := hall c hmem
  rw [List.all_eq_true.mp hw c hc] at hfalse
  cases hfalse

theorem IsPathPart.isPlainText {w : List Char} (hw : IsPathPart w) : IsPlainText w := by
  cases hw with
  | plain hw _ => exact isPlainText_of_words (Text.isWordChar_of_isIdent hw)
  | @raw w hw _ =>
    exact IsPlainText.append (s := ['r', '#']) (by decide)
      (isPlainText_of_words (Text.isWordChar_of_isIdent hw))

theorem IsPathParts.isPlainText {path : List Char} (h : IsPathParts path) : IsPlainText path := by
  induction h with
  | last hw hb => exact hw.isPlainText.append hb.isPlainText
  | more hw hb hb' _ ih =>
    exact hw.isPlainText.append (hb.isPlainText.append (isPlainText_colons (hb'.isPlainText.append ih)))

theorem IsModulePath.isPlainText {given : String} (h : IsModulePath given) : IsPlainText given.toList := by
  cases h with
  | relative hb h heq => rw [heq]; exact hb.isPlainText.append h.isPlainText
  | absolute hb hb' h heq =>
    rw [heq]
    exact hb.isPlainText.append (isPlainText_colons (hb'.isPlainText.append h.isPlainText))

/-- `Literal.quotedBody` reads an `IsPlainText` up to the quote behind it. -/
theorem quotedBody_of_isPlainText {s : List Char} (hs : IsPlainText s) {fuel : Nat} (hfuel : s.length < fuel)
    (rest : List Char) :
    Literal.quotedBody .text fuel (s ++ '"' :: rest) = some (s, s ++ ['"'], rest) := by
  induction s generalizing fuel with
  | nil =>
    obtain ⟨fuel, rfl⟩ := Nat.exists_eq_add_of_lt hfuel
    rfl
  | cons c s ih =>
    rw [List.length_cons] at hfuel
    obtain ⟨fuel, rfl⟩ : ∃ n, fuel = n + 1 := ⟨fuel - 1, by omega⟩
    have hc := hs c (List.mem_cons_self ..)
    simp only [List.mem_cons, List.not_mem_nil, or_false, not_or] at hc
    rw [List.cons_append, Literal.quotedBody_plain hc.1 hc.2.1 hc.2.2.1,
      ih (fun d hd => hs d (List.mem_cons_of_mem _ hd)) (by omega)]
    rfl

/-- `Steps` over an `IsPlainText` in quotes, where no suffix follows. -/
theorem IsPlainText.steps {t : List Char} (ht : IsPlainText t) (hs : ∀ c ∈ s.head?, Text.isIdentStart c = false) :
    Steps ⟨around, here, '"' :: (t ++ '"' :: s)⟩
      ⟨around, .literal (String.ofList ('"' :: (t ++ ['"']))) :: here, s⟩ := by
  have hfuel : t.length < (t ++ '"' :: s).length + 1 := by
    rw [List.length_append]
    omega
  exact .literal (quotedBody_of_isPlainText ht hfuel s) (by rw [List.length_append, List.length_cons]; omega) hs

/-- **`RuntimePath.ofText?` reads every `IsModulePath`**, records can refer to it, and types can begin with it. -/
theorem IsModulePath.exists_runtime {given : String} (h : IsModulePath given) :
    ∃ runtime, RuntimePath.ofText? given = some runtime ∧ runtime.Serves := by
  have hplain := h.isPlainText
  obtain ⟨ts, hts, hsteps⟩ := h.steps
  -- no byte order mark stands in front, which the reader would skip
  have hfirst : (given ++ "::").toList.head? ≠ some '\ufeff' := by
    rw [String.toList_append]
    intro hhead
    have hmem := List.mem_of_mem_head? hhead
    rcases List.mem_append.mp hmem with hmem | hmem
    · exact hplain _ hmem (by decide)
    · exact absurd hmem (by decide)
  have htrees : trees? (given ++ "::").toList = some (ts ++ [.mark ':' true, .mark ':' false]) := by
    have hall : Steps ⟨[], [], (given ++ "::").toList⟩
        ⟨[], .mark ':' false :: .mark ':' true :: (ts.reverse ++ []), []⟩ := by
      rw [String.toList_append]
      exact (hsteps [] [] [':', ':'] (endsWord_colon [':'])).trans .colons
    rw [hall.trees? hfirst]
    simp
  have hspelled : (RuntimePath.spelled? (ts ++ [.mark ':' true, .mark ':' false])).isSome = true := by
    cases hts with
    | relative h =>
      have hspelled := h.isSome_spelledParts? false
      cases h with
      | last | more => exact hspelled
    | absolute h =>
      rw [List.cons_append, List.cons_append, RuntimePath.spelled?, Option.isSome_map]
      exact h.isSome_spelledParts? false
  obtain ⟨spelled, hspelled⟩ := Option.isSome_iff_exists.mp hspelled
  refine ⟨⟨given, spelled⟩, ?_, ?_, ?_⟩
  · rw [RuntimePath.ofText?, htrees]
    show (RuntimePath.spelled? _).bind _ = _
    rw [hspelled]
    rfl
  · -- what the attribute of a record quotes is one literal
    have htext : (RuntimePath.quotedRecords ⟨given, spelled⟩).toList =
        '"' :: (given.toList ++ "::serde".toList ++ ['"']) := by
      simp [RuntimePath.quotedRecords]
    have hliteral : Steps ⟨[], [], '"' :: (given.toList ++ "::serde".toList ++ ['"'])⟩ _ :=
      (hplain.append (by decide)).steps fun c hc => by cases hc
    rw [RuntimePath.servesRecords, htext, hliteral.trees? (by simp)]
    rfl
  · rw [RuntimePath.servesTypes, htrees]
    exact hts.pathStart _

end Artifact

end RouteContracts
