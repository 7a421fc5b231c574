import RouteContracts.Proofs.Source.Quoting
import RouteContracts.Proofs.Source.Tokens

/-! # Reading a text in one pass
Flat tokens can be assembled while they are read. A place in a text then is what stands around it so far and the
rest of the text, and a reader takes the text from place to place. What it reads of one part is said with the
rest of the text in sight, because it is the rest that tells where a word or an operator ends.

* `Place`, `scan`: the trees of a text from a place on. `scan_eq`: **`scan` is `assemble` behind `lexemesWithin`.**
* `Steps`: one place leads to another one. `Stuck`: no text goes on from a place.
* `Steps.word`, `stuck_word`: **a text that `isWord` is read as a word**, and another one of `IsNameChar`
  characters is not read at all. -/

namespace RouteContracts.Source.Lexer

/-- A place in a text. -/
structure Place where
  /-- The brackets that are open, each with the trees in front of it, the latest first. -/
  around : List (Delimiter × List Tree)
  /-- The trees of the current group, the latest first. -/
  here : List Tree
  /-- The rest of the text. -/
  rest : List Char

/-- The trees of a text from a place on, in at most `fuel` steps. -/
def scan : Nat → List (Delimiter × List Tree) → List Tree → List Char → Option (List Tree)
  | _, around, here, [] => assemble around here []
  | 0, _, _, _ :: _ => none
  | fuel + 1, around, here, c :: s =>
    match skipped? (c :: s) with
    | some rest => scan fuel around here rest
    | none =>
      match lexeme? (c :: s) with
      | some (.opening d, rest) => scan fuel ((d, here) :: around) [] rest
      | some (.closing e, rest) =>
        match around with
        | [] => none
        | (d, before) :: around =>
          if d = e then scan fuel around (.group d here.reverse :: before) rest else none
      | some (.trees ts, rest) => scan fuel around (ts.reverse ++ here) rest
      | none => none

/-- **`scan` is `assemble` behind `lexemesWithin`.** -/
theorem scan_eq (fuel : Nat) (around : List (Delimiter × List Tree)) (here : List Tree) (s : List Char) :
    scan fuel around here s = (lexemesWithin fuel s).bind (assemble around here) := by
  induction fuel generalizing around here s with
  | zero => cases s <;> rfl
  | succ fuel ih =>
    cases s with
    | nil => rfl
    | cons c s =>
      rw [scan, lexemesWithin]
      · cases skipped? (c :: s) with
        | some rest => exact ih around here rest
        | none =>
          cases lexeme? (c :: s) with
          | none => rfl
          | some r =>
            obtain ⟨l, rest⟩ := r
            have hmore : ∀ f : List Lexeme → Option (List Tree),
                ((lexemesWithin fuel rest).bind fun ls => some (l :: ls)).bind f =
                  (lexemesWithin fuel rest).bind fun ls => f (l :: ls) := by
              intro f
              cases lexemesWithin fuel rest <;> rfl
            refine Eq.trans ?_ (hmore _).symm
            cases l with
            | opening d =>
              simp only [assemble]
              exact ih _ _ rest
            | trees ts =>
              simp only [assemble]
              exact ih _ _ rest
            | closing e =>
              cases around with
              | nil => cases lexemesWithin fuel rest <;> rfl
              | cons a around =>
                obtain ⟨d, before⟩ := a
                by_cases hd : d = e
                · simp only [assemble, if_pos hd]
                  exact ih _ _ rest
                · simp only [assemble, if_neg hd]
                  cases lexemesWithin fuel rest <;> rfl
      · exact fun h => by cases h

theorem scan_nil (fuel : Nat) (around : List (Delimiter × List Tree)) (here : List Tree) :
    scan fuel around here [] = assemble around here [] := by
  cases fuel <;> rfl

/-! ## From place to place -/

/-- `scan` goes from one place to another one, in no more steps than there are characters between. -/
def Steps (p q : Place) : Prop :=
  ∃ k, k + q.rest.length ≤ p.rest.length ∧
    ∀ fuel, scan (fuel + k) p.around p.here p.rest = scan fuel q.around q.here q.rest

/-- A place from which no text is read to its end. -/
def Stuck (p : Place) : Prop := ∀ fuel, p.rest.length ≤ fuel → scan fuel p.around p.here p.rest = none

variable {around : List (Delimiter × List Tree)} {here : List Tree} {s : List Char}

namespace Steps

theorem refl (p : Place) : Steps p p := ⟨0, by omega, fun _ => rfl⟩

/-- `Steps` is transitive. -/
theorem trans {p q r : Place} (h : Steps p q) (h' : Steps q r) : Steps p r := by
  obtain ⟨k, hk, hscan⟩ := h
  obtain ⟨k', hk', hscan'⟩ := h'
  refine ⟨k' + k, by omega, fun fuel => ?_⟩
  rw [← Nat.add_assoc, hscan, hscan']

/-- A place that leads to a `Stuck` one is `Stuck`. -/
theorem stuck {p q : Place} (h : Steps p q) (hq : Stuck q) : Stuck p := by
  obtain ⟨k, hk, hscan⟩ := h
  intro fuel hfuel
  obtain ⟨n, rfl⟩ : ∃ n, fuel = n + k := ⟨fuel - k, by omega⟩
  rw [hscan, hq n (by omega)]

/-- `Steps` over a lexeme of trees. -/
theorem trees {c : Char} {w rest : List Char} {ts : List Tree} (hskip : skipped? (c :: w) = none)
    (hlexeme : lexeme? (c :: w) = some (.trees ts, rest)) (hrest : rest.length ≤ w.length) :
    Steps ⟨around, here, c :: w⟩ ⟨around, ts.reverse ++ here, rest⟩ := by
  refine ⟨1, ?_, fun fuel => ?_⟩
  · show 1 + rest.length ≤ (c :: w).length
    rw [List.length_cons]
    omega
  show scan (fuel + 1) around here (c :: w) = _
  rw [scan, hskip]
  simp only [hlexeme]

/-- `Steps` over a character that `isSpace`. -/
theorem space {c : Char} (hc : isSpace c = true) : Steps ⟨around, here, c :: s⟩ ⟨around, here, s⟩ := by
  have hslash : c ≠ '/' := by rintro rfl; exact absurd hc (by decide)
  refine ⟨1, Nat.le_of_eq (Nat.add_comm 1 s.length), fun fuel => ?_⟩
  show scan (fuel + 1) around here (c :: s) = _
  rw [scan, skipped?_cons hslash, if_pos hc]

/-- `Steps` over blanks. -/
theorem blanks {b : List Char} (hb : ∀ c ∈ b, isSpace c = true) :
    Steps ⟨around, here, b ++ s⟩ ⟨around, here, s⟩ := by
  induction b with
  | nil => exact refl _
  | cons c b ih =>
    exact (space (hb c (List.mem_cons_self ..))).trans (ih fun d hd => hb d (List.mem_cons_of_mem _ hd))

/-- `Steps` over a token that is no comment, blank or bracket first. -/
theorem leaf {c : Char} {w : List Char} {t : Tree} (hspace : isSpace c = false) (hslash : c ≠ '/')
    (hopens : opens? c = none) (hcloses : closes? c = none) (hleaf : leaf? (c :: w ++ s) = some (t, s)) :
    Steps ⟨around, here, c :: w ++ s⟩ ⟨around, t :: here, s⟩ := by
  have hskip : skipped? (c :: (w ++ s)) = none := by
    rw [skipped?_cons hslash]
    exact if_neg (by simp [hspace])
  have hlexeme : lexeme? (c :: (w ++ s)) = some (.trees [t], s) := by
    rw [lexeme?, documented?_cons hslash]
    simp only [hopens, hcloses]
    rw [← List.cons_append, hleaf]
    rfl
  exact trees hskip hlexeme (by rw [List.length_append]; omega)

/-- `Steps` over an identifier. -/
theorem plain {w : List Char} (hw : Text.isIdent w = true) (hs : EndsWord s) :
    Steps ⟨around, here, w ++ s⟩ ⟨around, .word (String.ofList w) :: here, s⟩ := by
  have hleaf := leaf?_plain hw hs
  cases w with
  | nil => cases hw
  | cons c w =>
    rw [Text.isIdent, Bool.and_eq_true] at hw
    have hc := Text.isIdentPart_of_isIdentStart hw.1
    obtain ⟨hopens, hcloses⟩ := opens?_of_isIdentPart hc
    exact leaf (isSpace_of_isIdentPart hc) (ne_of_isIdentPart hc (by decide)) hopens hcloses hleaf

/-- `Steps` over a raw identifier. -/
theorem raw {w : List Char} (hw : Text.isIdent w = true) (hraw : neverRaw.contains (String.ofList w) = false)
    (hs : EndsWord s) :
    Steps ⟨around, here, 'r' :: '#' :: w ++ s⟩ ⟨around, .word (String.ofList ('r' :: '#' :: w)) :: here, s⟩ :=
  leaf (by decide) (by decide) (by decide) (by decide) (leaf?_raw hw hraw hs)

/-- `Steps` over `::`. -/
theorem colons : Steps ⟨around, here, ':' :: ':' :: s⟩
    ⟨around, .mark ':' (markAtFront s) :: .mark ':' true :: here, s⟩ :=
  ⟨2, by simp only [List.length_cons]; omega, fun _ => rfl⟩

/-- `trees?` of a text without a mark for its encoding, from `Steps` to its end. -/
theorem trees? (h : Steps ⟨[], [], s⟩ ⟨[], here, []⟩) (hs : s.head? ≠ some '\ufeff') :
    trees? s = some here.reverse := by
  have hmark : withoutByteOrderMark s = s := by
    unfold withoutByteOrderMark
    split
    · exact absurd rfl hs
    · rfl
  obtain ⟨k, hk, hscan⟩ := h
  obtain ⟨n, hn⟩ : ∃ n, s.length = n + k := ⟨s.length - k, by simp only at hk; omega⟩
  rw [Lexer.trees?, hmark, lexemes?]
  show (lexemesWithin s.length s).bind (assemble [] []) = _
  rw [← scan_eq, hn]
  exact (hscan n).trans (scan_nil n [] here)

end Steps

/-- `trees?` of a text that is `Stuck`, without a mark for its encoding. -/
theorem Stuck.trees? (h : Stuck ⟨[], [], s⟩) (hs : s.head? ≠ some '\ufeff') : trees? s = none := by
  have hmark : withoutByteOrderMark s = s := by
    unfold withoutByteOrderMark
    split
    · exact absurd rfl hs
    · rfl
  rw [Lexer.trees?, hmark, lexemes?]
  show (lexemesWithin s.length s).bind (assemble [] []) = _
  rw [← scan_eq]
  exact h s.length (Nat.le_refl _)

/-! ## Literals and comments -/

namespace Steps

/-- `Steps` over a text in quotes, of which `quotedRest` gives the spelling, where no suffix follows. -/
theorem literal {cs value spelling : List Char} (hread : Literal.quotedRest .text cs = some (value, spelling, s))
    (hlength : s.length ≤ cs.length) (hs : ∀ c ∈ s.head?, Text.isIdentStart c = false) :
    Steps ⟨around, here, '"' :: cs⟩ ⟨around, .literal (String.ofList ('"' :: spelling)) :: here, s⟩ := by
  have hsuffix : Literal.suffix s = ([], s) := by
    cases s with
    | nil => rfl
    | cons c s =>
      rw [Literal.suffix, hs c rfl]
      rfl
  have hquoted : Literal.quoted ('"' :: cs) = some ('"' :: spelling, s) := by
    show Literal.spelled ['"'] (Literal.quotedRest .text cs) = _
    rw [hread]
    show Literal.withSuffix ('"' :: spelling) s = _
    rw [Literal.withSuffix, hsuffix]
    exact congrArg (fun l => some (l, s)) (List.append_nil _)
  have hleaf : leaf? ('"' :: cs) = some (.literal (String.ofList ('"' :: spelling)), s) := by
    rw [leaf?, Literal.scan, hquoted]
    rfl
  have hskip : skipped? ('"' :: cs) = none := by
    rw [skipped?_cons (by decide)]
    rfl
  have hlexeme : lexeme? ('"' :: cs) = some (.trees [.literal (String.ofList ('"' :: spelling))], s) := by
    rw [lexeme?, documented?_cons (by decide)]
    show (leaf? ('"' :: cs)).map _ = _
    rw [hleaf]
    rfl
  exact trees hskip hlexeme hlength

/-- `Steps` over `Text.quoted t`. -/
theorem quoted (t : String) (hs : ∀ c ∈ s.head?, Text.isIdentStart c = false) :
    Steps ⟨around, here, (Text.quoted t).toList ++ s⟩ ⟨around, .literal (Text.quoted t) :: here, s⟩ := by
  have hlist : (Text.quoted t).toList ++ s = '"' :: (t.toList.flatMap Text.quotedChar ++ '"' :: s) := by
    simp [Text.quoted]
  have hread : Literal.quotedRest .text (t.toList.flatMap Text.quotedChar ++ '"' :: s) =
      some (t.toList, t.toList.flatMap Text.quotedChar ++ ['"'], s) := by
    refine Literal.quotedBody_quoted t.toList ?_ s
    have hlength := Literal.length_le_length_flatMap_quotedChar t.toList
    rw [List.length_append]
    omega
  rw [hlist]
  exact literal hread (by rw [List.length_append, List.length_cons]; omega) hs

/-- `Steps` over a line of comment, which is its `documentation`. -/
theorem comment {cs : List Char} (hline : '\n' ∉ cs) (hreturn : '\r' ∉ cs) :
    Steps ⟨around, here, '/' :: '/' :: '/' :: ' ' :: (cs ++ '\n' :: s)⟩
      ⟨around, (documentation false (' ' :: cs)).reverse ++ here, '\n' :: s⟩ := by
  have hline' : '\n' ∉ ' ' :: cs := by simpa using hline
  have hreturn' : '\r' ∉ ' ' :: cs := by simpa using hreturn
  have hread : line (' ' :: (cs ++ '\n' :: s)) = (' ' :: cs, '\n' :: s) := line_of_oneLine hline' hreturn' s
  have hlexeme : lexeme? ('/' :: '/' :: '/' :: ' ' :: (cs ++ '\n' :: s)) =
      some (.trees (documentation false (' ' :: cs)), '\n' :: s) := by
    have hshape : documented? ('/' :: '/' :: '/' :: ' ' :: (cs ++ '\n' :: s)) =
        if hasBareReturn (line (' ' :: (cs ++ '\n' :: s))).1 then none
        else some (documentation false (line (' ' :: (cs ++ '\n' :: s))).1, (line (' ' :: (cs ++ '\n' :: s))).2) :=
      rfl
    rw [lexeme?, hshape, hread, hasBareReturn_of_not_mem hreturn']
    rfl
  exact trees rfl hlexeme (by simp only [List.length_cons, List.length_append]; omega)

end Steps

/-! ## Words and texts that are none -/

/-- Whether a text is the spelling of a word: an identifier, or `r#` and one that is none of `neverRaw`. -/
def isWord (n : String) : Bool :=
  match n.toList with
  | 'r' :: '#' :: rest => Text.isIdent rest && !neverRaw.contains (String.ofList rest)
  | cs => Text.isIdent cs

/-- `Steps` over a text that `isWord`. -/
theorem Steps.word {n : String} (hn : isWord n = true) (hs : EndsWord s) :
    Steps ⟨around, here, n.toList ++ s⟩ ⟨around, .word n :: here, s⟩ := by
  have hlist : n = String.ofList n.toList := String.ofList_toList.symm
  unfold isWord at hn
  split at hn
  · next rest hrest =>
    rw [Bool.and_eq_true, Bool.not_eq_true'] at hn
    rw [hlist, String.toList_ofList, hrest]
    exact raw hn.1 hn.2 hs
  · rw [hlist, String.toList_ofList]
    exact plain hn hs

/-- A character of names: no blank, and an ASCII one only where it `isIdentPart`. -/
structure IsNameChar (c : Char) : Prop where
  part : c.toNat < 0x80 → Text.isIdentPart c = true
  notBlank : isSpace c = false

/-- A text of `IsNameChar` characters with no digit of ASCII in front. -/
structure IsNameLike (n : String) : Prop where
  chars : ∀ c ∈ n.toList, IsNameChar c
  head : ∃ c, n.toList.head? = some c ∧ c.isDigit = false

theorem ne_of_ascii {c d : Char} (hc : ¬c.toNat < 0x80) (hd : d.toNat < 0x80) : c ≠ d := by
  rintro rfl
  exact hc hd

/-- A text is `Stuck` at a character beyond ASCII that is no blank and no `isIdentStart`. -/
theorem stuck_char {c : Char} (hascii : ¬c.toNat < 0x80) (hspace : isSpace c = false)
    (hstart : Text.isIdentStart c = false) : Stuck ⟨around, here, c :: s⟩ := by
  have hne : ∀ d : Char, d.toNat < 0x80 → c ≠ d := fun d hd => ne_of_ascii hascii hd
  have hdigit : c.isDigit = false := by
    rw [← Bool.not_eq_true]
    intro h
    exact hascii (Nat.lt_of_le_of_lt (Text.isDigit_toNat h).2 (by decide))
  have hquoted : Literal.quoted (c :: s) = none := by
    unfold Literal.quoted
    split
    case h_9 => rfl
    all_goals
      next heq => exact absurd (List.cons.inj heq).1 (hne _ (by decide))
  have hmark : mark? (c :: s) = none := by
    have hfront : markAtFront (c :: s) = false := by
      unfold markAtFront
      split
      · rfl
      · rfl
      · next heq =>
        obtain ⟨rfl, rfl⟩ := List.cons.inj heq
        have hmarks : ∀ d ∈ "~!@#$%^&*-=+|;:,<.>/?'".toList, d.toNat < 0x80 :=
          Text.forall_mem_of_all (by decide +kernel)
        rw [← Bool.not_eq_true, isMark, List.contains_iff_mem]
        exact fun hmem => hascii (hmarks c hmem)
      · rfl
    unfold mark?
    rw [hfront]
    rfl
  have hfronts : quotedFronts.any (Literal.startsWith · (c :: s)) = false := by
    simp [quotedFronts, Literal.startsWith, (hne 'r' (by decide)).symm, (hne 'b' (by decide)).symm,
      (hne 'c' (by decide)).symm]
  have hword : word? (c :: s) = none := by
    unfold word?
    split
    · next heq => exact absurd (List.cons.inj heq).1 (hne 'r' (by decide))
    · rw [plainWord?, hstart]
      rfl
  have hleaf : leaf? (c :: s) = none := by
    rw [leaf?, Literal.scan, hquoted, Option.none_or, number_of_nondigit s hdigit]
    simp only [hmark, hfronts, hword]
    rfl
  have hopens : opens? c = none ∧ closes? c = none := by
    unfold opens? closes?
    constructor
    · split
      case h_4 => rfl
      all_goals exact absurd rfl (hne _ (by decide))
    · split
      case h_4 => rfl
      all_goals exact absurd rfl (hne _ (by decide))
  have hlexeme : lexeme? (c :: s) = none := by
    rw [lexeme?, documented?_cons (hne '/' (by decide))]
    simp only [hopens.1, hopens.2, hleaf]
    rfl
  have hskip : skipped? (c :: s) = none := by
    rw [skipped?_cons (hne '/' (by decide)), hspace]
    rfl
  intro fuel hfuel
  obtain ⟨fuel, rfl⟩ : ∃ n, fuel = n + 1 := ⟨fuel - 1, by simp only [List.length_cons] at hfuel; omega⟩
  show scan (fuel + 1) around here (c :: s) = none
  rw [scan, hskip]
  simp only [hlexeme]

/-- **A text that `IsNameLike` and not `isWord` is `Stuck`.** -/
theorem stuck_word {n : String} (hlike : IsNameLike n) (hn : isWord n = false) :
    Stuck ⟨around, here, n.toList ++ s⟩ := by
  obtain ⟨hchars, c, hhead, hdigit⟩ := hlike
  obtain ⟨rest, hlist⟩ := List.head?_eq_some_iff.mp hhead
  -- a number sign is no character of a name, so the text is not raw
  have hident : Text.isIdent n.toList = false := by
    unfold isWord at hn
    split at hn
    · next more hmore =>
      have hhash := (hchars '#' (by rw [hmore]; simp)).part (by decide)
      exact absurd hhash (by decide)
    · exact hn
  rw [hlist] at hident hchars ⊢
  have hbeyond : ∀ d ∈ c :: rest, Text.isIdentPart d = false → ¬d.toNat < 0x80 := by
    intro d hd hpart hascii
    rw [(hchars d hd).part hascii] at hpart
    cases hpart
  have hc := hchars c (List.mem_cons_self ..)
  cases hstart : Text.isIdentStart c with
  | false =>
    refine stuck_char (fun hascii => ?_) hc.notBlank hstart
    -- what goes on with an identifier and is no digit can begin one
    have hpart := hc.part hascii
    rw [Text.isIdentPart, if_pos hascii, Char.isAlphanum, hdigit, Bool.or_false] at hpart
    rw [Text.isIdentStart, if_pos hascii, hpart] at hstart
    cases hstart
  | true =>
    rw [Text.isIdent, hstart, Bool.true_and] at hident
    -- the text is read up to the first character that goes on with no identifier
    have hsplit : rest = rest.takeWhile Text.isIdentPart ++ rest.dropWhile Text.isIdentPart :=
      List.takeWhile_append_dropWhile.symm
    cases hdrop : rest.dropWhile Text.isIdentPart with
    | nil =>
      rw [hdrop, List.append_nil] at hsplit
      rw [hsplit, List.all_takeWhile] at hident
      cases hident
    | cons d more =>
      rw [hdrop] at hsplit
      have hd : Text.isIdentPart d = false := by
        have h := List.head?_dropWhile_not Text.isIdentPart rest
        rw [hdrop] at h
        simpa using h
      have hmem : d ∈ c :: rest := by
        rw [hsplit]
        simp
      have hbeyond := hbeyond d hmem hd
      have hends : EndsWord (d :: (more ++ s)) := by
        intro e he
        obtain rfl := Option.some.inj he
        exact ⟨hd, ne_of_ascii hbeyond (by decide), ne_of_ascii hbeyond (by decide), ne_of_ascii hbeyond (by decide)⟩
      have hplain : Text.isIdent (c :: rest.takeWhile Text.isIdentPart) = true := by
        rw [Text.isIdent, hstart, List.all_takeWhile]
        rfl
      have hstuck : Stuck ⟨around, .word (String.ofList (c :: rest.takeWhile Text.isIdentPart)) :: here,
          d :: (more ++ s)⟩ := by
        refine stuck_char hbeyond (hchars d hmem).notBlank ?_
        rw [← Bool.not_eq_true]
        intro h
        rw [Text.isIdentPart_of_isIdentStart h] at hd
        cases hd
      have hsteps : Steps ⟨around, here, c :: rest ++ s⟩ ⟨around,
          .word (String.ofList (c :: rest.takeWhile Text.isIdentPart)) :: here, d :: (more ++ s)⟩ := by
        have heq : c :: rest ++ s = c :: rest.takeWhile Text.isIdentPart ++ d :: (more ++ s) :=
          calc
            c :: rest ++ s = c :: (rest.takeWhile Text.isIdentPart ++ d :: more) ++ s := by rw [← hsplit]
            _ = c :: rest.takeWhile Text.isIdentPart ++ d :: (more ++ s) := by simp
        rw [heq]
        exact Steps.plain hplain hends
      exact hsteps.stuck hstuck

end RouteContracts.Source.Lexer
