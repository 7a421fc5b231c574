import RouteContracts.Proofs.Source.Words
import RouteContracts.Proofs.Text.Characters

/-! # Reading words
Where a character begins an identifier, a text goes on with that identifier and with nothing else.

* `Source.Lexer.EndsWord`: a rest at which a word ends.
* `Source.Lexer.leaf?_plain`, `Source.Lexer.leaf?_raw`: **an identifier is read as a word**, raw or not. -/

namespace RouteContracts

/-! ## Characters -/

namespace Text

/-- The code points of some ranges, one by one. -/
def Ranges.codePoints (rs : Ranges) : List Nat := rs.flatMap fun r => List.range' r.1 (r.2 + 1 - r.1)

theorem Ranges.mem_codePoints {rs : Ranges} {n : Nat} (h : rs.has n = true) : n ∈ rs.codePoints := by
  obtain ⟨r, hr, hn⟩ := List.any_eq_true.mp h
  simp only [Bool.and_eq_true, decide_eq_true_eq] at hn
  refine List.mem_flatMap.mpr ⟨r, hr, ?_⟩
  rw [List.mem_range'_1]
  omega

end Text

namespace Source.Lexer

/-- `isSpace` excludes `isIdentPart`. -/
theorem isIdentPart_of_isSpace {c : Char} (h : isSpace c = true) : Text.isIdentPart c = false := by
  have hblank : ∀ n ∈ Text.blankRanges.codePoints, Text.isIdentPart (Char.ofNat n) = false := by
    decide +kernel
  simp only [isSpace, Bool.or_eq_true, beq_iff_eq] at h
  rcases h with (h | rfl) | rfl
  · rw [← Char.ofNat_toNat c]
    exact hblank c.toNat (Text.Ranges.mem_codePoints h)
  · decide +kernel
  · decide +kernel

theorem isSpace_of_isIdentPart {c : Char} (h : Text.isIdentPart c = true) : isSpace c = false := by
  cases hs : isSpace c with
  | false => rfl
  | true => rw [isIdentPart_of_isSpace hs] at h; cases h

/-- `isIdentPart` excludes `isMark`. -/
theorem isMark_of_isIdentPart {c : Char} (h : Text.isIdentPart c = true) : isMark c = false := by
  have hmarks : ∀ d ∈ "~!@#$%^&*-=+|;:,<.>/?'".toList, Text.isIdentPart d = false :=
    Text.forall_mem_of_all (by decide)
  cases hm : isMark c with
  | false => rfl
  | true =>
    rw [isMark, List.contains_iff_mem] at hm
    rw [hmarks c hm] at h
    cases h

theorem ne_of_isIdentPart {c d : Char} (h : Text.isIdentPart c = true) (hd : Text.isIdentPart d = false) :
    c ≠ d := by
  rintro rfl
  rw [h] at hd
  cases hd

theorem isDigit_of_isIdentStart {c : Char} (h : Text.isIdentStart c = true) : c.isDigit = false := by
  cases hd : c.isDigit with
  | false => rfl
  | true =>
    have hall : ∀ n ∈ List.range' 48 10, Text.isIdentStart (Char.ofNat n) = false := by decide
    have hmem : c.toNat ∈ List.range' 48 10 := by
      rw [List.mem_range'_1]
      have hbounds := Text.isDigit_toNat hd
      omega
    have hfalse := hall c.toNat hmem
    rw [Char.ofNat_toNat, h] at hfalse
    cases hfalse

/-! ## Words -/

/-- A rest at which no literal in quotes goes on. -/
def Calm (s : List Char) : Prop := ∀ c ∈ s.head?, c ≠ '"' ∧ c ≠ '\'' ∧ c ≠ '#'

/-- A rest at which a word ends: it goes on with no `isIdentPart`, and is `Calm`. -/
def EndsWord (s : List Char) : Prop :=
  ∀ c ∈ s.head?, Text.isIdentPart c = false ∧ c ≠ '"' ∧ c ≠ '\'' ∧ c ≠ '#'

theorem calm_of_isIdentPart {c : Char} (h : Text.isIdentPart c = true) (s : List Char) : Calm (c :: s) := by
  intro d hd
  obtain rfl := Option.some.inj hd
  exact ⟨ne_of_isIdentPart h (by decide), ne_of_isIdentPart h (by decide), ne_of_isIdentPart h (by decide)⟩

theorem EndsWord.isIdentPart {s : List Char} (h : EndsWord s) : ∀ c ∈ s.head?, Text.isIdentPart c = false :=
  fun c hc => (h c hc).1

theorem EndsWord.calm {s : List Char} (h : EndsWord s) : Calm s := fun c hc => (h c hc).2

/-- A word ends at a character that `isSpace`. -/
theorem endsWord_space {c : Char} (hc : isSpace c = true) (s : List Char) : EndsWord (c :: s) := by
  intro d hd
  obtain rfl := Option.some.inj hd
  refine ⟨isIdentPart_of_isSpace hc, ?_, ?_, ?_⟩ <;> rintro rfl <;> exact absurd hc (by decide)

/-- A word ends at a mark between names and at a bracket that closes. -/
theorem endsWord_mark {c : Char} (hc : c ∈ [':', ';', ',', '<', '>', ')', ']']) (s : List Char) :
    EndsWord (c :: s) := by
  have hall : ∀ c ∈ [':', ';', ',', '<', '>', ')', ']'],
      Text.isIdentPart c = false ∧ c ≠ '"' ∧ c ≠ '\'' ∧ c ≠ '#' :=
    Text.forall_mem_of_all (by decide +kernel)
  intro d hd
  obtain rfl := Option.some.inj hd
  exact hall c hc

/-- `w ++ s` is `Calm` for characters `w` of identifiers and `s` that is `Calm`. -/
theorem calm_append {w s : List Char} (hw : w.all Text.isIdentPart = true) (hs : Calm s) : Calm (w ++ s) := by
  cases w with
  | nil => exact hs
  | cons c w =>
    rw [List.all_cons, Bool.and_eq_true] at hw
    exact calm_of_isIdentPart hw.1 (w ++ s)

theorem calm_behind_append {w s : List Char} (hw : w.all Text.isIdentPart = true) (hs : EndsWord s) :
    ∀ t, w ++ s = 'r' :: t → Calm t := by
  intro t ht
  cases w with
  | nil =>
    rw [List.nil_append] at ht
    have hr := hs.isIdentPart 'r' (by rw [ht]; rfl)
    exact absurd hr (by decide)
  | cons c w =>
    rw [List.all_cons, Bool.and_eq_true] at hw
    rw [← (List.cons.inj ht).2]
    exact calm_append hw.2 hs.calm

theorem rawRest_of_calm {q : Literal.Quoting} {s : List Char} (h : Calm s) : Literal.rawRest q s = none := by
  cases s with
  | nil => rfl
  | cons c s =>
    obtain ⟨hquote, -, hhash⟩ := h c rfl
    rw [Literal.rawRest, List.dropWhile_cons_of_neg (by simpa using hhash)]
    split
    · next heq => exact absurd (List.cons.inj heq).1 hquote
    · rfl

/-- `Literal.quoted` gives none at a word. -/
theorem quoted_of_word {c : Char} {s : List Char} (hc : Text.isIdentStart c = true) (hs : Calm s)
    (htail : ∀ t, s = 'r' :: t → Calm t) : Literal.quoted (c :: s) = none := by
  have hc := Text.isIdentPart_of_isIdentStart hc
  have hquote : ∀ t, s ≠ '"' :: t := by rintro t rfl; exact (hs '"' rfl).1 rfl
  have happ : ∀ t, s ≠ '\'' :: t := by rintro t rfl; exact (hs '\'' rfl).2.1 rfl
  have hraw : ∀ q t, s = 'r' :: t → Literal.rawRest q t = none := by
    exact fun q t h => rawRest_of_calm (htail t h)
  -- every form of a literal in quotes needs a mark that does not follow here
  unfold Literal.quoted
  split
  · next heq => exact absurd (List.cons.inj heq).1 (ne_of_isIdentPart hc (by decide))
  · next heq => obtain ⟨-, rfl⟩ := List.cons.inj heq; rw [rawRest_of_calm hs]; rfl
  · next heq => exact absurd (List.cons.inj heq).2 (hquote _)
  · next heq => rw [hraw _ _ (List.cons.inj heq).2]; rfl
  · next heq => exact absurd (List.cons.inj heq).2 (hquote _)
  · next heq => rw [hraw _ _ (List.cons.inj heq).2]; rfl
  · next heq => exact absurd (List.cons.inj heq).2 (happ _)
  · next heq => exact absurd (List.cons.inj heq).1 (ne_of_isIdentPart hc (by decide))
  · rfl

/-- `Literal.decimal` and `Literal.integer` give none where no digit begins. -/
theorem number_of_nondigit {c : Char} (s : List Char) (hdigit : c.isDigit = false) :
    (Literal.decimal (c :: s)).or (Literal.integer (c :: s)) = none := by
  have hzero : c ≠ '0' := by rintro rfl; cases hdigit
  have hdecimal : Literal.decimalDigits (c :: s) = none := by
    rw [Literal.decimalDigits, hdigit]
    rfl
  have hbase : Literal.baseDigits 10 true (c :: s) = none := by
    rw [Literal.baseDigits, hdigit]
    simp
  have hinteger : Literal.integerDigits (c :: s) = none := by
    unfold Literal.integerDigits
    split
    case h_4 => exact hbase
    all_goals
      next heq => exact absurd (List.cons.inj heq).1 hzero
  rw [Literal.decimal, Literal.integer, hdecimal, hinteger]
  rfl

theorem mark?_of_word {c : Char} (s : List Char) (hc : Text.isIdentPart c = true) : mark? (c :: s) = none := by
  have hslash : c ≠ '/' := ne_of_isIdentPart hc (by decide)
  have hfront : markAtFront (c :: s) = false := by
    unfold markAtFront
    split
    · rfl
    · rfl
    · next heq => rw [← (List.cons.inj heq).1]; exact isMark_of_isIdentPart hc
    · rfl
  unfold mark?
  rw [hfront]
  rfl

/-- None of `quotedFronts` stands at a word. -/
theorem quotedFronts_of_word {c : Char} {s : List Char} (hs : Calm s) (htail : ∀ t, s = 'r' :: t → Calm t) :
    quotedFronts.any (Literal.startsWith · (c :: s)) = false := by
  cases s with
  | nil => simp [quotedFronts, Literal.startsWith]
  | cons d s =>
    obtain ⟨hquote, happ, hhash⟩ := hs d rfl
    by_cases hd : d = 'r'
    · have hcalm := htail s (by rw [hd])
      cases s with
      | nil => simp [quotedFronts, Literal.startsWith, hquote.symm, happ.symm]
      | cons e s =>
        obtain ⟨hquote', -, hhash'⟩ := hcalm e rfl
        simp [quotedFronts, Literal.startsWith, hquote.symm, happ.symm, hhash.symm, hquote'.symm, hhash'.symm]
    · simp [quotedFronts, Literal.startsWith, hquote.symm, happ.symm, hhash.symm, Ne.symm hd]

theorem takeWhile_append {w s : List Char} (hw : w.all Text.isIdentPart = true) (hs : EndsWord s) :
    (w ++ s).takeWhile Text.isIdentPart = w ∧ (w ++ s).dropWhile Text.isIdentPart = s := by
  have hs := hs.isIdentPart
  induction w with
  | nil =>
    cases s with
    | nil => exact ⟨rfl, rfl⟩
    | cons c s =>
      have hc := hs c rfl
      rw [List.nil_append]
      exact ⟨List.takeWhile_cons_of_neg (by simp [hc]), List.dropWhile_cons_of_neg (by simp [hc])⟩
  | cons c w ih =>
    rw [List.all_cons, Bool.and_eq_true] at hw
    obtain ⟨htake, hdrop⟩ := ih hw.2
    rw [List.cons_append, List.takeWhile_cons_of_pos hw.1, List.dropWhile_cons_of_pos hw.1, htake, hdrop]
    exact ⟨rfl, rfl⟩

theorem plainWord?_append {w s : List Char} (hw : Text.isIdent w = true) (hs : EndsWord s) :
    plainWord? (w ++ s) = some (w, s) := by
  cases w with
  | nil => cases hw
  | cons c w =>
    rw [Text.isIdent, Bool.and_eq_true] at hw
    obtain ⟨htake, hdrop⟩ := takeWhile_append hw.2 hs
    rw [List.cons_append, plainWord?, if_pos hw.1, htake, hdrop]

/-- **`leaf?` reads an identifier as a word.** -/
theorem leaf?_plain {w s : List Char} (hw : Text.isIdent w = true) (hs : EndsWord s) :
    leaf? (w ++ s) = some (.word (String.ofList w), s) := by
  have hread := plainWord?_append hw hs
  cases w with
  | nil => cases hw
  | cons c w =>
    rw [Text.isIdent, Bool.and_eq_true] at hw
    have hcalm : Calm (w ++ s) := calm_append hw.2 hs.calm
    have htail := calm_behind_append hw.2 hs
    have hword : word? (c :: (w ++ s)) = some (c :: w, s) := by
      unfold word?
      split
      · next heq => exact absurd rfl (hcalm '#' (by rw [(List.cons.inj heq).2]; rfl)).2.2
      · exact hread
    rw [List.cons_append, leaf?, Literal.scan, quoted_of_word hw.1 hcalm htail, Option.none_or,
      number_of_nondigit _ (isDigit_of_isIdentStart hw.1)]
    simp only [mark?_of_word _ (Text.isIdentPart_of_isIdentStart hw.1), quotedFronts_of_word hcalm htail, hword]
    rfl

/-- `Literal.quoted` gives none at a raw identifier: after the number sign there is no quote. -/
theorem quoted_raw {c : Char} (hc : Text.isIdentPart c = true) (s : List Char) :
    Literal.quoted ('r' :: '#' :: c :: s) = none := by
  obtain ⟨hquote, -, hhash⟩ := calm_of_isIdentPart hc [] c rfl
  have hrest : Literal.rawRest .text ('#' :: c :: s) = none := by
    rw [Literal.rawRest, List.dropWhile_cons_of_pos (by decide), List.dropWhile_cons_of_neg (by simpa using hhash)]
    split
    · next heq => exact absurd (List.cons.inj heq).1 hquote
    · rfl
  show Literal.spelled ['r'] (Literal.rawRest .text ('#' :: c :: s)) = none
  rw [hrest]
  rfl

/-- **`leaf?` reads a raw identifier as a word.** -/
theorem leaf?_raw {w s : List Char} (hw : Text.isIdent w = true)
    (hraw : neverRaw.contains (String.ofList w) = false) (hs : EndsWord s) :
    leaf? ('r' :: '#' :: (w ++ s)) = some (.word (String.ofList ('r' :: '#' :: w)), s) := by
  have hread := plainWord?_append hw hs
  cases w with
  | nil => cases hw
  | cons c w =>
    rw [Text.isIdent, Bool.and_eq_true] at hw
    have hc := Text.isIdentPart_of_isIdentStart hw.1
    obtain ⟨hquote, -, hhash⟩ := calm_of_isIdentPart hc [] c rfl
    have hfronts : quotedFronts.any (Literal.startsWith · ('r' :: '#' :: (c :: w ++ s))) = false := by
      simp [quotedFronts, Literal.startsWith, hquote.symm, hhash.symm]
    have hword : word? ('r' :: '#' :: (c :: w ++ s)) = some ('r' :: '#' :: c :: w, s) := by
      show (plainWord? (c :: w ++ s)).bind _ = _
      rw [hread, Option.bind_some]
      dsimp only
      rw [hraw]
      rfl
    have hquoted : Literal.quoted ('r' :: '#' :: (c :: w ++ s)) = none := quoted_raw hc (w ++ s)
    rw [leaf?, Literal.scan, hquoted, Option.none_or, number_of_nondigit _ (by decide)]
    simp only [mark?_of_word (c := 'r') _ (by decide), hfronts, hword]
    rfl

/-! ## Text that begins no comment -/

theorem skipped?_cons {c : Char} (hslash : c ≠ '/') (s : List Char) :
    skipped? (c :: s) = if isSpace c then some s else none := by
  unfold skipped?
  split
  · next heq => exact absurd (List.cons.inj heq).1 hslash
  · next heq => exact absurd (List.cons.inj heq).1 hslash
  · next heq =>
    obtain ⟨rfl, rfl⟩ := List.cons.inj heq
    rfl
  · next heq => cases heq

theorem documented?_cons {c : Char} (hslash : c ≠ '/') (s : List Char) : documented? (c :: s) = none := by
  unfold documented?
  split
  case h_8 => rfl
  all_goals
    next heq => exact absurd (List.cons.inj heq).1 hslash

theorem opens?_of_isIdentPart {c : Char} (h : Text.isIdentPart c = true) :
    opens? c = none ∧ closes? c = none := by
  unfold opens? closes?
  constructor
  · split
    case h_4 => rfl
    all_goals exact absurd h (by decide)
  · split
    case h_4 => rfl
    all_goals exact absurd h (by decide)

end Source.Lexer

end RouteContracts
