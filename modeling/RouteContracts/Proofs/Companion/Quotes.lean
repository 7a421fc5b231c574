import Mathlib.Data.List.Basic
import RouteContracts.Companion.File
import RouteContracts.Source.Literal

/-! # Quotes in declarations
The text between the first quotes of a declaration is taken as it is spelled, but for escaped quotes. So it is the
value of a literal only when nothing else is escaped in it.

* `Source.Literal.Spells`: **the body of a literal and what it denotes**, piece by piece.
  `Source.Literal.spells_of_quotedBody`: what is read as a literal is spelled so.
* `Companion.OnlyQuotesEscaped`: the bodies that are taken as they are meant.
* `Companion.plainQuotes_of_spells`: **the other bodies are longer than their value**, as they are taken.
* `Companion.firstQuoted_of_spells`, `Companion.onlyQuotesEscaped_of_firstQuoted`: **what stands between the first
  quotes is a literal's value exactly then.** -/

namespace RouteContracts

/-! ## Bodies of literals -/

namespace Source.Literal

/-- `c ≠ '"'` and `c ≠ '\\'`. -/
def IsQuiet (c : Char) : Prop := c ≠ '"' ∧ c ≠ '\\'

/-- **What stands between the quotes of a text literal, and the text that it denotes**, one constructor for each kind of
piece. -/
inductive Spells : List Char → List Char → Prop
  | nil : Spells [] []
  /-- A character that denotes itself. -/
  | char {c : Char} {body value : List Char} (hc : IsQuiet c) (hreturn : c ≠ '\r') (rest : Spells body value) :
      Spells (c :: body) (c :: value)
  /-- The end of a line, with a carriage return. -/
  | lineEnd {body value : List Char} (rest : Spells body value) : Spells ('\r' :: '\n' :: body) ('\n' :: value)
  /-- An escaped quote. -/
  | quote {body value : List Char} (rest : Spells body value) : Spells ('\\' :: '"' :: body) ('"' :: value)
  /-- Another escape. -/
  | escape {c d : Char} {tail body value : List Char} (hd : d ≠ '"') (hline : d ≠ '\n')
      (htail : ∀ x ∈ tail, IsQuiet x) (rest : Spells body value) :
      Spells ('\\' :: d :: (tail ++ body)) (c :: value)
  /-- An escaped end of a line, with blanks after it, denotes nothing. -/
  | continued {d : Char} {tail body value : List Char} (hd : d = '\n' ∨ d = '\r') (htail : ∀ x ∈ tail, IsQuiet x)
      (rest : Spells body value) : Spells ('\\' :: d :: (tail ++ body)) value

theorem isQuiet_of_hexValue? {c : Char} {n : Nat} (h : Json.hexValue? c = some n) : IsQuiet c := by
  constructor
  · rintro rfl
    cases h
  · rintro rfl
    cases h

/-- The digits of `\u{..}` that `braced` reads have neither quotes nor backslashes. -/
theorem isQuiet_of_braced {s chars rest : List Char} {value count n : Nat}
    (h : braced value count s = some (n, chars, rest)) : s = chars ++ rest ∧ ∀ x ∈ chars, IsQuiet x := by
  induction s generalizing value count n chars with
  | nil => cases h
  | cons c s ih =>
    rw [braced] at h
    split at h
    · next hline =>
      obtain ⟨r, hr, heq⟩ := Option.map_eq_some_iff.mp h
      obtain ⟨rfl, rfl, rfl⟩ : r.1 = n ∧ c :: r.2.1 = chars ∧ r.2.2 = rest := by simpa using heq
      obtain ⟨hsplit, hquiet⟩ := ih hr
      refine ⟨by rw [List.cons_append, ← hsplit], List.forall_mem_cons.mpr ⟨?_, hquiet⟩⟩
      rw [hline.1]
      exact ⟨by decide, by decide⟩
    split at h
    · next hbrace =>
      obtain ⟨rfl, rfl, rfl⟩ : value = n ∧ [c] = chars ∧ s = rest := by simpa using h
      refine ⟨rfl, List.forall_mem_singleton.mpr ?_⟩
      rw [hbrace.1]
      exact ⟨by decide, by decide⟩
    split at h
    · next d hd =>
      split at h
      · cases h
      · obtain ⟨r, hr, heq⟩ := Option.map_eq_some_iff.mp h
        obtain ⟨rfl, rfl, rfl⟩ : r.1 = n ∧ c :: r.2.1 = chars ∧ r.2.2 = rest := by simpa using heq
        obtain ⟨hsplit, hquiet⟩ := ih hr
        exact ⟨by rw [List.cons_append, ← hsplit],
          List.forall_mem_cons.mpr ⟨isQuiet_of_hexValue? hd, hquiet⟩⟩
    · cases h

/-- What `scan.prepend chars` has read begins with `chars`. -/
theorem exists_of_prepend {chars read rest : List Char} {scan : Scan} (h : scan.prepend chars = some (read, rest)) :
    ∃ more, scan = some (more, rest) ∧ read = chars ++ more := by
  obtain ⟨⟨more, left⟩, hscan, heq⟩ := Option.map_eq_some_iff.mp h
  obtain ⟨rfl, rfl⟩ := Prod.mk.inj heq
  exact ⟨more, hscan, rfl⟩

/-- The blanks that `continuation` passes over after an escaped line end are `IsQuiet`. -/
theorem isQuiet_of_continuation {s blanks rest : List Char} (h : continuation s = some (blanks, rest)) :
    s = blanks ++ rest ∧ ∀ x ∈ blanks, IsQuiet x := by
  fun_induction continuation s generalizing blanks with
  | case1 s ih | case2 s ih | case3 s ih | case4 s ih =>
    obtain ⟨more, hmore, rfl⟩ := exists_of_prepend h
    obtain ⟨rfl, hquiet⟩ := ih hmore
    refine ⟨rfl, List.forall_mem_append.mpr ⟨?_, hquiet⟩⟩
    simp [IsQuiet]
  | case5 | case6 => cases h
  | case7 s =>
    obtain ⟨rfl, rfl⟩ := Prod.mk.inj (Option.some.inj h)
    exact ⟨rfl, List.forall_mem_nil _⟩

/-- **`escape .text` is that of a quote**, or the characters it reads have neither quotes nor backslashes after the
first. -/
theorem cases_of_escape {s chars rest : List Char} {c : Char} (h : escape .text s = some (c, chars, rest)) :
    s = chars ++ rest ∧ (chars = ['"'] ∧ c = '"' ∨
      ∃ d tail, chars = d :: tail ∧ d ≠ '"' ∧ d ≠ '\n' ∧ ∀ x ∈ tail, IsQuiet x) := by
  unfold escape at h
  split at h
  · next a b rest =>
    simp only [Option.bind_eq_bind, Option.bind_eq_some_iff] at h
    obtain ⟨m, hm, n, hn, h⟩ := h
    split at h
    · simp only [Option.some.injEq, Prod.mk.injEq] at h
      obtain ⟨rfl, rfl, rfl⟩ := h
      refine ⟨rfl, .inr ⟨'x', [a, b], rfl, by decide, by decide, ?_⟩⟩
      simp [isQuiet_of_hexValue? hm, isQuiet_of_hexValue? hn]
    · cases h
  · next rest =>
    simp only [reduceCtorEq, if_false, Option.bind_eq_bind, Option.bind_eq_some_iff] at h
    obtain ⟨⟨n, digits, left⟩, hbraced, h⟩ := h
    split at h
    · simp only [Option.some.injEq, Prod.mk.injEq] at h
      obtain ⟨rfl, rfl, rfl⟩ := h
      obtain ⟨rfl, hquiet⟩ := isQuiet_of_braced hbraced
      refine ⟨rfl, .inr ⟨'u', '\x7b' :: digits, rfl, by decide, by decide, ?_⟩⟩
      exact List.forall_mem_cons.mpr ⟨⟨by decide, by decide⟩, hquiet⟩
    · cases h
  -- the escapes of one character
  case h_8 =>
    obtain ⟨rfl, rfl, rfl⟩ : '"' = c ∧ ['"'] = chars ∧ _ = rest := by simpa using h
    exact ⟨rfl, .inl ⟨rfl, rfl⟩⟩
  case h_10 => cases h
  all_goals
    simp only [reduceCtorEq, if_false, Option.some.injEq, Prod.mk.injEq] at h
    obtain ⟨rfl, rfl, rfl⟩ := h
    exact ⟨rfl, .inr ⟨_, [], rfl, by decide, by decide, List.forall_mem_nil _⟩⟩

/-- **What `quotedBody .text` reads is spelled so**: a body with `Spells body value`, and its closing quote. -/
theorem spells_of_quotedBody {fuel : Nat} {s value read rest : List Char}
    (h : quotedBody .text fuel s = some (value, read, rest)) :
    ∃ body, read = body ++ ['"'] ∧ s = body ++ '"' :: rest ∧ Spells body value := by
  induction fuel generalizing s value read with
  | zero => cases h
  | succ fuel ih =>
    unfold quotedBody at h
    split at h
    · cases h
    -- the closing quote
    · simp only [Option.some.injEq, Prod.mk.injEq] at h
      obtain ⟨rfl, rfl, rfl⟩ := h
      exact ⟨[], rfl, rfl, .nil⟩
    -- the end of a line
    · simp only [Option.bind_eq_bind, Option.bind_eq_some_iff, Option.some.injEq, Prod.mk.injEq] at h
      obtain ⟨⟨v, t, left⟩, hrest, rfl, rfl, rfl⟩ := h
      obtain ⟨body, rfl, rfl, hbody⟩ := ih hrest
      exact ⟨_, rfl, rfl, .lineEnd hbody⟩
    · cases h
    -- an escaped end of a line
    · simp only [Option.bind_eq_bind, Option.bind_eq_some_iff, Option.some.injEq, Prod.mk.injEq] at h
      obtain ⟨⟨blanks, left⟩, hblanks, ⟨v, t, left'⟩, hrest, rfl, rfl, rfl⟩ := h
      obtain ⟨rfl, hquiet⟩ := isQuiet_of_continuation hblanks
      obtain ⟨body, rfl, rfl, hbody⟩ := ih hrest
      exact ⟨_, by simp, by simp, .continued (.inl rfl) hquiet hbody⟩
    -- an escaped end of a line, spelled with a carriage return
    · simp only [Option.bind_eq_bind, Option.bind_eq_some_iff, Option.some.injEq, Prod.mk.injEq] at h
      obtain ⟨⟨blanks, left⟩, hblanks, ⟨v, t, left'⟩, hrest, rfl, rfl, rfl⟩ := h
      obtain ⟨rfl, hquiet⟩ := isQuiet_of_continuation hblanks
      obtain ⟨body, rfl, rfl, hbody⟩ := ih hrest
      have htail : ∀ x ∈ '\n' :: blanks, IsQuiet x := List.forall_mem_cons.mpr ⟨⟨by decide, by decide⟩, hquiet⟩
      exact ⟨_, by simp, by simp, .continued (.inr rfl) htail hbody⟩
    -- another escape
    · simp only [Option.bind_eq_bind, Option.bind_eq_some_iff, Option.some.injEq, Prod.mk.injEq] at h
      obtain ⟨⟨c, chars, left⟩, hescape, ⟨v, t, left'⟩, hrest, rfl, rfl, rfl⟩ := h
      obtain ⟨rfl, hchars⟩ := cases_of_escape hescape
      obtain ⟨body, rfl, rfl, hbody⟩ := ih hrest
      rcases hchars with ⟨rfl, rfl⟩ | ⟨d, tail, rfl, hd, hline, htail⟩
      · exact ⟨_, rfl, rfl, .quote hbody⟩
      · exact ⟨_, by simp, by simp, .escape hd hline htail hbody⟩
    -- a character that stands for itself
    · next c more hquote _ hreturn _ _ hslash =>
      simp only [reduceCtorEq, false_and, or_self, if_false, Option.bind_eq_bind, Option.bind_eq_some_iff,
        Option.some.injEq, Prod.mk.injEq] at h
      obtain ⟨⟨v, t, left⟩, hrest, rfl, rfl, rfl⟩ := h
      obtain ⟨body, rfl, rfl, hbody⟩ := ih hrest
      exact ⟨_, rfl, rfl, .char ⟨hquote, hslash⟩ hreturn hbody⟩

end Source.Literal

/-! ## What stands between quotes -/

namespace Companion

open Source.Literal (Spells IsQuiet)

/-- **The bodies that are taken as they are meant**: every backslash stands before a quote, and there is no carriage
return. -/
def OnlyQuotesEscaped : List Char → Bool
  | [] => true
  | '\\' :: '"' :: rest => OnlyQuotesEscaped rest
  | c :: rest => c ≠ '\\' && c ≠ '\r' && OnlyQuotesEscaped rest

/-- The number of quotes in `s`. -/
def quotes (s : List Char) : Nat := s.count '"'

variable {s cs body value more front back : List Char}

theorem untilQuote_cons {c : Char} (hc : IsQuiet c) (s : List Char) :
    untilQuote (c :: s) = (untilQuote s).map (c :: ·) := by
  obtain ⟨hquote, hslash⟩ := hc
  rw [untilQuote] <;> simp_all

theorem untilQuote_append (h : ∀ x ∈ cs, IsQuiet x) (s : List Char) :
    untilQuote (cs ++ s) = (untilQuote s).map (cs ++ ·) := by
  induction cs with
  | nil => simp
  | cons c cs ih =>
    obtain ⟨hc, hcs⟩ := List.forall_mem_cons.mp h
    rw [List.cons_append, untilQuote_cons hc, ih hcs, Option.map_map]
    rfl

theorem untilQuote_escape {d : Char} (hd : d ≠ '\n') (s : List Char) :
    untilQuote ('\\' :: d :: s) = (untilQuote s).map fun r => '\\' :: d :: r := by
  rw [untilQuote, if_neg hd]

theorem plainQuotes_cons {c : Char} (hc : c ≠ '\\') (s : List Char) : plainQuotes (c :: s) = c :: plainQuotes s := by
  rw [plainQuotes]
  simp_all

theorem plainQuotes_append (h : ∀ x ∈ cs, IsQuiet x) (s : List Char) :
    plainQuotes (cs ++ s) = cs ++ plainQuotes s := by
  induction cs with
  | nil => rfl
  | cons c cs ih =>
    obtain ⟨hc, hcs⟩ := List.forall_mem_cons.mp h
    rw [List.cons_append, plainQuotes_cons hc.2, ih hcs, List.cons_append]

/-- A body with `Spells body value` does not begin with a quote. -/
theorem ne_quote_of_spells (h : Spells body value) (rest : List Char) : body ≠ '"' :: rest := by
  rintro rfl
  cases h with
  | char hc _ _ => exact hc.1 rfl

theorem onlyQuotesEscaped_cons {c : Char} (hc : c ≠ '\\') (s : List Char) :
    OnlyQuotesEscaped (c :: s) = (c ≠ '\r' && OnlyQuotesEscaped s) := by
  rw [OnlyQuotesEscaped] <;> simp_all

theorem onlyQuotesEscaped_escape {d : Char} (hd : d ≠ '"') (s : List Char) :
    OnlyQuotesEscaped ('\\' :: d :: s) = false := by
  rw [OnlyQuotesEscaped] <;> simp_all

/-- `untilQuote` passes over an escape with `d` after its backslash, unless `d` is the end of a line. -/
theorem untilQuote_of_escape {d : Char} (hd : d ≠ '"') (hline : d ≠ '\n') (hcs : ∀ x ∈ cs, IsQuiet x)
    (hbody : untilQuote (body ++ '"' :: more) = some body ∨
      untilQuote (body ++ '"' :: more) = none ∧ OnlyQuotesEscaped body = false) :
    untilQuote ('\\' :: d :: (cs ++ body) ++ '"' :: more) = some ('\\' :: d :: (cs ++ body)) ∨
      untilQuote ('\\' :: d :: (cs ++ body) ++ '"' :: more) = none ∧
        OnlyQuotesEscaped ('\\' :: d :: (cs ++ body)) = false := by
  rw [List.cons_append, List.cons_append, List.append_assoc, untilQuote_escape hline, untilQuote_append hcs,
    onlyQuotesEscaped_escape hd]
  rcases hbody with hfound | ⟨hnone, -⟩
  · simp [hfound]
  · simp [hnone]

/-- **`untilQuote` finds a body up to its closing quote**, unless an escaped end of a line is in it. -/
theorem untilQuote_of_spells (h : Spells body value) (more : List Char) :
    untilQuote (body ++ '"' :: more) = some body ∨
      untilQuote (body ++ '"' :: more) = none ∧ OnlyQuotesEscaped body = false := by
  induction h with
  | nil => exact .inl rfl
  | @char c body _ hc hreturn _ ih =>
    rw [List.cons_append, untilQuote_cons hc, onlyQuotesEscaped_cons hc.2]
    rcases ih with hfound | ⟨hnone, hother⟩
    · simp [hfound]
    · simp [hnone, hother]
  | @lineEnd body _ _ ih =>
    have hquiet : ∀ x ∈ ['\r', '\n'], IsQuiet x := by simp [IsQuiet]
    have hother : OnlyQuotesEscaped ('\r' :: '\n' :: body) = false := rfl
    have hcons := untilQuote_append hquiet (body ++ '"' :: more)
    rcases ih with hfound | ⟨hnone, -⟩
    · exact .inl (by simpa [hfound] using hcons)
    · exact .inr ⟨by simpa [hnone] using hcons, hother⟩
  | @quote body _ _ ih =>
    rw [List.cons_append, List.cons_append, untilQuote_escape (by decide), OnlyQuotesEscaped]
    rcases ih with hfound | ⟨hnone, hother⟩
    · simp [hfound]
    · simp [hnone, hother]
  | escape hd hline htail _ ih => exact untilQuote_of_escape hd hline htail ih
  | continued hd htail _ ih =>
    rcases hd with rfl | rfl
    -- a backslash at the end of a line ends the search
    · exact .inr ⟨by simp [untilQuote], onlyQuotesEscaped_escape (by decide) _⟩
    · exact untilQuote_of_escape (by decide) (by decide) htail ih

theorem plainQuotes_slash (h : ∀ rest, s ≠ '"' :: rest) : plainQuotes ('\\' :: s) = '\\' :: plainQuotes s := by
  rw [plainQuotes]
  exact fun rest _ hs => h rest hs

/-- `plainQuotes` keeps other escapes than those of quotes as they are spelled. -/
theorem plainQuotes_escape {d : Char} (hd : d ≠ '"') (hs : ∀ x ∈ cs, IsQuiet x) (hbody : Spells body value) :
    plainQuotes ('\\' :: d :: (cs ++ body)) = '\\' :: d :: (cs ++ plainQuotes body) := by
  have hfront : ∀ rest, cs ++ body ≠ '"' :: rest := by
    intro rest
    cases cs with
    | nil => exact ne_quote_of_spells hbody rest
    | cons c cs =>
      rintro heq
      obtain ⟨rfl, -⟩ := List.cons.inj heq
      exact (hs _ List.mem_cons_self).1 rfl
  rw [plainQuotes_slash fun rest heq => hd (List.cons.inj heq).1]
  by_cases hslash : d = '\\'
  · rw [hslash, plainQuotes_slash hfront, plainQuotes_append hs]
  · rw [plainQuotes_cons hslash, plainQuotes_append hs]

/-- An escape that `plainQuotes` keeps is longer than what it means, which is at most one character. -/
theorem length_plainQuotes_escape {d : Char} {meant : List Char} (hd : d ≠ '"') (hs : ∀ x ∈ cs, IsQuiet x)
    (hbody : Spells body value) (hmeant : meant.length ≤ value.length + 1)
    (ih : OnlyQuotesEscaped body = true ∧ plainQuotes body = value ∨
      OnlyQuotesEscaped body = false ∧ value.length < (plainQuotes body).length) :
    OnlyQuotesEscaped ('\\' :: d :: (cs ++ body)) = false ∧
      meant.length < (plainQuotes ('\\' :: d :: (cs ++ body))).length := by
  rw [plainQuotes_escape hd hs hbody]
  refine ⟨onlyQuotesEscaped_escape hd _, ?_⟩
  simp only [List.length_cons, List.length_append]
  rcases ih with ⟨-, rfl⟩ | ⟨-, hlength⟩ <;> omega

/-- **`plainQuotes body` is the value or longer**: it is `value` exactly where `OnlyQuotesEscaped body`. -/
theorem plainQuotes_of_spells (h : Spells body value) :
    OnlyQuotesEscaped body = true ∧ plainQuotes body = value ∨
      OnlyQuotesEscaped body = false ∧ value.length < (plainQuotes body).length := by
  induction h with
  | nil => exact .inl ⟨rfl, rfl⟩
  | @char c body value hc hreturn _ ih =>
    rw [onlyQuotesEscaped_cons hc.2, plainQuotes_cons hc.2]
    rcases ih with ⟨honly, rfl⟩ | ⟨hother, hlength⟩
    · exact .inl ⟨by simp [hreturn, honly], rfl⟩
    · exact .inr ⟨by simp [hother], by simpa using hlength⟩
  | @lineEnd body value _ ih =>
    -- two characters are written for one here, so the copy is longer
    right
    rw [plainQuotes_cons (by decide), plainQuotes_cons (by decide)]
    refine ⟨rfl, ?_⟩
    simp only [List.length_cons]
    rcases ih with ⟨-, rfl⟩ | ⟨-, hlength⟩ <;> omega
  | @quote body value _ ih =>
    rw [OnlyQuotesEscaped, plainQuotes]
    rcases ih with ⟨honly, rfl⟩ | ⟨hother, hlength⟩
    · exact .inl ⟨honly, rfl⟩
    · exact .inr ⟨hother, by simpa using hlength⟩
  | escape hd _ htail hbody ih =>
    exact .inr (length_plainQuotes_escape hd htail hbody (Nat.le_refl _) ih)
  | continued hd htail hbody ih =>
    refine .inr (length_plainQuotes_escape ?_ htail hbody (Nat.le_succ _) ih)
    rcases hd with rfl | rfl <;> decide

/-! ## Counting quotes -/

theorem quotes_eq_zero (h : ∀ x ∈ cs, IsQuiet x) : quotes cs = 0 :=
  List.count_eq_zero.mpr fun hquote => (h _ hquote).1 rfl

/-- `quotes body ≤ quotes value`: each quote in a body is escaped, and denotes a quote. -/
theorem quotes_le_of_spells (h : Spells body value) : quotes body ≤ quotes value := by
  induction h with
  | nil => exact Nat.le_refl 0
  | char hc _ _ ih => simpa [quotes, List.count_cons, hc.1] using ih
  | lineEnd _ ih => simpa [quotes, List.count_cons] using ih
  | quote _ ih => simpa [quotes, List.count_cons] using ih
  | @escape c d tail body value hd _ htail _ ih =>
    have htailZero := quotes_eq_zero htail
    -- an escape writes no quote, whatever it says
    have hcount : quotes ('\\' :: d :: (tail ++ body)) = quotes tail + quotes body := by
      simp [quotes, hd]
    have hvalue : quotes value ≤ quotes (c :: value) := List.count_le_count_cons
    omega
  | @continued d tail body _ hd htail _ ih =>
    have htailZero := quotes_eq_zero htail
    have hquote : d ≠ '"' := by rcases hd with rfl | rfl <;> decide
    have hcount : quotes ('\\' :: d :: (tail ++ body)) = quotes tail + quotes body := by
      simp [quotes, hquote]
    omega

theorem quotes_plainQuotes (s : List Char) : quotes (plainQuotes s) = quotes s := by
  fun_induction plainQuotes s with
  | case1 => rfl
  | case2 s ih => simpa [quotes, List.count_cons] using ih
  | case3 c s _ ih => simpa [quotes, List.count_cons] using ih

/-- `untilQuote s` has at least one quote less than `s`, the closing one. -/
theorem quotes_of_untilQuote (h : untilQuote s = some cs) : quotes cs + 1 ≤ quotes s := by
  fun_induction untilQuote s generalizing cs with
  | case1 => cases h
  | case2 s =>
    obtain rfl := Option.some.inj h
    simp [quotes]
  | case3 => cases h
  | case4 c s _ ih =>
    obtain ⟨r, hr, rfl⟩ := Option.map_eq_some_iff.mp h
    have hless := ih hr
    simp only [quotes, List.count_cons] at hless ⊢
    omega
  | case5 => cases h
  | case6 c s _ _ _ ih =>
    obtain ⟨r, hr, rfl⟩ := Option.map_eq_some_iff.mp h
    have hless := ih hr
    simp only [quotes, List.count_cons] at hless ⊢
    omega

/-- **`firstQuoted s` has at least two quotes less than `s`**, the opening and the closing one. -/
theorem quotes_of_firstQuoted (h : firstQuoted s = some cs) : quotes cs + 2 ≤ quotes s := by
  fun_induction firstQuoted s with
  | case1 => cases h
  | case2 s ih =>
    have hcons : quotes ('"' :: s) = quotes s + 1 := by simp [quotes]
    rcases Option.or_eq_some_iff.mp h with hfound | ⟨-, hlater⟩
    · have hless := quotes_of_untilQuote hfound
      omega
    · have hless := ih hlater
      omega
  | case3 c s _ ih =>
    have hcons : quotes s ≤ quotes (c :: s) := List.count_le_count_cons
    have hless := ih h
    omega

/-! ## The first quotes -/

theorem firstQuoted_append (h : '"' ∉ front) (s : List Char) : firstQuoted (front ++ s) = firstQuoted s := by
  induction front with
  | nil => rfl
  | cons c front ih =>
    obtain ⟨hc, hfront⟩ := not_or.mp (List.mem_cons.not.mp h)
    rw [List.cons_append, firstQuoted, ih hfront]
    exact fun heq => hc heq.symm

theorem untilQuote_append_of_some (h : untilQuote s = some cs) (more : List Char) :
    untilQuote (s ++ more) = some cs := by
  fun_induction untilQuote s generalizing cs with
  | case1 => cases h
  | case2 s =>
    obtain rfl := Option.some.inj h
    rfl
  | case3 => cases h
  | case4 c s hline ih =>
    obtain ⟨r, hr, rfl⟩ := Option.map_eq_some_iff.mp h
    rw [List.cons_append, List.cons_append, untilQuote_escape hline, ih hr, Option.map_some]
  | case5 => cases h
  | case6 c s hquote hescape hend ih =>
    obtain ⟨r, hr, rfl⟩ := Option.map_eq_some_iff.mp h
    -- a backslash would begin an escape, or end the text before its quote
    have hslash : c ≠ '\\' := by
      cases s with
      | nil => exact fun hc => hend hc rfl
      | cons d s => exact fun hc => hescape d s hc rfl
    rw [List.cons_append, untilQuote_cons ⟨hquote, hslash⟩, ih hr, Option.map_some]

/-- **`plainQuotes` of what stands between the first quotes is the value of a literal when `OnlyQuotesEscaped body`**,
if there are no quotes in front of it. -/
theorem firstQuoted_of_spells (h : Spells body value) (hfront : '"' ∉ front) (honly : OnlyQuotesEscaped body = true)
    (back : List Char) : (firstQuoted (front ++ '"' :: (body ++ '"' :: back))).map plainQuotes = some value := by
  rw [firstQuoted_append hfront, firstQuoted]
  rcases untilQuote_of_spells h back with hfound | ⟨-, hother⟩
  · rw [hfound, Option.some_or, Option.map_some]
    rcases plainQuotes_of_spells h with ⟨-, hplain⟩ | ⟨hother, -⟩
    · rw [hplain]
    · cases honly.symm.trans hother
  · cases honly.symm.trans hother

/-- **It is the value only then**, if there are no quotes behind the literal either. -/
theorem onlyQuotesEscaped_of_firstQuoted (h : Spells body value) (hfront : '"' ∉ front) (hback : '"' ∉ back)
    (hvalue : (firstQuoted (front ++ '"' :: (body ++ '"' :: back))).map plainQuotes = some value) :
    OnlyQuotesEscaped body = true := by
  rw [firstQuoted_append hfront, firstQuoted] at hvalue
  rcases untilQuote_of_spells h back with hfound | ⟨hnone, -⟩
  · rw [hfound, Option.some_or, Option.map_some, Option.some.injEq] at hvalue
    rcases plainQuotes_of_spells h with ⟨honly, -⟩ | ⟨-, hlength⟩
    · exact honly
    · rw [hvalue] at hlength
      exact absurd hlength (Nat.lt_irrefl _)
  · -- what is found later has less quotes than the value
    rw [hnone, Option.none_or] at hvalue
    obtain ⟨cs, hcs, hplain⟩ := Option.map_eq_some_iff.mp hvalue
    have hless := quotes_of_firstQuoted hcs
    have hbody := quotes_le_of_spells h
    have hcount : quotes (body ++ '"' :: back) = quotes body + 1 := by
      simp [quotes, List.count_append, List.count_eq_zero.mpr hback]
    rw [← hplain, quotes_plainQuotes] at hbody
    omega

/-- **When there is a quote in front of a literal**, `firstQuoted` is what stands from there up to the next quote. -/
theorem firstQuoted_of_front {between : List Char} (hfront : '"' ∉ front) (h : untilQuote between = some cs)
    (more : List Char) : firstQuoted (front ++ '"' :: (between ++ more)) = some cs := by
  rw [firstQuoted_append hfront, firstQuoted, untilQuote_append_of_some h, Option.some_or]

/-! ## Quoted tokens -/

namespace Token

theorem doubleQuoted_cons {c : Char} (hc : IsQuiet c) (s : List Char) :
    doubleQuoted (c :: s) = (c :: (doubleQuoted s).1, (doubleQuoted s).2) := by
  obtain ⟨hquote, hslash⟩ := hc
  rw [doubleQuoted] <;> simp_all

theorem doubleQuoted_append (h : ∀ x ∈ cs, IsQuiet x) (s : List Char) :
    doubleQuoted (cs ++ s) = (cs ++ (doubleQuoted s).1, (doubleQuoted s).2) := by
  induction cs with
  | nil => rfl
  | cons c cs ih =>
    obtain ⟨hc, hcs⟩ := List.forall_mem_cons.mp h
    rw [List.cons_append, doubleQuoted_cons hc, ih hcs]
    rfl

theorem doubleQuoted_escape {d : Char} (hd : d ≠ '"') (h : ∀ x ∈ cs, IsQuiet x) (s : List Char) :
    doubleQuoted ('\\' :: d :: (cs ++ s)) = ('\\' :: d :: (cs ++ (doubleQuoted s).1), (doubleQuoted s).2) := by
  by_cases hslash : d = '\\'
  · rw [hslash, doubleQuoted, doubleQuoted_append h]
  · rw [doubleQuoted]
    · rw [doubleQuoted_cons ⟨hd, hslash⟩, doubleQuoted_append h]
    all_goals simp_all

/-- **`Token.doubleQuoted` goes up to the closing quote of a body** with `Spells body value`. -/
theorem doubleQuoted_of_spells (h : Spells body value) (more : List Char) :
    doubleQuoted (body ++ '"' :: more) = (body ++ ['"'], more) := by
  induction h with
  | nil => rfl
  | char hc _ _ ih => simp [doubleQuoted_cons hc, ih]
  | lineEnd _ ih =>
    rw [List.cons_append, List.cons_append, doubleQuoted_cons ⟨by decide, by decide⟩,
      doubleQuoted_cons ⟨by decide, by decide⟩, ih]
    rfl
  | quote _ ih => simp [doubleQuoted, ih]
  | escape hd _ htail _ ih => simp [doubleQuoted_escape hd htail, ih]
  | continued hd htail _ ih =>
    rcases hd with rfl | rfl
    · simp [doubleQuoted_escape (d := '\n') (by decide) htail, ih]
    · simp [doubleQuoted_escape (d := '\r') (by decide) htail, ih]

end Token

end Companion

end RouteContracts
