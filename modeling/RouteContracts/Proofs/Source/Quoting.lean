import Mathlib.Algebra.Group.Nat.Defs
import RouteContracts.Artifact.RuntimePath
import RouteContracts.Proofs.Text.Characters
import RouteContracts.Proofs.Text.Quoted

/-! # Quoted texts as literals
A quoted text is a literal that denotes what is quoted, whatever the text is. The comment on an endpoint is
kept as such a literal, so it can be written for every pattern that stands on one line.

* `Source.Literal.quotedBody_quotedChar`: the form of a character is read as the character.
* `Source.Literal.textValue?_quoted`: **a quoted text denotes what is quoted.**
* `Artifact.documentationLines?_of_oneLine`: **a pattern on one line has one line of comment.** -/

namespace RouteContracts

namespace Source.Literal

/-! ## Hexadecimal numbers -/

/-- `hexValue?` of the `digitChar` of `d` is `d`. -/
theorem hexValue?_digitChar {d : Nat} (h : d < 16) : Json.hexValue? d.digitChar = some d := by
  have hall : ∀ d : Fin 16, Json.hexValue? d.val.digitChar = some d.val := by decide
  exact hall ⟨d, h⟩

/-- `digitChar` is neither an underscore nor a closing brace. -/
theorem digitChar_ne {d : Nat} (h : d < 16) : d.digitChar ≠ '_' ∧ d.digitChar ≠ '\x7d' := by
  have hall : ∀ d : Fin 16, d.val.digitChar ≠ '_' ∧ d.val.digitChar ≠ '\x7d' := by decide
  exact hall ⟨d, h⟩

/-- `braced` reads one more digit in front of a number in braces. -/
theorem braced_digit {value count d : Nat} (hd : d < 16) (hcount : count < 6) (rest : List Char) :
    braced value count (d.digitChar :: rest) =
      (braced (value * 16 + d) (count + 1) rest).map fun r => (r.1, d.digitChar :: r.2.1, r.2.2) := by
  obtain ⟨hline, hbrace⟩ := digitChar_ne hd
  rw [braced, if_neg (fun h => hline h.1), if_neg (fun h => hbrace h.1), hexValue?_digitChar hd]
  exact if_neg (Nat.ne_of_lt hcount)

/-- `braced` reads `Nat.toDigits 16 n` digit by digit. -/
theorem braced_toDigits_append (n : Nat) {count : Nat} (rest : List Char)
    (hlength : count + (Nat.toDigits 16 n).length ≤ 6) :
    ∀ value, braced value count (Nat.toDigits 16 n ++ rest) =
      (braced (value * 16 ^ (Nat.toDigits 16 n).length + n) (count + (Nat.toDigits 16 n).length) rest).map
        fun r => (r.1, Nat.toDigits 16 n ++ r.2.1, r.2.2) := by
  -- the last digit of a number is read last, so the digits before it come by induction on the number
  induction n using Nat.strongRecOn generalizing rest with
  | _ n ih =>
    intro value
    by_cases hn : n < 16
    · rw [Nat.toDigits_of_lt_base hn] at hlength ⊢
      simp only [List.length_singleton] at hlength ⊢
      rw [List.singleton_append, braced_digit hn (by omega), Nat.pow_one]
      rfl
    · have hdigits := Nat.toDigits_of_base_le (b := 16) (n := n) (by decide) (by omega)
      rw [hdigits] at hlength ⊢
      rw [List.length_append, List.length_singleton] at hlength
      have hmod : n % 16 < 16 := Nat.mod_lt n (by decide)
      have hvalue : (value * 16 ^ (Nat.toDigits 16 (n / 16)).length + n / 16) * 16 + n % 16 =
          value * 16 ^ ((Nat.toDigits 16 (n / 16)).length + 1) + n := by
        rw [Nat.pow_succ, Nat.add_mul, Nat.mul_assoc, Nat.add_assoc]
        omega
      rw [List.append_assoc, ih (n / 16) (by omega) _ (by omega), List.singleton_append,
        braced_digit hmod (by omega), hvalue, Option.map_map, List.length_append, List.length_singleton,
        Nat.add_assoc]
      simp only [Function.comp_def, List.append_assoc, List.singleton_append]

/-- **`braced` reads `Text.hexNumber c`** as the code point of `c`. -/
theorem braced_hexNumber (c : Char) (rest : List Char) :
    braced 0 0 (Text.hexNumber c ++ '\x7d' :: rest) = some (c.toNat, Text.hexNumber c ++ ['\x7d'], rest) := by
  have hbound : c.toNat < 16 ^ 6 := by
    have h := c.valid
    simp only [UInt32.isValidChar, Nat.isValidChar] at h
    simp only [Char.toNat]
    omega
  have hlength : (Nat.toDigits 16 c.toNat).length ≤ 6 :=
    (Nat.length_toDigits_le_iff (by decide) (by decide)).mpr hbound
  have hpos : 0 < (Nat.toDigits 16 c.toNat).length := Nat.length_toDigits_pos
  rw [Text.hexNumber, braced_toDigits_append _ _ (by omega), Nat.zero_mul, Nat.zero_add, Nat.zero_add, braced,
    if_neg (fun h => absurd h.1 (by decide)), if_pos ⟨rfl, hpos⟩]
  rfl

theorem isCharacter_toNat (c : Char) : isCharacter c.toNat = true := by
  obtain ⟨hlast, hpair⟩ := Text.toNat_bounds c
  simp only [isCharacter, Bool.or_eq_true, Bool.and_eq_true, decide_eq_true_eq]
  omega

/-! ## Characters and texts -/

/-- `quotedBody` reads a character that is neither the quote nor a backslash nor a carriage return as itself. -/
theorem quotedBody_plain {c : Char} (hquote : c ≠ '"') (hslash : c ≠ '\\') (hreturn : c ≠ '\r') (fuel : Nat)
    (rest : List Char) :
    quotedBody .text (fuel + 1) (c :: rest) =
      (quotedBody .text fuel rest).map fun r => (c :: r.1, c :: r.2.1, r.2.2) := by
  rw [quotedBody]
  · simp only [reduceCtorEq, false_and, or_self, if_false]
    cases quotedBody .text fuel rest <;> rfl
  all_goals simp_all

/-- `quotedBody` reads an `escape` as the character that it denotes, unless it is a line end. -/
theorem quotedBody_escape {c l : Char} {more chars rest : List Char} (hline : l ≠ '\n') (hreturn : l ≠ '\r')
    (h : escape .text (l :: more) = some (c, chars, rest)) (fuel : Nat) :
    quotedBody .text (fuel + 1) ('\\' :: l :: more) =
      (quotedBody .text fuel rest).map fun r => (c :: r.1, '\\' :: chars ++ r.2.1, r.2.2) := by
  rw [quotedBody]
  · rw [h]
    cases hb : quotedBody .text fuel rest <;> simp [hb]
  all_goals simp_all

/-- `escape` reads `quotedLetter? c` as `c`. -/
theorem escape_quotedLetter {c l : Char} (h : Text.quotedLetter? c = some l) (rest : List Char) :
    escape .text (l :: rest) = some (c, [l], rest) := by
  have hc := Text.meantBy?_of_quotedLetter? h
  unfold Text.meantBy? at hc
  split at hc
  case h_7 => cases hc
  all_goals
    obtain rfl := Option.some.inj hc
    rfl

theorem escape_hexNumber (c : Char) (rest : List Char) :
    escape .text ('u' :: '\x7b' :: (Text.hexNumber c ++ '\x7d' :: rest)) =
      some (c, 'u' :: '\x7b' :: (Text.hexNumber c ++ ['\x7d']), rest) := by
  rw [escape, braced_hexNumber]
  simp [isCharacter_toNat, Char.ofNat_toNat]

/-- **`quotedBody` reads `Text.quotedChar c` as `c`.** -/
theorem quotedBody_quotedChar (c : Char) (fuel : Nat) (rest : List Char) :
    quotedBody .text (fuel + 1) (Text.quotedChar c ++ rest) =
      (quotedBody .text fuel rest).map fun r => (c :: r.1, Text.quotedChar c ++ r.2.1, r.2.2) := by
  unfold Text.quotedChar
  split
  · next l hl =>
    -- no escape is spelled with the end of a line
    have hline : l ≠ '\n' := by
      rintro rfl
      have := Text.meantBy?_of_quotedLetter? hl
      cases this
    have hreturn : l ≠ '\r' := by
      rintro rfl
      have := Text.meantBy?_of_quotedLetter? hl
      cases this
    exact quotedBody_escape hline hreturn (escape_quotedLetter hl rest) fuel
  · next hnone =>
    split
    · obtain ⟨hslash, hquote⟩ := Text.ne_of_quotedLetter?_none hnone
      refine quotedBody_plain hquote hslash ?_ fuel rest
      rintro rfl
      cases hnone
    · have h := quotedBody_escape (l := 'u') (by decide) (by decide) (escape_hexNumber c rest) fuel
      simpa using h

/-- `quotedBody` reads the `quotedChar` of some characters up to the quote after them. -/
theorem quotedBody_quoted (cs : List Char) {fuel : Nat} (hfuel : cs.length < fuel) (rest : List Char) :
    quotedBody .text fuel (cs.flatMap Text.quotedChar ++ '"' :: rest) =
      some (cs, cs.flatMap Text.quotedChar ++ ['"'], rest) := by
  induction cs generalizing fuel with
  | nil =>
    obtain ⟨fuel, rfl⟩ := Nat.exists_eq_add_of_lt hfuel
    rfl
  | cons c cs ih =>
    rw [List.length_cons] at hfuel
    obtain ⟨fuel, rfl⟩ : ∃ n, fuel = n + 1 := ⟨fuel - 1, by omega⟩
    rw [List.flatMap_cons, List.append_assoc, quotedBody_quotedChar, ih (by omega)]
    simp

theorem length_le_length_flatMap_quotedChar (cs : List Char) :
    cs.length ≤ (cs.flatMap Text.quotedChar).length := by
  induction cs with
  | nil => exact Nat.le_refl 0
  | cons c cs ih =>
    obtain ⟨first, rest, hc, -⟩ := Text.exists_of_quotedChar c
    rw [List.flatMap_cons, List.length_append, hc, List.length_cons, List.length_cons]
    omega

/-- **`textValue?` inverts `Text.quoted`.** -/
theorem textValue?_quoted (s : String) : textValue? (Text.quoted s) = some s := by
  have hlist : (Text.quoted s).toList = '"' :: (s.toList.flatMap Text.quotedChar ++ ['"']) := by
    rw [Text.quoted, String.toList_ofList, List.cons_append]
  have hlength := length_le_length_flatMap_quotedChar s.toList
  have hfuel : s.toList.length < (s.toList.flatMap Text.quotedChar ++ ['"']).length + 1 := by
    rw [List.length_append, List.length_singleton]
    omega
  have hbody := quotedBody_quoted s.toList hfuel []
  rw [textValue?, hlist]
  show (quotedRest .text _).map _ = _
  rw [quotedRest, hbody, Option.map_some, String.ofList_toList]

end Source.Literal

/-! ## Comments on endpoints -/

namespace Source.Lexer

/-- `line` reads a text on one line up to its end. -/
theorem line_of_oneLine {cs : List Char} (hline : '\n' ∉ cs) (hreturn : '\r' ∉ cs) (rest : List Char) :
    line (cs ++ '\n' :: rest) = (cs, '\n' :: rest) := by
  induction cs with
  | nil => rfl
  | cons c cs ih =>
    rw [List.mem_cons, not_or] at hline hreturn
    rw [List.cons_append, line, ih hline.2 hreturn.2]
    · exact fun h => hline.1 h.symm
    · intro more h
      exact absurd h.symm hreturn.1

theorem hasBareReturn_of_not_mem {cs : List Char} (h : '\r' ∉ cs) : hasBareReturn cs = false := by
  induction cs with
  | nil => rfl
  | cons c cs ih =>
    rw [List.mem_cons, not_or] at h
    rw [hasBareReturn]
    · exact ih h.2
    · intro more hc
      exact absurd hc.symm h.1
    · exact fun hc => h.1 hc.symm

/-- `lexemes?` of a line of comment is one token, the `documentation` of the comment. -/
theorem lexemes?_comment {cs : List Char} (hline : '\n' ∉ cs) (hreturn : '\r' ∉ cs) :
    lexemes? ('/' :: '/' :: '/' :: ' ' :: (cs ++ ['\n'])) =
      some [.trees (documentation false (' ' :: cs))] := by
  have hline' : '\n' ∉ ' ' :: cs := by simpa using hline
  have hreturn' : '\r' ∉ ' ' :: cs := by simpa using hreturn
  have hread : line (' ' :: (cs ++ ['\n'])) = (' ' :: cs, ['\n']) := line_of_oneLine hline' hreturn' []
  have hdoc : documented? ('/' :: '/' :: '/' :: ' ' :: (cs ++ ['\n'])) =
      some (documentation false (' ' :: cs), ['\n']) := by
    have hbare : hasBareReturn (' ' :: cs) = false :=
      hasBareReturn_of_not_mem (by simpa using hreturn)
    have hshape : documented? ('/' :: '/' :: '/' :: ' ' :: (cs ++ ['\n'])) =
        if hasBareReturn (line (' ' :: (cs ++ ['\n']))).1 then none
        else some (documentation false (line (' ' :: (cs ++ ['\n']))).1, (line (' ' :: (cs ++ ['\n']))).2) :=
      rfl
    rw [hshape, hread, hbare]
    rfl
  rw [lexemes?, List.length_cons, lexemesWithin]
  · have hskip : skipped? ('/' :: '/' :: '/' :: ' ' :: (cs ++ ['\n'])) = none := rfl
    simp only [hskip, lexeme?, hdoc]
    rfl
  · exact fun h => by cases h

end Source.Lexer

namespace Artifact

/-- **`documentationLines?` of a pattern on one line** is one line: the method and the pattern. -/
theorem documentationLines?_of_oneLine (m : Method) {pattern : String} (hline : '\n' ∉ pattern.toList)
    (hreturn : '\r' ∉ pattern.toList) :
    documentationLines? m pattern = some [" \x60" ++ m.token ++ " " ++ pattern ++ "\x60"] := by
  let cs := '\x60' :: (m.token.toList ++ ' ' :: (pattern.toList ++ ['\x60']))
  have htoken : '\n' ∉ m.token.toList ∧ '\r' ∉ m.token.toList := by cases m <;> decide
  have hcs : '\n' ∉ cs ∧ '\r' ∉ cs := by
    simp [cs, htoken.1, htoken.2, hline, hreturn]
  have htext : ("/// \x60" ++ m.token ++ " " ++ pattern ++ "\x60\n").toList =
      '/' :: '/' :: '/' :: ' ' :: (cs ++ ['\n']) := by
    simp [cs]
  have hcomment : String.ofList (' ' :: cs) = " \x60" ++ m.token ++ " " ++ pattern ++ "\x60" := by
    rw [← String.toList_inj]
    simp [cs]
  rw [documentationLines?, htext, Source.Lexer.lexemes?_comment hcs.1 hcs.2, ← hcomment]
  simp [documentationText?, Source.Lexer.documentation, Source.Tree.lone, Source.Literal.textValue?_quoted]

end Artifact

end RouteContracts
