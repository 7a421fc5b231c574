import RouteContracts.Proofs.Companion.Generated
import RouteContracts.Proofs.Companion.Quotes

/-! # The identifier in a companion file
The identifier of a route is what stands between the first quotes of the constant `ROUTE_ID`, with the comments and
attributes in front of it. That is the value of its initializer only when no quotes stand outside of it, and only
quotes are escaped in it.

* `Source.Literal.Denotes`: a plain text literal and its value.
* `Companion.Assigned`: **the last constant `ROUTE_ID` of a text**, and its initializer.
* `Companion.assigned_generated`: a companion file as it is written for a route has such a constant, whatever its
  comment and its literal are.
* `RouteTypes.routeId_of_literal`: **the identifier is the value of the literal exactly then.** -/

namespace RouteContracts

/-! ## Plain literals -/

namespace Source.Literal

/-- **A plain text literal**: what stands between its quotes, and the text that it denotes. -/
structure Denotes (literal : String) (body value : List Char) : Prop where
  spelled : literal.toList = '"' :: (body ++ ['"'])
  /-- Nothing follows the closing quote. -/
  read : quotedRest .text (body ++ ['"']) = some (value, body ++ ['"'], [])

variable {literal : String} {body value : List Char}

theorem Denotes.spells (h : Denotes literal body value) : Spells body value := by
  obtain ⟨body', hread, -, hspells⟩ := spells_of_quotedBody h.read
  rwa [List.append_cancel_right hread]

/-- `textValue? literal = some value`: its value is the one that `Source.Literal` reads for an endpoint file. -/
theorem Denotes.textValue? (h : Denotes literal body value) : textValue? literal = some (String.ofList value) := by
  have hvalue : (quotedRest .text (body ++ ['"'])).map (fun r => String.ofList r.1) = some (String.ofList value) := by
    rw [h.read, Option.map_some]
  rw [Literal.textValue?, h.spelled]
  exact hvalue

end Source.Literal

open Source.Literal (Denotes Spells IsQuiet)

namespace Companion

/-! ## The constant -/

/-- **The last constant `ROUTE_ID` of `declaredIn code`**, by its tokens: `literal` is its initializer. -/
structure Assigned (code : String) (front : List Token) (literal : Token) (back : List Token) : Prop where
  /-- No constant of the name comes later. -/
  last : ∃ before after, declaredIn code =
      before ++ .constant RouteTypes.routeIdName (Token.declarationText (front ++ literal :: back)) :: after ∧
    ∀ text, .constant RouteTypes.routeIdName text ∉ after
  /-- The literal follows an equals sign. -/
  equals : ∃ words sign, front = words ++ [sign] ∧ sign.isText "=" = true
  /-- At most a semicolon follows the literal. -/
  ended : back = [] ∨ ∃ stop, back = [stop] ∧ stop.isText ";" = true

/-- The text of a constant in front of its literal, with the comments and attributes that belong to it. -/
def textBefore (front : List Token) (literal : Token) : List Char :=
  (Token.declarationText front ++ Token.fillersText literal.before).toList

/-- The text of a constant behind its literal. -/
def textBehind (back : List Token) : List Char := (Token.continuedText back).toList

variable {code : String} {front back : List Token} {literal : Token} {body value : List Char}

theorem toList_declarationText (hfront : front ≠ []) (literal : Token) (back : List Token) :
    (Token.declarationText (front ++ literal :: back)).toList =
      textBefore front literal ++ (literal.text.toList ++ textBehind back) := by
  cases front with
  | nil => exact absurd rfl hfront
  | cons t front => simp [Token.declarationText, Token.continuedText, textBefore, textBehind]

theorem Assigned.front_ne_nil (h : Assigned code front literal back) : front ≠ [] := by
  obtain ⟨words, sign, rfl, -⟩ := h.equals
  simp

/-! ## Companion files as they are written -/

/-- What stands between the comment and the literal of a companion file: `pub const ROUTE_ID: &str = `. -/
def Generated.declaration : List Char :=
  ['\n', 'p', 'u', 'b', ' ', 'c', 'o', 'n', 's', 't', ' ', 'R', 'O', 'U', 'T', 'E', '_', 'I', 'D', ':', ' ', '&', 's',
    't', 'r', ' ', '=', ' ']

/-- A companion file: the line `/// ..` of a comment, and a constant `ROUTE_ID` with `literal` as its initializer. -/
def generated (comment : List Char) (literal : String) : String :=
  String.ofList ('/' :: '/' :: '/' :: (comment ++ (Generated.declaration ++ (literal.toList ++ [';']))))

namespace Generated

/-- The comment in front of the first token. -/
def documentation (comment : List Char) : List Filler := [.comment (String.ofList ('/' :: '/' :: '/' :: comment))]

end Generated

theorem scanWithin_filler {s rest : List Char} {filler : Filler} (h : Token.filler? s = some (filler, rest))
    (fuel : Nat) (before : List Filler) :
    Token.scanWithin (fuel + 1) before s = Token.scanWithin fuel (before ++ [filler]) rest := by
  cases s with
  | nil => cases h
  | cons c s => rw [Token.scanWithin, h]; simp

theorem scanWithin_token {s text rest : List Char} {kind : TokenKind} (hs : s ≠ []) (h : Token.filler? s = none)
    (htoken : Token.token s = (kind, text, rest)) (fuel : Nat) (before : List Filler) :
    Token.scanWithin (fuel + 1) before s =
      ⟨before, kind, String.ofList text⟩ :: Token.scanWithin fuel [] rest := by
  cases s with
  | nil => exact absurd rfl hs
  | cons c s => rw [Token.scanWithin, h, htoken]; simp

theorem scanWithin_declaration (fuel : Nat) (before : List Filler) (rest : List Char) :
    Token.scanWithin (fuel + 13) before (Generated.declaration ++ '"' :: rest) =
      Generated.words before ++ Token.scanWithin fuel [.blanks " "] ('"' :: rest) := rfl

/-- `Token.filler?` reads the comment of the file up to the end of its line. -/
theorem filler_documentation {comment : List Char} (h : '\n' ∉ comment) (rest : List Char) :
    Token.filler? ('/' :: '/' :: '/' :: comment ++ (Generated.declaration ++ rest)) =
      some (.comment (String.ofList ('/' :: '/' :: '/' :: comment)), Generated.declaration ++ rest) := by
  have hline : ∀ c ∈ '/' :: '/' :: '/' :: comment, decide (c ≠ '\n') = true := by
    simpa using fun c hc (heq : c = '\n') => h (heq ▸ hc)
  have hcut : ∀ behind : List Char, Token.filler? ('/' :: '/' :: '/' :: comment ++ behind) =
      some (.comment (String.ofList (('/' :: '/' :: '/' :: comment ++ behind).takeWhile (· ≠ '\n'))),
        ('/' :: '/' :: '/' :: comment ++ behind).dropWhile (· ≠ '\n')) := fun _ => rfl
  -- the declaration begins with the end of the line
  have hstop : (Generated.declaration ++ rest).takeWhile (fun c => decide (c ≠ '\n')) = [] ∧
      (Generated.declaration ++ rest).dropWhile (fun c => decide (c ≠ '\n')) = Generated.declaration ++ rest :=
    ⟨rfl, rfl⟩
  rw [hcut, List.takeWhile_append_of_pos hline, List.dropWhile_append_of_pos hline, hstop.1, hstop.2, List.append_nil]

/-- `Token.scan` of `generated comment text` gives `Generated.words`, the literal and the semicolon. -/
theorem scan_generated {text : String} (comment : List Char) (hcomment : '\n' ∉ comment)
    (h : Denotes text body value) : Token.scan (generated comment text).toList =
      Generated.words (Generated.documentation comment) ++ [Generated.initializer text, Generated.stop] := by
  have hlist : (generated comment text).toList =
      '/' :: '/' :: '/' :: comment ++ (Generated.declaration ++ '"' :: (body ++ '"' :: [';'])) := by
    simp [generated, h.spelled]
  have hfiller := hlist ▸ filler_documentation hcomment ('"' :: (body ++ '"' :: [';']))
  have hword : Token.word [';'] = ([], [';']) := rfl
  have htoken : Token.token ('"' :: (body ++ '"' :: [';'])) = (.quoted, text.toList, [';']) := by
    rw [Token.token, Token.doubleQuoted_of_spells h.spells, h.spelled]
    simp only [Token.suffixed, hword, List.append_nil]
  -- one filler, thirteen steps for the declaration, and two tokens behind it
  obtain ⟨fuel, hfuel⟩ : ∃ fuel, (generated comment text).toList.length + 1 = fuel + 2 + 1 + 13 + 1 := by
    refine ⟨comment.length + body.length + 18, ?_⟩
    rw [hlist]
    simp [Generated.declaration]
    omega
  rw [Token.scan, hfuel, scanWithin_filler hfiller, List.nil_append, scanWithin_declaration,
    scanWithin_token (by simp) rfl htoken, String.ofList_toList]
  rfl

/-- **`generated comment text` has a last constant `ROUTE_ID`**, with the literal as its initializer. -/
theorem assigned_generated {text : String} (comment : List Char) (hcomment : '\n' ∉ comment)
    (h : Denotes text body value) : Assigned (generated comment text)
      (Generated.words (Generated.documentation comment)) (Generated.initializer text) [Generated.stop] := by
  have hdeclared : declaredIn (generated comment text) = [.constant "ROUTE_ID"
      (Token.declarationText
        (Generated.words (Generated.documentation comment) ++ [Generated.initializer text, Generated.stop]))] := by
    have hshebang : withoutShebang (generated comment text).toList = (generated comment text).toList := by
      rw [generated, String.toList_ofList]
      rfl
    rw [declaredIn, hshebang, scan_generated comment hcomment h]
    exact found_generated 42 _ text
  have hequals : Generated.words (Generated.documentation comment) =
      (Generated.words (Generated.documentation comment)).dropLast ++ [⟨[.blanks " "], .mark, "="⟩] := rfl
  exact ⟨⟨[], [], hdeclared, fun _ => List.not_mem_nil⟩, ⟨_, _, hequals, rfl⟩, .inr ⟨_, rfl, rfl⟩⟩

end Companion

open Companion

/-! ## What is read -/

namespace RouteTypes

/-- `RouteTypes.add` leaves the identifier as it is for declarations without a constant `ROUTE_ID`. -/
theorem routeId_foldl_add (file : Path) (ds : List Declared) (hds : ∀ text, .constant routeIdName text ∉ ds)
    (known : RouteTypes × List Notice) : (ds.foldl (add file) known).1.routeId = known.1.routeId := by
  induction ds generalizing known with
  | nil => rfl
  | cons d ds ih =>
    have hrest : ∀ text, .constant routeIdName text ∉ ds := fun text hmem => hds text (List.mem_cons_of_mem d hmem)
    rw [List.foldl_cons, ih hrest]
    cases d with
    | constant name text =>
      have hname : name ≠ routeIdName := by
        rintro rfl
        exact hds text List.mem_cons_self
      rw [add, if_neg hname]
    | record name fields =>
      rw [add]
      split <;> rfl

/-- **`RouteTypes.ofText` takes the identifier from the last constant** of `declaredIn code`: it is `firstString?` of
its text. -/
theorem routeId_ofText {code text : String} (file : Path) {before after : List Declared}
    (h : declaredIn code = before ++ .constant routeIdName text :: after)
    (hafter : ∀ text, .constant routeIdName text ∉ after) : (ofText file code).1.routeId = firstString? text := by
  rw [ofText, h, List.foldl_append, List.foldl_cons, routeId_foldl_add file after hafter, add, if_pos rfl]

section Literal

variable {code : String} {front back : List Token} {literal : Token} {body value : List Char}

/-- **The identifier is `firstQuoted` of the text of the constant**, with `plainQuotes`. -/
theorem routeId_eq (file : Path) (h : Assigned code front literal back) (hliteral : Denotes literal.text body value) :
    (ofText file code).1.routeId =
      ((firstQuoted (textBefore front literal ++ '"' :: (body ++ '"' :: textBehind back))).map plainQuotes).map
        String.ofList := by
  obtain ⟨before, after, hdeclared, hafter⟩ := h.last
  rw [routeId_ofText file hdeclared hafter, firstString?, toList_declarationText h.front_ne_nil, hliteral.spelled,
    Option.map_map]
  simp only [List.cons_append, List.append_assoc, List.nil_append]
  rfl

/-- **The identifier is the value of the literal when `OnlyQuotesEscaped body`**, if no quotes stand in front of it in
the text of the constant. -/
theorem routeId_of_onlyQuotesEscaped (file : Path) (h : Assigned code front literal back)
    (hliteral : Denotes literal.text body value) (hfront : '"' ∉ textBefore front literal)
    (honly : OnlyQuotesEscaped body = true) : (ofText file code).1.routeId = some (String.ofList value) := by
  rw [routeId_eq file h hliteral, firstQuoted_of_spells hliteral.spells hfront honly]
  rfl

/-- **It is the value only then**, if no quotes stand behind the literal either. -/
theorem onlyQuotesEscaped_of_routeId (file : Path) (h : Assigned code front literal back)
    (hliteral : Denotes literal.text body value) (hfront : '"' ∉ textBefore front literal)
    (hback : '"' ∉ textBehind back) (hvalue : (ofText file code).1.routeId = some (String.ofList value)) :
    OnlyQuotesEscaped body = true := by
  rw [routeId_eq file h hliteral] at hvalue
  obtain ⟨cs, hcs, heq⟩ := Option.map_eq_some_iff.mp hvalue
  exact onlyQuotesEscaped_of_firstQuoted hliteral.spells hfront hback (String.ofList_injective heq ▸ hcs)

/-- **With quotes in front of the literal**, the identifier is what stands between them. -/
theorem routeId_of_quotes (file : Path) (h : Assigned code front literal back)
    (hliteral : Denotes literal.text body value) {before between cs : List Char}
    (hfront : textBefore front literal = before ++ '"' :: between) (hbefore : '"' ∉ before)
    (hcs : untilQuote between = some cs) : (ofText file code).1.routeId = some (String.ofList (plainQuotes cs)) := by
  rw [routeId_eq file h hliteral, hfront, List.append_assoc, List.cons_append, firstQuoted_of_front hbefore hcs]
  rfl

/-- **The identifier is the value of the literal only as it is spelled.** Let the last constant `ROUTE_ID` of a text
have a plain literal as its initializer. If no quotes stand in `textBefore`, that is in front of it in the constant, its
comments and its attributes, `routeId` is the value of the literal where `OnlyQuotesEscaped body`; and only there, as
long as no quotes stand in `textBehind` either. If quotes stand in front of it, `routeId` is what stands between
them. -/
theorem routeId_of_literal (file : Path) (h : Assigned code front literal back)
    (hliteral : Denotes literal.text body value) :
    ('"' ∉ textBefore front literal →
      (OnlyQuotesEscaped body = true → (ofText file code).1.routeId = some (String.ofList value)) ∧
      ('"' ∉ textBehind back →
        ((ofText file code).1.routeId = some (String.ofList value) ↔ OnlyQuotesEscaped body = true))) ∧
    ∀ before between cs, textBefore front literal = before ++ '"' :: between → '"' ∉ before →
      untilQuote between = some cs → (ofText file code).1.routeId = some (String.ofList (plainQuotes cs)) := by
  refine ⟨fun hfront => ?_, ?_⟩
  · have hvalue := routeId_of_onlyQuotesEscaped file h hliteral hfront
    exact ⟨hvalue, fun hback => ⟨onlyQuotesEscaped_of_routeId file h hliteral hfront hback, hvalue⟩⟩
  · intro before between cs hfront hbefore hcs
    exact routeId_of_quotes file h hliteral hfront hbefore hcs

end Literal

/-- `/// the route` and the literal `"/a \"b\""`: no quotes stand in the comment, only quotes are escaped in the
literal, and `routeId` is its value. -/
theorem routeId_of_literal_quoted :
    Assigned (generated " the route".toList "\"/a \\\"b\\\"\"")
        (Generated.words (Generated.documentation " the route".toList)) (Generated.initializer "\"/a \\\"b\\\"\"")
        [Generated.stop] ∧
      Denotes "\"/a \\\"b\\\"\"" "/a \\\"b\\\"".toList "/a \"b\"".toList ∧
      (ofText ⟨"types.rs"⟩ (generated " the route".toList "\"/a \\\"b\\\"\"")).1.routeId = some "/a \"b\"" := by
  have hdenotes : Denotes "\"/a \\\"b\\\"\"" "/a \\\"b\\\"".toList "/a \"b\"".toList := ⟨by decide, by decide⟩
  have hassigned := assigned_generated " the route".toList (by decide) hdenotes
  obtain ⟨hvalue, -⟩ := routeId_of_literal ⟨"types.rs"⟩ hassigned hdenotes
  exact ⟨hassigned, hdenotes, (hvalue (by decide)).1 (by decide)⟩

/-- A companion file with a word in quotes in its comment. -/
def documented : String := "/// says \"doc\" first\npub const ROUTE_ID: &str = \"/real\";"

/-- A companion file with an escaped backslash in its literal. -/
def escaped : String := "///\npub const ROUTE_ID: &str = \"a\\\\b\";"

/-- **`routeId` is not always the value of the literal**: in `documented` it is the word in quotes in the comment, and
in `escaped` the backslash is kept twice. -/
theorem routeId_ne_value :
    (∃ front back literal, Assigned documented front literal back ∧
      Denotes literal.text "/real".toList "/real".toList ∧
      (ofText ⟨"types.rs"⟩ documented).1.routeId = some "doc" ∧ "doc" ≠ "/real") ∧
    ∃ front back literal, Assigned escaped front literal back ∧
      Denotes literal.text "a\\\\b".toList "a\\b".toList ∧
      (ofText ⟨"types.rs"⟩ escaped).1.routeId ≠ some "a\\b" := by
  have hreal : Denotes "\"/real\"" "/real".toList "/real".toList := ⟨by decide, by decide⟩
  have hslash : Denotes "\"a\\\\b\"" "a\\\\b".toList "a\\b".toList := ⟨by decide, by decide⟩
  have hdocumented : documented = generated " says \"doc\" first".toList "\"/real\"" := by decide
  have hescaped : escaped = generated [] "\"a\\\\b\"" := by decide
  have hfirst := assigned_generated " says \"doc\" first".toList (by decide) hreal
  have hsecond := assigned_generated [] (by decide) hslash
  rw [hdocumented, hescaped]
  refine ⟨⟨_, _, _, hfirst, hreal, ?_, by decide⟩, ⟨_, _, _, hsecond, hslash, fun hvalue => ?_⟩⟩
  · have hfront : textBefore (Generated.words (Generated.documentation " says \"doc\" first".toList))
        (Generated.initializer "\"/real\"") =
        "/// says ".toList ++ '"' :: "doc\" first\npub const ROUTE_ID: &str = ".toList := by decide
    have hquoted : untilQuote "doc\" first\npub const ROUTE_ID: &str = ".toList = some "doc".toList := by decide
    exact routeId_of_quotes _ hfirst hreal hfront (by decide) hquoted
  · have honly := onlyQuotesEscaped_of_routeId _ hsecond hslash (by decide) (by decide) hvalue
    revert honly
    decide

end RouteTypes

end RouteContracts
