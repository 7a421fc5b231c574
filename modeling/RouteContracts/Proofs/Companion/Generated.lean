import RouteContracts.Companion.File

/-! # Reading the constant of a companion file
The tokens of `pub const ROUTE_ID: &str = ..;` are read step by step, one lemma for each rule of the grammar that they
meet. What stands in front of the first of them, and the text of the literal, do not matter.

* `bind_quiet`, `ifNext_of`, `whileNext_of_not`: one step of a reader, with what it leaves.
* `Generated.words`, `Generated.assignment`: the tokens, up to the literal and from the equals sign on.
* `optionalItem_generated`: **such an item is a constant**, and nothing of it is left.
* `found_generated`: **a file with nothing else has that constant.** -/

namespace RouteContracts.Companion

/-! ## Steps of readers -/

section Steps

variable {α β : Type} {p q : Reader α} {f : α → Reader β} {peek : List Token → Bool} {step : Reader Bool}
  {ts rest left : List Token} {found : List Declared} {a : α} {b : β} {r : Reading α} {s : Reading β}

/-- `(p >>= f) ts = f a rest` where `p ts = ⟨a, rest, []⟩`: a reader that finds nothing leaves the rest to the next. -/
theorem bind_quiet (hp : p ts = ⟨a, rest, []⟩) (hf : f a rest = s) : (p >>= f) ts = s := by
  subst hf
  change Reader.bind p f ts = _
  rw [Reader.bind, hp]
  rfl

/-- `(p >>= f) ts` has found what `p` found, if `f` finds nothing. -/
theorem bind_last (hp : p ts = ⟨a, rest, found⟩) (hf : f a rest = ⟨b, left, []⟩) :
    (p >>= f) ts = ⟨b, left, found⟩ := by
  change Reader.bind p f ts = _
  rw [Reader.bind, hp, hf, List.append_nil]

theorem ifNext_of (h : peek ts = true) (hp : p ts = r) : ifNext peek p q ts = r := by
  rw [ifNext, if_pos h, hp]

theorem ifNext_of_not (h : peek ts = false) (hq : q ts = r) : ifNext peek p q ts = r := by
  rw [ifNext, h, if_neg Bool.false_ne_true, hq]

theorem whenNext_of_not {p : Reader Unit} (h : peek ts = false) : whenNext peek p ts = ⟨(), ts, []⟩ :=
  ifNext_of_not h rfl

/-- `Reader.whileNext peek step` reads nothing where `peek` is false. -/
theorem whileNext_of_not (h : peek ts = false) : Reader.whileNext peek step ts = ⟨(), ts, []⟩ := by
  have hstep : (do if ← Reader.looking peek then step else pure false : Reader Bool) ts = ⟨false, ts, []⟩ :=
    bind_quiet rfl (by rw [h]; rfl)
  exact bind_quiet hstep rfl

/-- `Reader.whileNext peek step` is one `step`, if that reads all tokens. -/
theorem whileNext_once (h : peek ts = true) (hstep : step ts = ⟨true, [], found⟩) (hend : peek [] = false) :
    Reader.whileNext peek step ts = ⟨(), [], found⟩ := by
  cases ts with
  | nil => rw [hend] at h; cases h
  | cons t more =>
    have hmore : (do if ← Reader.looking peek then step else pure false : Reader Bool) (t :: more) =
        ⟨true, [], found⟩ := bind_quiet rfl (by rw [h]; exact hstep)
    have hdone : (do if ← Reader.looking peek then step else pure false : Reader Bool) [] = ⟨false, [], []⟩ :=
      bind_quiet rfl (by rw [hend]; rfl)
    exact bind_last hmore (bind_quiet hdone rfl)

end Steps

/-! ## The tokens -/

namespace Generated

/-- The tokens in front of the literal, after some fillers. -/
def words (before : List Filler) : List Token :=
  [⟨before ++ [.blanks "\n"], .word, "pub"⟩, ⟨[.blanks " "], .word, "const"⟩, ⟨[.blanks " "], .word, "ROUTE_ID"⟩,
    ⟨[], .mark, ":"⟩, ⟨[.blanks " "], .mark, "&"⟩, ⟨[], .word, "str"⟩, ⟨[.blanks " "], .mark, "="⟩]

/-- The literal. -/
def initializer (text : String) : Token := ⟨[.blanks " "], .quoted, text⟩

/-- The semicolon. -/
def stop : Token := ⟨[], .mark, ";"⟩

/-- The tokens from the equals sign on. -/
def assignment (text : String) : List Token := [⟨[.blanks " "], .mark, "="⟩, initializer text, stop]

/-- The tokens of the type, and what follows it. -/
def typed (text : String) : List Token := ⟨[.blanks " "], .mark, "&"⟩ :: ⟨[], .word, "str"⟩ :: assignment text

end Generated

open Rule Generated

/-! ## The literal and the type -/

section Parts

variable (g : Rules) (text : String)

theorem lefthand_literal : lefthand g ⟨false, false⟩ [initializer text, stop] = ⟨some false, [stop], []⟩ := by
  have hatom : atom g ⟨false, false⟩ [initializer text, stop] = ⟨some false, [stop], []⟩ := ifNext_of rfl rfl
  have hpostfixes : postfixes g 2 true false [stop] = ⟨false, [stop], []⟩ :=
    ifNext_of_not rfl (ifNext_of_not rfl (ifNext_of_not rfl (ifNext_of_not rfl rfl)))
  -- no operator stands in front of the literal
  exact ifNext_of_not rfl (ifNext_of_not rfl (ifNext_of_not rfl (bind_quiet hatom (bind_quiet hpostfixes rfl))))

/-- A literal in front of a semicolon is the whole expression. -/
theorem expressionOf_literal : expressionOf g ⟨false, false⟩ 1 [initializer text, stop] = ⟨some false, [stop], []⟩ := by
  have hclimb : climb g ⟨false, false⟩ 1 2 [stop] = ⟨(), [stop], []⟩ := ifNext_of_not rfl rfl
  exact bind_quiet (whileNext_of_not rfl)
    (ifNext_of rfl (bind_quiet (lefthand_literal g text) (bind_quiet hclimb rfl)))

theorem path_str : path g .typed (⟨[], .word, "str"⟩ :: assignment text) = ⟨(), assignment text, []⟩ := by
  have harguments : arguments g .typed (assignment text) = ⟨(), assignment text, []⟩ :=
    bind_quiet (whenNext_of_not rfl) (ifNext_of_not rfl (whenNext_of_not rfl))
  have hfirst : firstSegment g .typed (⟨[], .word, "str"⟩ :: assignment text) = ⟨true, assignment text, []⟩ :=
    ifNext_of_not rfl (bind_quiet (rfl : eatOp _ _ = _) (ifNext_of rfl (bind_quiet rfl (bind_quiet harguments rfl))))
  exact bind_quiet hfirst (whileNext_of_not rfl)

theorem typeOf_str : typeOf g false (⟨[], .word, "str"⟩ :: assignment text) = ⟨true, assignment text, []⟩ :=
  -- none of the types in front of paths begins with a word like this
  ifNext_of_not rfl <| ifNext_of_not rfl <| ifNext_of_not rfl <| ifNext_of_not rfl <| ifNext_of_not rfl <|
    ifNext_of_not rfl <| ifNext_of_not rfl <| ifNext_of_not rfl <| ifNext_of rfl <|
      bind_quiet (path_str g text) <| bind_quiet (whenNext_of_not rfl) <| bind_quiet (whenNext_of_not rfl) rfl

theorem typeOf_reference (depth : Nat) :
    typeOf (Rules.upTo (depth + 1)) true (typed text) = ⟨true, assignment text, []⟩ := by
  have hplain : (Rules.upTo (depth + 1)).plainType (⟨[], .word, "str"⟩ :: assignment text) =
      ⟨(), assignment text, []⟩ :=
    bind_quiet (typeOf_str (Rules.upTo depth) text) rfl
  exact ifNext_of_not rfl <| ifNext_of_not rfl <| ifNext_of_not rfl <| ifNext_of_not rfl <| ifNext_of rfl <|
    bind_quiet rfl <| bind_quiet (whenNext_of_not rfl) <| bind_quiet rfl <| bind_quiet hplain rfl

end Parts

/-! ## The item -/

section Item

variable (depth : Nat) (before : List Filler) (text : String)

/-- The constant after its visibility. -/
theorem constant_generated :
    constant (Rules.upTo (depth + 2)) true ((words before).tail ++ [initializer text, stop]) =
      ⟨some "ROUTE_ID", [], []⟩ := by
  have hascribed : ascription (Rules.upTo (depth + 2)) (⟨[], .mark, ":"⟩ :: typed text) =
      ⟨true, assignment text, []⟩ := bind_quiet rfl (ifNext_of_not rfl (typeOf_reference text depth))
  have hvalue : (Rules.upTo (depth + 2)).anyExpression [initializer text, stop] = ⟨true, [stop], []⟩ :=
    bind_quiet (expressionOf_literal (Rules.upTo (depth + 1)) text) rfl
  -- the keyword, no `mut` and no underscore, and the name
  refine bind_quiet rfl (bind_quiet rfl (bind_quiet rfl (bind_quiet rfl ?_)))
  refine bind_quiet (whenNext_of_not rfl) (bind_quiet (ifNext_of rfl (bind_quiet hascribed rfl)) ?_)
  refine bind_quiet rfl (bind_quiet hvalue ?_)
  exact bind_quiet (whenNext_of_not rfl) (bind_quiet rfl rfl)

theorem plainItem_generated :
    plainItem (Rules.upTo (depth + 2)) ((words before).tail ++ [initializer text, stop]) =
      ⟨.constant (some "ROUTE_ID"), [], []⟩ :=
  -- the items in front of constants begin with other words
  ifNext_of_not rfl <| ifNext_of_not rfl <| ifNext_of_not rfl <| ifNext_of_not rfl <| ifNext_of_not rfl <|
    ifNext_of_not rfl <| ifNext_of_not rfl <| ifNext_of_not rfl <| ifNext_of_not rfl <| ifNext_of rfl <|
      bind_quiet (constant_generated depth before text) rfl

/-- `optionalItem` notes the constant, with all of its tokens. -/
theorem optionalItem_generated :
    optionalItem (Rules.upTo (depth + 2)) (words before ++ [initializer text, stop]) =
      ⟨.constant (some "ROUTE_ID"), [],
        [.constant "ROUTE_ID" (Token.declarationText (words before ++ [initializer text, stop]))]⟩ := by
  have hvisible : visibility (Rules.upTo (depth + 2)) false (words before ++ [initializer text, stop]) =
      ⟨true, (words before).tail ++ [initializer text, stop], []⟩ :=
    bind_quiet rfl (bind_quiet (ifNext_of_not rfl (whenNext_of_not rfl)) rfl)
  have hkind : (do attributes (Rules.upTo (depth + 2)); itemKind (Rules.upTo (depth + 2)) : Reader ItemKind)
      (words before ++ [initializer text, stop]) = ⟨.constant (some "ROUTE_ID"), [], []⟩ :=
    bind_quiet (whileNext_of_not rfl) (bind_quiet hvisible (bind_quiet (plainItem_generated depth before text) rfl))
  rw [optionalItem, Reader.withRead, hkind]
  rfl

/-- **The constant is found**, whatever comment and literal it has. -/
theorem found_generated :
    (wholeFile (Rules.upTo (depth + 2)) (words before ++ [initializer text, stop])).found =
      [.constant "ROUTE_ID" (Token.declarationText (words before ++ [initializer text, stop]))] := by
  have hitem : item (Rules.upTo (depth + 2)) false (words before ++ [initializer text, stop]) =
      ⟨(), [], [.constant "ROUTE_ID" (Token.declarationText (words before ++ [initializer text, stop]))]⟩ := by
    rw [item]
    exact bind_last (optionalItem_generated depth before text)
      (whenNext_of_not rfl : whenNext (Next.is ";") bump [] = _)
  have hitems : itemsOf (Rules.upTo (depth + 2)) false (words before ++ [initializer text, stop]) =
      ⟨(), [], [.constant "ROUTE_ID" (Token.declarationText (words before ++ [initializer text, stop]))]⟩ :=
    whileNext_once rfl (bind_last hitem rfl) rfl
  have hfile : wholeFile (Rules.upTo (depth + 2)) (words before ++ [initializer text, stop]) = _ :=
    bind_quiet (whileNext_of_not rfl) hitems
  rw [hfile]

end Item

end RouteContracts.Companion
