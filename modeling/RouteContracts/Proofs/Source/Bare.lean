import RouteContracts.Proofs.Source.Meaning

/-! # Expressions without tokens and items
What an expression constructs does not depend on how it is written, nor on the items that are declared in blocks inside
of it: only the message for an expression that constructs nothing shows its tokens.

* `Expr.bare`: an expression without tokens and items.
* `Resolution.SameOutcome`: the same outcome, whatever the reason why there is no result.
* `Expr.evaluate_bare`: **a bare expression constructs the same schema**, with the same notices.
* `Expr.buildsObject_bare`: it constructs an object or not as before. -/

namespace RouteContracts.Source

/-! ## Outcomes -/

namespace Resolution

variable {α β : Type}

/-- The same notices, and the same result or none. -/
structure SameOutcome (r s : Resolution α) : Prop where
  notices : r.notices = s.notices
  result : r.result.toOption = s.result.toOption

theorem SameOutcome.refl (r : Resolution α) : r.SameOutcome r := ⟨rfl, rfl⟩

/-- `fail` has the `SameOutcome` for all reasons. -/
theorem SameOutcome.fail (why other : Unsupported) : (Resolution.fail why : Resolution α).SameOutcome (.fail other) :=
  ⟨rfl, rfl⟩

theorem SameOutcome.ofOption (why other : Unsupported) (a : Option α) :
    (Resolution.ofOption why a).SameOutcome (.ofOption other a) := by
  cases a with
  | none => exact .fail why other
  | some a => exact .refl _

/-- Resolutions with the `SameOutcome` are equal, or both failed. -/
theorem SameOutcome.eq_or_error {r s : Resolution α} (h : r.SameOutcome s) :
    r = s ∨ ∃ why other notices, r = ⟨.error why, notices⟩ ∧ s = ⟨.error other, notices⟩ := by
  obtain ⟨result, notices⟩ := r
  obtain ⟨result', notices'⟩ := s
  obtain ⟨rfl, hresult⟩ : notices = notices' ∧ result.toOption = result'.toOption := ⟨h.notices, h.result⟩
  cases result with
  | error why =>
    cases result' with
    | error other => exact .inr ⟨why, other, notices, rfl, rfl⟩
    | ok a => cases hresult
  | ok a =>
    cases result' with
    | error other => cases hresult
    | ok b =>
      obtain rfl : a = b := Option.some.inj hresult
      exact .inl rfl

/-- `>>=` keeps `SameOutcome`. -/
theorem SameOutcome.bind {r s : Resolution α} {f g : α → Resolution β} (h : r.SameOutcome s)
    (hfg : ∀ a, (f a).SameOutcome (g a)) : (r >>= f).SameOutcome (s >>= g) := by
  rcases h.eq_or_error with rfl | ⟨why, other, notices, rfl, rfl⟩
  · obtain ⟨result, notices⟩ := r
    cases result with
    | error why => exact ⟨rfl, rfl⟩
    | ok a => exact ⟨congrArg (notices ++ ·) (hfg a).notices, (hfg a).result⟩
  · exact ⟨rfl, rfl⟩

theorem SameOutcome.orAny {r s : Resolution Schema} (h : r.SameOutcome s) (field : String) :
    (r.orAny field).SameOutcome (s.orAny field) := by
  rcases h.eq_or_error with rfl | ⟨why, other, notices, rfl, rfl⟩
  · exact .refl _
  · exact .refl _

end Resolution

namespace Expr

/-! ## Bare expressions -/

mutual

/-- **An expression without the tokens it is written with and the items inside of it.** -/
def bare : Expr → Expr
  | .paren _ inner => .paren [] inner.bare
  | .reference _ inner => .reference [] inner.bare
  | .closure _ _ body => .closure [] [] body.bare
  | .block _ _ last =>
    match last with
    | some e => .block [] [] (some e.bare)
    | none => .block [] [] none
  | .call _ callee arguments => .call [] callee.bare (bareAll arguments)
  | .method _ receiver name _ arguments => .method [] receiver.bare name [] (bareAll arguments)
  | .path _ last _ => .path [] last []
  | .literal _ text => .literal [] text
  | .truth _ value => .truth [] value
  | .tuple _ elements => .tuple [] (bareAll elements)
  | .array _ elements => .array [] (bareAll elements)
  | .listMacro _ elements =>
    match elements with
    | some elements => .listMacro [] (some (bareAll elements))
    | none => .listMacro [] none
  | .other _ _ => .other [] []

/-- Some expressions without tokens and items. -/
def bareAll : List Expr → List Expr
  | [] => []
  | e :: rest => e.bare :: bareAll rest

end

@[simp] theorem calleeName?_bare (e : Expr) : e.bare.calleeName? = e.calleeName? := by
  cases e with
  | block _ _ last => cases last <;> rfl
  | listMacro _ elements => cases elements <;> rfl
  | paren | reference | closure | call | method | path | literal | truth | tuple | array | other => rfl

@[simp] theorem textValue?_bare (e : Expr) : e.bare.textValue? = e.textValue? := by
  cases e with
  | block _ _ last => cases last <;> rfl
  | listMacro _ elements => cases elements <;> rfl
  | paren | reference | closure | call | method | path | literal | truth | tuple | array | other => rfl

@[simp] theorem literalValue_bare (e : Expr) : e.bare.literalValue = e.literalValue := by
  cases e with
  | block _ _ last => cases last <;> rfl
  | listMacro _ elements => cases elements <;> rfl
  | paren | reference | closure | call | method | path | literal | truth | tuple | array | other => rfl

@[simp] theorem firstValue_bareAll (es : List Expr) : firstValue (bareAll es) = firstValue es := by
  cases es with
  | nil => rfl
  | cons e rest => exact literalValue_bare e

/-! ## What is constructed -/

open Resolution

theorem texts_bareAll (es : List Expr) : (texts (bareAll es)).SameOutcome (texts es) := by
  induction es with
  | nil => exact .refl _
  | cons e rest ih =>
    rw [bareAll, texts, texts, textValue?_bare]
    exact (SameOutcome.ofOption _ _ _).bind fun s => ih.bind fun ss => .refl _

theorem textList_bare : ∀ e : Expr, e.bare.textList.SameOutcome e.textList
  | .array _ elements => by rw [bare, textList, textList]; exact texts_bareAll elements
  | .reference _ inner => by rw [bare, textList, textList]; exact textList_bare inner
  | .block _ _ last => by cases last <;> exact .fail _ _
  | .listMacro _ elements => by cases elements <;> exact .fail _ _
  | .paren .. | .closure .. | .call .. | .method .. | .path .. | .literal .. | .truth .. | .tuple .. | .other .. =>
    .fail _ _

mutual

/-- **`e.bare.evaluate` has the `SameOutcome` as `e.evaluate`**, by induction on the expression. -/
theorem evaluate_bare : ∀ e : Expr, e.bare.evaluate.SameOutcome e.evaluate
  | .paren _ inner => by rw [bare, evaluate, evaluate]; exact evaluate_bare inner
  | .reference _ inner => by rw [bare, evaluate, evaluate]; exact evaluate_bare inner
  | .closure _ _ body => by rw [bare, evaluate, evaluate]; exact evaluate_bare body
  | .block _ _ (some e) => by rw [bare, evaluate, evaluate]; exact evaluate_bare e
  | .block _ _ none => .fail _ _
  | .call _ callee arguments => by
    rw [bare, evaluate, evaluate, calleeName?_bare]
    split
    · exact .fail _ _
    · next name _ =>
      split
      · exact .fail _ _
      · next builder _ => exact build_bareAll name builder arguments
  | .method _ receiver name _ arguments => by
    rw [bare, evaluate, evaluate, firstValue_bareAll]
    exact (evaluate_bare receiver).bind fun inner => .refl _
  | .listMacro _ (some _) | .listMacro _ none => .fail _ _
  | .path .. | .literal .. | .truth .. | .tuple .. | .array .. | .other .. => .fail _ _

theorem build_bareAll (name : String) (builder : Builder) : ∀ arguments : List Expr,
    (build name builder (bareAll arguments)).SameOutcome (build name builder arguments)
  | [] => .refl _
  | first :: rest => by
    rw [bareAll]
    cases builder with
    | leaf s => exact .refl _
    | literal =>
      rw [build, build, literalValue_bare]
      exact .refl _
    | enumeration =>
      rw [build, build]
      exact (textList_bare first).bind fun _ => .refl _
    | array | optional | nullable =>
      rw [build, build]
      exact (evaluate_bare first).bind fun _ => .refl _
    | object =>
      rw [build, build]
      exact (fieldList_bare first).bind fun _ => .refl _
    | lazy =>
      rw [build, build]
      exact evaluate_bare first

theorem fieldList_bare : ∀ e : Expr, e.bare.fieldList.SameOutcome e.fieldList
  | .array _ elements => by rw [bare, fieldList, fieldList]; exact fieldsOf_bareAll elements
  | .reference _ inner => by rw [bare, fieldList, fieldList]; exact fieldList_bare inner
  | .paren _ inner => by rw [bare, fieldList, fieldList]; exact fieldList_bare inner
  | .listMacro _ (some elements) => by rw [bare, fieldList, fieldList]; exact fieldsOf_bareAll elements
  | .listMacro _ none => .fail _ _
  | .block _ _ (some _) | .block _ _ none => .fail _ _
  | .closure .. | .call .. | .method .. | .path .. | .literal .. | .truth .. | .tuple .. | .other .. => .fail _ _

theorem fieldsOf_bareAll : ∀ elements : List Expr, (fieldsOf (bareAll elements)).SameOutcome (fieldsOf elements)
  | [] => .refl _
  | .tuple _ [nameExpr, value] :: rest => by
    rw [bareAll, bare, bareAll, bareAll, bareAll, fieldsOf, fieldsOf, textValue?_bare]
    refine (SameOutcome.ofOption _ _ _).bind fun name => ((evaluate_bare value).orAny name).bind fun field => ?_
    exact (fieldsOf_bareAll rest).bind fun _ => .refl _
  | .tuple _ [] :: _ | .tuple _ [_] :: _ | .tuple _ (_ :: _ :: _ :: _) :: _ => .fail _ _
  | .block _ _ (some _) :: _ | .block _ _ none :: _ => .fail _ _
  | .listMacro _ (some _) :: _ | .listMacro _ none :: _ => .fail _ _
  | .paren .. :: _ | .reference .. :: _ | .closure .. :: _ | .call .. :: _ | .method .. :: _ | .path .. :: _
  | .literal .. :: _ | .truth .. :: _ | .array .. :: _ | .other .. :: _ => .fail _ _

end

/-- `e.bare.objectFields` has the `SameOutcome` as `e.objectFields`. -/
theorem objectFields_bare (e : Expr) : e.bare.objectFields.SameOutcome e.objectFields :=
  (evaluate_bare e).bind fun _ => .ofOption _ _ _

mutual

/-- **`e.bare.buildsObject = e.buildsObject`.** -/
theorem buildsObject_bare : ∀ e : Expr, e.bare.buildsObject = e.buildsObject
  | .paren _ inner => by rw [bare, buildsObject, buildsObject]; exact buildsObject_bare inner
  | .reference _ inner => by rw [bare, buildsObject, buildsObject]; exact buildsObject_bare inner
  | .closure _ _ body => by rw [bare, buildsObject, buildsObject]; exact buildsObject_bare body
  | .block _ _ (some e) => by rw [bare, buildsObject, buildsObject]; exact buildsObject_bare e
  | .block _ _ none => rfl
  | .method _ receiver _ _ _ => by rw [bare, buildsObject, buildsObject]; exact buildsObject_bare receiver
  | .call _ callee arguments => by
    rw [bare, buildsObject, buildsObject, calleeName?_bare, firstBuildsObject_bareAll arguments]
  | .listMacro _ (some _) | .listMacro _ none => rfl
  | .path .. | .literal .. | .truth .. | .tuple .. | .array .. | .other .. => rfl

theorem firstBuildsObject_bareAll : ∀ arguments : List Expr,
    firstBuildsObject (bareAll arguments) = firstBuildsObject arguments
  | [] => rfl
  | first :: _ => by rw [bareAll, firstBuildsObject, firstBuildsObject]; exact buildsObject_bare first

end

end Expr

end RouteContracts.Source
