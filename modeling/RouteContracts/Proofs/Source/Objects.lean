import Mathlib.Data.List.Induction
import RouteContracts.Proofs.Source.Meaning

/-! # Objects of expressions
An expression that is recognized as the construction of an object comes down to one call of the builder for objects:
behind parentheses, references, closures, blocks, lazy initializers and combinators. Reading the expression follows the
same way, so what it reads is an object, and a list of pairs in the call is read field by field. A field that cannot be
resolved accepts anything and leaves the others as they are.

* `Members.names_ofList`, `Members.get?_ofList`: names in the order of their first pairs, values from their last ones.
* `Expr.ObjectCall`: **the call of the builder for objects** that an expression comes down to.
* `Expr.buildsObject_iff`: the recognized expressions are those with such a call.
* `Expr.ObjectCall.base_evaluate`: what is read is the object of the call, under layers.
* `Expr.objectFields_fieldwise`: **a recognized object is resolved field by field.** -/

namespace RouteContracts

/-! ## Members of a list -/

namespace Members

variable {α : Type}

/-- The value of the last pair with a name. -/
def last? (name : String) (pairs : List (String × α)) : Option α :=
  ((pairs.filter fun p => p.1 = name).getLast?).map Prod.snd

theorem last?_concat (name : String) (pairs : List (String × α)) (p : String × α) :
    last? name (pairs ++ [p]) = if p.1 = name then some p.2 else last? name pairs := by
  unfold last?
  rw [List.filter_append]
  by_cases h : p.1 = name
  · have hkept : [p].filter (fun p => p.1 = name) = [p] := by simp [h]
    rw [if_pos h, hkept, List.getLast?_concat]
    rfl
  · have hnone : [p].filter (fun p => p.1 = name) = [] := by simp [h]
    rw [if_neg h, hnone, List.append_nil]

theorem names_insert (name : String) (value : α) (members : Members α) :
    names (insert name value members) = if name ∈ names members then names members else names members ++ [name] := by
  induction members with
  | nil => rfl
  | cons m rest ih =>
    obtain ⟨key, old⟩ := m
    have hmem : name ∈ names ((key, old) :: rest) ↔ name = key ∨ name ∈ names rest := List.mem_cons
    rw [insert]
    by_cases hkey : key = name
    · rw [if_pos hkey, if_pos (hmem.mpr (.inl hkey.symm))]
      rfl
    · rw [if_neg hkey]
      show key :: names (insert name value rest) = _
      rw [ih]
      by_cases hrest : name ∈ names rest
      · rw [if_pos hrest, if_pos (hmem.mpr (.inr hrest))]
        rfl
      · rw [if_neg hrest, if_neg fun h => (hmem.mp h).elim (Ne.symm hkey) hrest]
        rfl

theorem ofList_concat (pairs : List (String × α)) (p : String × α) :
    ofList (pairs ++ [p]) = insert p.1 p.2 (ofList pairs) := by
  rw [ofList, List.foldl_append]
  rfl

/-- **The names of `ofList pairs`** stand in the order in which they first come. -/
theorem names_ofList (pairs : List (String × α)) : names (ofList pairs) = (pairs.map Prod.fst).eraseDups := by
  induction pairs using List.reverseRecOn with
  | nil => rfl
  | append_singleton pairs p ih =>
    rw [ofList_concat, names_insert, ih, List.map_append, List.eraseDups_append]
    by_cases hmem : p.1 ∈ pairs.map Prod.fst
    · rw [if_pos (List.mem_eraseDups.mpr hmem)]
      simp [List.removeAll, hmem]
    · rw [if_neg fun h => hmem (List.mem_eraseDups.mp h)]
      simp [List.removeAll, hmem, List.eraseDups_cons]

/-- **`get? name (ofList pairs)`** is the value of the last pair with the name. -/
theorem get?_ofList (name : String) (pairs : List (String × α)) : get? name (ofList pairs) = last? name pairs := by
  induction pairs using List.reverseRecOn with
  | nil => rfl
  | append_singleton pairs p ih =>
    rw [ofList_concat, last?_concat]
    by_cases hname : p.1 = name
    · rw [if_pos hname, ← hname, get?_insert_self]
    · rw [if_neg hname, get?_insert_of_ne _ _ (Ne.symm hname), ih]

theorem last?_map {β : Type} (f : α → β) (name : String) (pairs : List (String × α)) :
    last? name (pairs.map fun p => (p.1, f p.2)) = (last? name pairs).map f := by
  induction pairs using List.reverseRecOn with
  | nil => rfl
  | append_singleton pairs p ih =>
    rw [List.map_append, List.map_singleton, last?_concat, last?_concat, ih]
    split <;> rfl

end Members

namespace Source

/-! ## Calls of the builder for objects -/

theorem Resolution.result_map {α β : Type} (r : Resolution α) (f : α → β) :
    (r >>= fun a => Pure.pure (f a)).result = r.result.map f := by
  show (Resolution.bind r fun a => Resolution.pure (f a)).result = _
  rw [Resolution.bind]
  cases r.result with
  | ok a => rfl
  | error why => rfl

/-- Where `r >>= f` fails, `r` failed or what comes after it. -/
theorem Resolution.error_of_bind {α β : Type} {r : Resolution α} {f : α → Resolution β} {why : Unsupported}
    (h : (r >>= f).result = .error why) :
    r.result = .error why ∨ ∃ a, r.result = .ok a ∧ (f a).result = .error why := by
  change (Resolution.bind r f).result = _ at h
  rw [Resolution.bind] at h
  split at h
  · next a hr => exact .inr ⟨a, hr, h⟩
  · next other hr =>
    obtain rfl := Except.error.inj h
    exact .inl hr

/-- `combine` keeps the base. -/
theorem base_combine (name : String) (argument : Json) (s : Schema) : (combine name argument s).base = s.base := by
  unfold combine
  split <;> rfl

namespace Expr

/-- **The call of the builder for objects that an expression comes down to**, by its arguments. -/
inductive ObjectCall : Expr → List Expr → Prop where
  | object {ts : List Tree} {callee : Expr} {arguments : List Expr} (hname : callee.calleeName? = some "object") :
      ObjectCall (.call ts callee arguments) arguments
  /-- A value that is made on first use. -/
  | lazy {ts : List Tree} {callee e : Expr} {more arguments : List Expr} (hname : callee.calleeName? = some "new")
      (h : ObjectCall e arguments) : ObjectCall (.call ts callee (e :: more)) arguments
  | paren {ts : List Tree} {e : Expr} {arguments : List Expr} (h : ObjectCall e arguments) :
      ObjectCall (.paren ts e) arguments
  | reference {ts : List Tree} {e : Expr} {arguments : List Expr} (h : ObjectCall e arguments) :
      ObjectCall (.reference ts e) arguments
  | closure {ts : List Tree} {before : List Item} {body : Expr} {arguments : List Expr}
      (h : ObjectCall body arguments) : ObjectCall (.closure ts before body) arguments
  | block {ts : List Tree} {before : List Item} {e : Expr} {arguments : List Expr} (h : ObjectCall e arguments) :
      ObjectCall (.block ts before (some e)) arguments
  /-- A combinator. -/
  | method {ts : List Tree} {receiver : Expr} {name : String} {types : List Item} {given arguments : List Expr}
      (h : ObjectCall receiver arguments) : ObjectCall (.method ts receiver name types given) arguments

theorem ObjectCall.buildsObject {e : Expr} {arguments : List Expr} (h : e.ObjectCall arguments) :
    e.buildsObject = true := by
  induction h with
  | object hname =>
    rw [Expr.buildsObject, hname]
    rfl
  | lazy hname _ ih =>
    rw [Expr.buildsObject, hname]
    exact ih
  | paren _ ih | reference _ ih | closure _ ih | block _ ih | method _ ih =>
    rw [Expr.buildsObject]
    exact ih

theorem exists_objectCall : ∀ {e : Expr}, e.buildsObject = true → ∃ arguments, e.ObjectCall arguments
  | .paren _ inner, h => by
    rw [Expr.buildsObject] at h
    exact (exists_objectCall h).imp fun _ => .paren
  | .reference _ inner, h => by
    rw [Expr.buildsObject] at h
    exact (exists_objectCall h).imp fun _ => .reference
  | .closure _ _ body, h => by
    rw [Expr.buildsObject] at h
    exact (exists_objectCall h).imp fun _ => .closure
  | .block _ _ (some e), h => by
    rw [Expr.buildsObject] at h
    exact (exists_objectCall h).imp fun _ => .block
  | .method _ receiver _ _ _, h => by
    rw [Expr.buildsObject] at h
    exact (exists_objectCall h).imp fun _ => .method
  | .call _ callee [], h => by
    rw [Expr.buildsObject] at h
    split at h
    · next hname => exact ⟨_, .object hname⟩
    · cases h
    · cases h
  | .call _ callee (first :: more), h => by
    rw [Expr.buildsObject] at h
    split at h
    · next hname => exact ⟨_, .object hname⟩
    · next hname => exact (exists_objectCall (e := first) h).imp fun _ => .lazy hname
    · cases h

/-- **`e.buildsObject`** exactly if `e` comes down to a call of the builder: `ObjectCall`. -/
theorem buildsObject_iff {e : Expr} : e.buildsObject = true ↔ ∃ arguments, e.ObjectCall arguments :=
  ⟨exists_objectCall, fun ⟨_, h⟩ => h.buildsObject⟩

/-- The fields that a call of the builder for objects gives. -/
def callFields : List Expr → Except Unsupported (Members Schema)
  | [] => .error (.missingArgument "object")
  | first :: _ => first.fieldList.result.map Members.ofList

/-- `build` of the builder for objects gives `.object` of `callFields`. -/
theorem result_build_object (arguments : List Expr) :
    (build "object" .object arguments).result = (callFields arguments).map Schema.object := by
  cases arguments with
  | nil => rfl
  | cons first rest =>
    rw [build, Resolution.result_map, callFields]
    cases first.fieldList.result <;> rfl

theorem base_build_object (arguments : List Expr) :
    (build "object" .object arguments).result.map Schema.base = (build "object" .object arguments).result := by
  rw [result_build_object]
  cases callFields arguments <;> rfl

/-- **`e.evaluate` is `build` of its `ObjectCall`**, under layers, or it fails as the call does. -/
theorem ObjectCall.base_evaluate {e : Expr} {arguments : List Expr} (h : e.ObjectCall arguments) :
    e.evaluate.result.map Schema.base = (build "object" .object arguments).result := by
  induction h with
  | object hname => rw [evaluate_call hname rfl, base_build_object]
  | lazy hname _ ih =>
    rw [evaluate_call hname rfl, build]
    exact ih
  | paren _ ih | reference _ ih | closure _ ih | block _ ih =>
    rw [evaluate]
    exact ih
  | method _ ih =>
    rw [evaluate, Resolution.result_map, ← ih]
    cases Expr.evaluate _ with
    | mk result notices =>
      cases result with
      | error why => rfl
      | ok s => exact congrArg Except.ok (base_combine _ _ s)

/-! ## Fields of a list -/

/-- The elements of a list, which may stand behind references and in parentheses. -/
inductive Listing : Expr → List Expr → Prop where
  | array {ts : List Tree} {elements : List Expr} : Listing (.array ts elements) elements
  | listMacro {ts : List Tree} {elements : List Expr} : Listing (.listMacro ts (some elements)) elements
  | paren {ts : List Tree} {e : Expr} {elements : List Expr} (h : Listing e elements) : Listing (.paren ts e) elements
  | reference {ts : List Tree} {e : Expr} {elements : List Expr} (h : Listing e elements) :
      Listing (.reference ts e) elements

/-- The name and the expression of a field: a pair that starts with the literal of a text. -/
def pair? : Expr → Option (String × Expr)
  | .tuple _ [nameExpr, value] => nameExpr.textValue?.map fun name => (name, value)
  | _ => none

/-- **The pairs in the call of the builder for objects** that an expression comes down to. -/
def HasPairs (e : Expr) (pairs : List (String × Expr)) : Prop :=
  ∃ argument more elements, e.ObjectCall (argument :: more) ∧ argument.Listing elements ∧
    elements.map pair? = pairs.map some

/-- The schema of a field: what its expression constructs, and anything if that cannot be told. -/
def fieldSchema (e : Expr) : Schema :=
  match e.evaluate.result with
  | .ok s => s
  | .error _ => .any

theorem result_orAny (e : Expr) (name : String) : (e.evaluate.orAny name).result = .ok e.fieldSchema := by
  rw [Resolution.orAny, fieldSchema]
  cases h : e.evaluate.result with
  | ok s => exact h
  | error why => rfl

theorem exists_of_pair? {e : Expr} {p : String × Expr} (h : e.pair? = some p) :
    ∃ ts nameExpr, e = .tuple ts [nameExpr, p.2] ∧ nameExpr.textValue? = some p.1 := by
  unfold pair? at h
  split at h
  · next ts nameExpr value =>
    obtain ⟨name, hname, rfl⟩ := Option.map_eq_some_iff.mp h
    exact ⟨ts, nameExpr, rfl, hname⟩
  · cases h

/-- `fieldsOf` reads pairs one by one, each with its `fieldSchema`. -/
theorem fieldsOf_of_pairs {elements : List Expr} {pairs : List (String × Expr)}
    (h : elements.map pair? = pairs.map some) :
    (fieldsOf elements).result = .ok (pairs.map fun p => (p.1, p.2.fieldSchema)) := by
  induction elements generalizing pairs with
  | nil =>
    cases pairs with
    | nil => rfl
    | cons => cases h
  | cons element rest ih =>
    cases pairs with
    | nil => cases h
    | cons p pairs =>
      rw [List.map_cons, List.map_cons, List.cons.injEq] at h
      obtain ⟨ts, nameExpr, rfl, hname⟩ := exists_of_pair? h.1
      rw [fieldsOf, hname, Resolution.result_bind rfl, Resolution.result_bind (result_orAny p.2 p.1),
        Resolution.result_bind (ih h.2)]
      rfl

theorem Listing.fieldList_eq {e : Expr} {elements : List Expr} (h : e.Listing elements) :
    e.fieldList = fieldsOf elements := by
  induction h with
  | array | listMacro => rw [fieldList]
  | paren _ ih | reference _ ih => rw [fieldList, ih]

/-- `fieldsOf` never fails with `.notObject`: what fails below a field is not reported. -/
theorem fieldsOf_ne_notObject (shown : String) : ∀ elements : List Expr,
    (fieldsOf elements).result ≠ .error (.notObject shown)
  | [] => fun h => nomatch h
  | .tuple _ [nameExpr, value] :: rest => by
    rw [fieldsOf]
    intro h
    -- the name, the field and the rest are read in turn, and none of them fails this way
    rcases Resolution.error_of_bind h with h | ⟨name, -, h⟩
    · cases hname : nameExpr.textValue? <;> rw [hname] at h <;> cases h
    rcases Resolution.error_of_bind h with h | ⟨field, -, h⟩
    · rw [result_orAny] at h
      cases h
    rcases Resolution.error_of_bind h with h | ⟨fields, -, h⟩
    · exact fieldsOf_ne_notObject shown rest h
    · cases h
  | .tuple _ [] :: _ | .tuple _ [_] :: _ | .tuple _ (_ :: _ :: _ :: _) :: _ => fun h => nomatch h
  | .paren .. :: _ | .reference .. :: _ | .closure .. :: _ | .block .. :: _ | .call .. :: _ | .method .. :: _
  | .path .. :: _ | .literal .. :: _ | .truth .. :: _ | .array .. :: _ | .listMacro .. :: _ | .other .. :: _ =>
    fun h => nomatch h

theorem fieldList_ne_notObject (shown : String) : ∀ e : Expr, e.fieldList.result ≠ .error (.notObject shown)
  | .array _ elements => by rw [fieldList]; exact fieldsOf_ne_notObject shown elements
  | .reference _ inner => by rw [fieldList]; exact fieldList_ne_notObject shown inner
  | .paren _ inner => by rw [fieldList]; exact fieldList_ne_notObject shown inner
  | .listMacro _ (some elements) => by rw [fieldList]; exact fieldsOf_ne_notObject shown elements
  | .listMacro _ none => by rw [fieldList]; exact fun h => Unsupported.noConfusion (Except.error.inj h)
  | .closure .. | .block .. | .call .. | .method .. | .path .. | .literal .. | .truth .. | .tuple ..
  | .other .. => fun h => Unsupported.noConfusion (Except.error.inj h)

/-! ## Recognized objects -/

theorem objectFields_of_evaluate {e : Expr} {s : Schema} {fields : Members Schema} (h : e.evaluate.result = .ok s)
    (hs : s.fields? = some fields) : e.objectFields.result = .ok fields := by
  rw [objectFields, Resolution.result_bind h, hs]
  rfl

theorem objectFields_of_error {e : Expr} {why : Unsupported} (h : e.evaluate.result = .error why) :
    e.objectFields.result = .error why := by
  show (Resolution.bind e.evaluate _).result = _
  rw [Resolution.bind, h]

/-- **`e.objectFields` is `callFields` of its `ObjectCall`.** -/
theorem ObjectCall.objectFields {e : Expr} {arguments : List Expr} (h : e.ObjectCall arguments) :
    e.objectFields.result = callFields arguments := by
  have hbase := h.base_evaluate
  rw [result_build_object] at hbase
  -- Below its layers the schema is that of the call, so one is there when the other is.
  cases hresult : e.evaluate.result with
  | error why =>
    rw [hresult] at hbase
    cases hcall : callFields arguments with
    | error other =>
      rw [hcall] at hbase
      rw [objectFields_of_error hresult, Except.error.inj hbase]
    | ok fields =>
      rw [hcall] at hbase
      cases hbase
  | ok s =>
    rw [hresult] at hbase
    cases hcall : callFields arguments with
    | error other =>
      rw [hcall] at hbase
      cases hbase
    | ok fields =>
      rw [hcall] at hbase
      exact objectFields_of_evaluate hresult (by rw [Schema.fields?, Except.ok.inj hbase])

/-- `e.objectFields` never fails with `.notObject` where `e` has an `ObjectCall`. -/
theorem ObjectCall.ne_notObject {e : Expr} {arguments : List Expr} (h : e.ObjectCall arguments) (shown : String) :
    e.objectFields.result ≠ .error (.notObject shown) := by
  rw [h.objectFields]
  cases arguments with
  | nil => exact fun h => nomatch h
  | cons first rest =>
    intro hnone
    rw [callFields] at hnone
    cases hfirst : first.fieldList.result with
    | ok pairs =>
      rw [hfirst] at hnone
      cases hnone
    | error why =>
      rw [hfirst] at hnone
      obtain rfl := Except.error.inj hnone
      exact fieldList_ne_notObject shown first hfirst

/-- `e.objectFields` where `e.HasPairs pairs`: `Members.ofList`, each pair with its `fieldSchema`. -/
theorem HasPairs.objectFields {e : Expr} {pairs : List (String × Expr)} (h : e.HasPairs pairs) :
    e.objectFields.result = .ok (Members.ofList (pairs.map fun p => (p.1, p.2.fieldSchema))) := by
  obtain ⟨argument, more, elements, hcall, hlisting, hpairs⟩ := h
  rw [hcall.objectFields, callFields, hlisting.fieldList_eq, fieldsOf_of_pairs hpairs]
  rfl

/-- **A recognized object is resolved field by field.** Where `e.buildsObject`, `e.objectFields` is never `.notObject`,
and what `e.evaluate` gives is an object with these fields. Where the call of the builder has a list of pairs,
`e.objectFields` gives the fields: their names are those of the pairs, each once and in the order in which they first
come, and each has the `fieldSchema` of its last expression. So in two such expressions a name with the same last
expression has the same schema, whatever becomes of the others. -/
theorem objectFields_fieldwise {e : Expr} (h : e.buildsObject = true) :
    (∀ s, e.evaluate.result = .ok s → ∃ fields, s.fields? = some fields ∧ e.objectFields.result = .ok fields) ∧
    (∀ shown, e.objectFields.result ≠ .error (.notObject shown)) ∧
    ∀ pairs, e.HasPairs pairs →
      ∃ fields, e.objectFields.result = .ok fields ∧
        Members.names fields = (pairs.map Prod.fst).eraseDups ∧
        (∀ name, Members.get? name fields = (Members.last? name pairs).map fieldSchema) ∧
        ∀ (e' : Expr) (pairs' : List (String × Expr)), e'.HasPairs pairs' →
          ∃ fields', e'.objectFields.result = .ok fields' ∧
            ∀ name, Members.last? name pairs' = Members.last? name pairs →
              Members.get? name fields' = Members.get? name fields := by
  have hget (name : String) (pairs : List (String × Expr)) :
      Members.get? name (Members.ofList (pairs.map fun p => (p.1, p.2.fieldSchema))) =
        (Members.last? name pairs).map fieldSchema := by
    rw [Members.get?_ofList, Members.last?_map]
  obtain ⟨arguments, hcall⟩ := exists_objectCall h
  refine ⟨fun s hs => ?_, hcall.ne_notObject, fun pairs hpairs => ?_⟩
  · -- what is read has fields, or it would be reported to be no object
    cases hfields : s.fields? with
    | some fields => exact ⟨fields, rfl, objectFields_of_evaluate hs hfields⟩
    | none =>
      have hnone : e.objectFields.result = .error (.notObject e.shown) := by
        rw [objectFields, Resolution.result_bind hs, hfields]
        rfl
      exact absurd hnone (hcall.ne_notObject e.shown)
  · refine ⟨_, hpairs.objectFields, ?_, fun name => hget name pairs, fun e' pairs' hpairs' => ?_⟩
    · rw [Members.names_ofList, List.map_map]
      rfl
    · refine ⟨_, hpairs'.objectFields, fun name hlast => ?_⟩
      rw [hget, hget, hlast]

/-! ## An object behind an initializer -/

/-- `LazyLock::new(|| { object(&vec![("title", string()), ("author", find()), ("title", number())]).refine() })`. -/
def lazyPost : Expr :=
  .call [] (.path [] "new" []) [.closure [] [] (.block [] [] (some (.method []
    (.call [] (.path [] "object" []) [.reference [] (.listMacro [] (some [
      .tuple [] [.literal [] "\"title\"", .call [] (.path [] "string" []) []],
      .tuple [] [.literal [] "\"author\"", .call [] (.path [] "find" []) []],
      .tuple [] [.literal [] "\"title\"", .call [] (.path [] "number" []) []]]))])
    "refine" [] [])))]

/-- The pairs of the object. -/
def postPairs : List (String × Expr) :=
  [("title", .call [] (.path [] "string" []) []), ("author", .call [] (.path [] "find" []) []),
    ("title", .call [] (.path [] "number" []) [])]

theorem hasPairs_lazyPost : lazyPost.HasPairs postPairs := by
  refine ⟨_, _, _, .lazy rfl (.closure (.block (.method (.object rfl)))), .reference .listMacro, ?_⟩
  have htitle : Literal.textValue? "\"title\"" = some "title" := by decide +kernel
  have hauthor : Literal.textValue? "\"author\"" = some "author" := by decide +kernel
  simp [pair?, textValue?, htitle, hauthor, postPairs]

/-- `objectFields` of that: `title` is a number, as its last pair says, and of `author` nothing is known. -/
theorem objectFields_lazyPost : lazyPost.buildsObject = true ∧
    ∃ fields, lazyPost.objectFields.result = .ok fields ∧ Members.names fields = ["title", "author"] ∧
      Members.get? "title" fields = some .number ∧ Members.get? "author" fields = some .any := by
  have hbuilds : lazyPost.buildsObject = true := by
    obtain ⟨argument, more, elements, hcall, -⟩ := hasPairs_lazyPost
    exact hcall.buildsObject
  obtain ⟨-, -, hfieldwise⟩ := objectFields_fieldwise hbuilds
  obtain ⟨fields, hfields, hnames, hget, -⟩ := hfieldwise postPairs hasPairs_lazyPost
  refine ⟨hbuilds, fields, hfields, hnames, (hget "title").trans ?_, (hget "author").trans ?_⟩
  · show some (fieldSchema (.call [] (.path [] "number" []) [])) = some .number
    rw [fieldSchema, evaluate_call rfl rfl]
    rfl
  · rfl

end Expr

end Source

end RouteContracts
