import RouteContracts.Proofs.Schema.Outline
import RouteContracts.Source.Construction

/-! # What expressions construct
An expression of builder calls and combinators has a meaning of its own: the schema that it constructs when
it is run. There, defaults and fallbacks are whatever their arguments compute, and refinements have their
conditions. `Expr.Constructs` gives the meaning by rules, one per form, apart from how it is read off the
syntax.

* `Expr.Constructs`, `Expr.Declares`: **the schema that an expression constructs**, and the fields that a
  list of pairs declares.
* `Expr.Constructs.evaluate`: the schema read off the syntax is alike to the one that is constructed.
* `Expr.Constructs.buildsObject`: a constructed object is recognized as one. -/

namespace RouteContracts.Source

namespace Expr

/-- The combinators that do not count as refinements. -/
def layerNames : List String := ["optional", "nullable", "nullish", "default", "catch", "coerce"]

/-- The combinators that hand on the schema itself. -/
def handOnNames : List String := ["clone", "into", "to_owned"]

/-! ## The meaning of expressions -/

/-- The texts of an array of literals. -/
inductive ListsTexts : Expr → List String → Prop where
  | array {ts : List Tree} {elements : List Expr} {options : List String}
      (h : elements.map textValue? = options.map some) : ListsTexts (.array ts elements) options
  | reference {ts : List Tree} {e : Expr} {options : List String} (h : ListsTexts e options) :
      ListsTexts (.reference ts e) options

mutual

/-- **The schema that an expression constructs when it is run.** -/
inductive Constructs : Expr → Schema → Prop where
  | paren {ts : List Tree} {e : Expr} {s : Schema} (h : Constructs e s) : Constructs (.paren ts e) s
  | reference {ts : List Tree} {e : Expr} {s : Schema} (h : Constructs e s) : Constructs (.reference ts e) s
  | closure {ts : List Tree} {before : List Item} {body : Expr} {s : Schema} (h : Constructs body s) :
      Constructs (.closure ts before body) s
  | block {ts : List Tree} {before : List Item} {e : Expr} {s : Schema} (h : Constructs e s) :
      Constructs (.block ts before (some e)) s
  /-- A value that is made on first use. -/
  | lazy {ts : List Tree} {callee e : Expr} {s : Schema} (hname : callee.calleeName? = some "new")
      (h : Constructs e s) : Constructs (.call ts callee [e]) s
  | string {ts : List Tree} {callee : Expr} (hname : callee.calleeName? = some "string") :
      Constructs (.call ts callee []) .string
  | number {ts : List Tree} {callee : Expr} (hname : callee.calleeName? = some "number") :
      Constructs (.call ts callee []) .number
  | boolean {ts : List Tree} {callee : Expr} (hname : callee.calleeName? = some "boolean") :
      Constructs (.call ts callee []) .boolean
  | null {ts : List Tree} {callee : Expr} (hname : callee.calleeName? = some "null") :
      Constructs (.call ts callee []) .null
  | undefined {ts : List Tree} {callee : Expr} (hname : callee.calleeName? = some "undefined") :
      Constructs (.call ts callee []) .undefined
  | any {ts : List Tree} {callee : Expr} (hname : callee.calleeName? = some "any") :
      Constructs (.call ts callee []) .any
  /-- Exactly the value that the argument computes. -/
  | literal {ts : List Tree} {callee argument : Expr} (hname : callee.calleeName? = some "literal")
      (value : Json) : Constructs (.call ts callee [argument]) (.literal value)
  | enumeration {ts : List Tree} {callee e : Expr} {options : List String}
      (hname : callee.calleeName? = some "enumeration") (h : ListsTexts e options) :
      Constructs (.call ts callee [e]) (.enumeration options)
  | array {ts : List Tree} {callee e : Expr} {s : Schema} (hname : callee.calleeName? = some "array")
      (h : Constructs e s) : Constructs (.call ts callee [e]) (.array s)
  /-- An object; of two fields of one name the first gives the place and the last the schema. -/
  | object {ts : List Tree} {callee e : Expr} {fields : List (String × Schema)}
      (hname : callee.calleeName? = some "object") (h : Declares e fields) :
      Constructs (.call ts callee [e]) (.object (Members.ofList fields))
  | optional {ts : List Tree} {receiver : Expr} {types : List Item} {arguments : List Expr} {s : Schema}
      (h : Constructs receiver s) :
      Constructs (.method ts receiver "optional" types arguments) (.optional s)
  | nullable {ts : List Tree} {receiver : Expr} {types : List Item} {arguments : List Expr} {s : Schema}
      (h : Constructs receiver s) :
      Constructs (.method ts receiver "nullable" types arguments) (.nullable s)
  | nullish {ts : List Tree} {receiver : Expr} {types : List Item} {arguments : List Expr} {s : Schema}
      (h : Constructs receiver s) :
      Constructs (.method ts receiver "nullish" types arguments) s.nullish
  /-- The default is what the argument computes. -/
  | default {ts : List Tree} {receiver : Expr} {types : List Item} {arguments : List Expr} {s : Schema}
      (h : Constructs receiver s) (value : Json) :
      Constructs (.method ts receiver "default" types arguments) (.default s value)
  /-- The fallback is what the argument computes. -/
  | catching {ts : List Tree} {receiver : Expr} {types : List Item} {arguments : List Expr} {s : Schema}
      (h : Constructs receiver s) (value : Json) :
      Constructs (.method ts receiver "catch" types arguments) (.catching s value)
  | coerce {ts : List Tree} {receiver : Expr} {types : List Item} {arguments : List Expr} {s : Schema}
      (h : Constructs receiver s) :
      Constructs (.method ts receiver "coerce" types arguments) (.coerce s)
  /-- The schema itself. -/
  | handOn {ts : List Tree} {receiver : Expr} {name : String} {types : List Item} {arguments : List Expr}
      {s : Schema} (hname : name ∈ handOnNames) (h : Constructs receiver s) :
      Constructs (.method ts receiver name types arguments) s
  /-- A refinement, with whatever condition and message. -/
  | refinement {ts : List Tree} {receiver : Expr} {name : String} {types : List Item}
      {arguments : List Expr} {s : Schema} (hname : name ∉ layerNames) (h : Constructs receiver s)
      (r : Refinement) : Constructs (.method ts receiver name types arguments) (.effects s r)

/-- The fields that a list of pairs declares, in order. -/
inductive Declares : Expr → List (String × Schema) → Prop where
  | array {ts : List Tree} {elements : List Expr} {fields : List (String × Schema)}
      (h : Pairs elements fields) : Declares (.array ts elements) fields
  | listMacro {ts : List Tree} {elements : List Expr} {fields : List (String × Schema)}
      (h : Pairs elements fields) : Declares (.listMacro ts (some elements)) fields
  | paren {ts : List Tree} {e : Expr} {fields : List (String × Schema)} (h : Declares e fields) :
      Declares (.paren ts e) fields
  | reference {ts : List Tree} {e : Expr} {fields : List (String × Schema)} (h : Declares e fields) :
      Declares (.reference ts e) fields

/-- The fields of some pairs, each a text and an expression. -/
inductive Pairs : List Expr → List (String × Schema) → Prop where
  | nil : Pairs [] []
  | cons {ts : List Tree} {nameExpr value : Expr} {name : String} {s : Schema} {rest : List Expr}
      {fields : List (String × Schema)} (hname : nameExpr.textValue? = some name) (h : Constructs value s)
      (hrest : Pairs rest fields) : Pairs (.tuple ts [nameExpr, value] :: rest) ((name, s) :: fields)

end

end Expr

/-! ## Resolutions -/

namespace Resolution

variable {α β : Type}

/-- `>>=` goes on with the result. -/
theorem result_bind {r : Resolution α} {a : α} (h : r.result = .ok a) (f : α → Resolution β) :
    (r >>= f).result = (f a).result := by
  show (r.bind f).result = (f a).result
  rw [Resolution.bind, h]

@[simp] theorem result_pure (a : α) : (pure a : Resolution α).result = .ok a := rfl

/-- `orAny` keeps the schema of a field that is resolved. -/
theorem orAny_of_ok {r : Resolution Schema} {s : Schema} (h : r.result = .ok s) (field : String) :
    (r.orAny field).result = .ok s := by
  rw [orAny, h]
  exact h

end Resolution

namespace Expr

/-! ## Reading the meaning off the syntax -/

/-- `texts` of literals are their values, in order. -/
theorem texts_of_map {elements : List Expr} {options : List String}
    (h : elements.map textValue? = options.map some) : (texts elements).result = .ok options := by
  induction elements generalizing options with
  | nil =>
    cases options with
    | nil => rfl
    | cons => cases h
  | cons e rest ih =>
    cases options with
    | nil => cases h
    | cons o options =>
      rw [List.map_cons, List.map_cons, List.cons.injEq] at h
      rw [texts, h.1, Resolution.result_bind rfl, Resolution.result_bind (ih h.2)]
      rfl

/-- `textList` reads the texts of an array, also behind references. -/
theorem ListsTexts.textList {e : Expr} {options : List String} (h : e.ListsTexts options) :
    e.textList.result = .ok options := by
  induction h with
  | array h => exact texts_of_map h
  | reference _ ih => exact ih

/-- `evaluate` of a call by a `Builder`'s name is `build`. -/
theorem evaluate_call {callee : Expr} {name : String} {b : Builder} (hname : callee.calleeName? = some name)
    (hb : Builder.ofName? name = some b) (ts : List Tree) (arguments : List Expr) :
    (Expr.call ts callee arguments).evaluate = build name b arguments := by
  simp only [evaluate, hname, hb]

/-- `evaluate` of a method call is `combine` with the schema of its receiver. -/
theorem evaluate_method {receiver : Expr} {s : Schema} (h : receiver.evaluate.result = .ok s)
    (ts : List Tree) (name : String) (types : List Item) (arguments : List Expr) :
    (Expr.method ts receiver name types arguments).evaluate.result =
      .ok (combine name (firstValue arguments) s) := by
  rw [evaluate, Resolution.result_bind h]
  rfl

/-- `handOnNames` are no `layerNames`. -/
theorem not_layer_of_handsOn {name : String} (hname : name ∈ handOnNames) : name ∉ layerNames := by
  have h : ∀ name ∈ handOnNames, name ∉ layerNames := by decide
  exact h name hname

/-- `combine` with a name that is no layer keeps `Alike`. -/
theorem combine_alike {name : String} (hname : name ∉ layerNames) {s t : Schema} (h : s.Alike t)
    (argument : Json) : (combine name argument s).Alike t := by
  simp only [layerNames, List.mem_cons, List.not_mem_nil, or_false, not_or] at hname
  unfold combine
  split
  · exact absurd rfl hname.1
  · exact absurd rfl hname.2.1
  · exact absurd rfl hname.2.2.1
  · exact absurd rfl hname.2.2.2.1
  · exact absurd rfl hname.2.2.2.2.1
  · exact absurd rfl hname.2.2.2.2.2
  · exact h
  · exact h
  · exact h
  · exact h.effects_left _

mutual

/-- **`e.evaluate` gives a schema that is `Alike` the one that `e.Constructs`.** -/
theorem Constructs.evaluate : ∀ {e : Expr} {s : Schema}, e.Constructs s →
    ∃ s', e.evaluate.result = .ok s' ∧ s'.Alike s
  | _, _, .paren h | _, _, .reference h | _, _, .closure h | _, _, .block h => h.evaluate
  | _, _, .lazy hname h => by
    rw [evaluate_call hname rfl]
    exact h.evaluate
  | _, _, .string hname | _, _, .number hname | _, _, .boolean hname | _, _, .null hname
  | _, _, .undefined hname | _, _, .any hname => by
    rw [evaluate_call hname rfl]
    exact ⟨_, rfl, .refl _⟩
  | _, _, .literal hname value => by
    rw [evaluate_call hname rfl]
    exact ⟨_, rfl, .literal _ value⟩
  | _, _, .enumeration hname h => by
    rw [evaluate_call hname rfl, build, Resolution.result_bind h.textList]
    exact ⟨_, rfl, .refl _⟩
  | _, _, .array hname h => by
    obtain ⟨s', hs, alike⟩ := h.evaluate
    rw [evaluate_call hname rfl, build, Resolution.result_bind hs]
    exact ⟨_, rfl, alike.array⟩
  | _, _, .object hname h => by
    obtain ⟨fields', hf, houtline⟩ := h.fieldList
    rw [evaluate_call hname rfl, build, Resolution.result_bind hf]
    refine ⟨_, rfl, .object ?_⟩
    rw [Schema.outline, Schema.outline, Members.map_ofList, Members.map_ofList]
    exact congrArg Members.ofList houtline
  | _, _, .optional h => by
    obtain ⟨s', hs, alike⟩ := h.evaluate
    exact ⟨_, evaluate_method hs .., alike.optional⟩
  | _, _, .nullable h => by
    obtain ⟨s', hs, alike⟩ := h.evaluate
    exact ⟨_, evaluate_method hs .., alike.nullable⟩
  | _, _, .nullish h => by
    obtain ⟨s', hs, alike⟩ := h.evaluate
    exact ⟨_, evaluate_method hs .., alike.nullable.optional⟩
  | _, _, .default h value => by
    obtain ⟨s', hs, alike⟩ := h.evaluate
    exact ⟨_, evaluate_method hs .., alike.default _ value⟩
  | _, _, .catching h value => by
    obtain ⟨s', hs, alike⟩ := h.evaluate
    exact ⟨_, evaluate_method hs .., alike.catching _ value⟩
  | _, _, .coerce h => by
    obtain ⟨s', hs, alike⟩ := h.evaluate
    exact ⟨_, evaluate_method hs .., alike.coerce⟩
  | _, _, .handOn hname h => by
    obtain ⟨s', hs, alike⟩ := h.evaluate
    exact ⟨_, evaluate_method hs .., combine_alike (not_layer_of_handsOn hname) alike _⟩
  -- a refinement changes neither the shape nor the fields
  | _, _, .refinement hname h r => by
    obtain ⟨s', hs, alike⟩ := h.evaluate
    exact ⟨_, evaluate_method hs .., (combine_alike hname alike _).effects_right r⟩

/-- `e.fieldList` gives fields with the `outline` of those that `e.Declares`. -/
theorem Declares.fieldList : ∀ {e : Expr} {fields : List (String × Schema)}, e.Declares fields →
    ∃ fields', e.fieldList.result = .ok fields' ∧ Schema.outline fields' = Schema.outline fields
  | _, _, .array h | _, _, .listMacro h => h.fieldsOf
  | _, _, .paren h | _, _, .reference h => h.fieldList

/-- `fieldsOf` gives fields with the `outline` of those of `Pairs`. -/
theorem Pairs.fieldsOf : ∀ {elements : List Expr} {fields : List (String × Schema)}, Pairs elements fields →
    ∃ fields', (fieldsOf elements).result = .ok fields' ∧ Schema.outline fields' = Schema.outline fields
  | _, _, .nil => ⟨[], rfl, rfl⟩
  | _, _, @Pairs.cons _ _ _ name _ _ _ hname h hrest => by
    obtain ⟨s', hs, alike⟩ := h.evaluate
    obtain ⟨fields', hf, houtline⟩ := hrest.fieldsOf
    rw [Expr.fieldsOf, hname, Resolution.result_bind rfl,
      Resolution.result_bind (Resolution.orAny_of_ok hs name), Resolution.result_bind hf]
    refine ⟨_, rfl, ?_⟩
    rw [Schema.outline, List.map_cons, alike.shape]
    exact congrArg (List.cons _) houtline

end

/-- **`e.buildsObject` holds where `e.Constructs` a schema of an object.** -/
theorem Constructs.buildsObject : ∀ {e : Expr} {s : Schema}, e.Constructs s → s.fields?.isSome = true →
    e.buildsObject = true
  | _, _, .paren h, hs | _, _, .reference h, hs | _, _, .closure h, hs | _, _, .block h, hs =>
    h.buildsObject hs
  | _, _, .lazy hname h, hs => by
    rw [Expr.buildsObject, hname]
    exact h.buildsObject hs
  | _, _, .object hname _, _ => by
    rw [Expr.buildsObject, hname]
    rfl
  | _, _, .optional h, hs | _, _, .nullable h, hs | _, _, .nullish h, hs | _, _, .default h _, hs
  | _, _, .catching h _, hs | _, _, .coerce h, hs | _, _, .handOn _ h, hs
  | _, _, .refinement _ h _, hs => h.buildsObject hs
  | _, _, .string _, hs | _, _, .number _, hs | _, _, .boolean _, hs | _, _, .null _, hs
  | _, _, .undefined _, hs | _, _, .any _, hs | _, _, .literal _ _, hs | _, _, .enumeration _ _, hs
  | _, _, .array _ _, hs => nomatch hs

end Expr

end RouteContracts.Source
