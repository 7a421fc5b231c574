import RouteContracts.Proofs.Schema.Outputs

/-! # Undeclared names and the order of names
A check asks an object for its members by name, and only for the names that the schema declares. So a value may be
pruned first: wherever the schema has an object, what it does not declare is dropped, and the rest is put in the order
of declaration. What a refinement sees is an output, which is pruned already.

* `Schema.prune`: a value without what is not declared. `Schema.Trim`: nothing is left to prune.
* `Schema.trim_prune`, `Schema.Trim.prune_eq`: **pruning leaves trim values, and leaves them as they are.**
* `Schema.check_prune`: a value, present or absent, is checked as it is when pruned.
* `Schema.safeParse_prune`: **undeclared names and the order of names do not matter.** -/

namespace RouteContracts

namespace Schema

mutual

/-- **A value without what a schema does not declare.** Objects that the schema reads as such keep their declared names,
in the order of declaration; all other values are left as they are. -/
def prune : Schema → Json → Json
  | .optional inner, v | .nullable inner, v | .default inner _, v | .catching inner _, v | .effects inner _, v
  | .coerce inner, v => prune inner v
  | .object fields, v =>
    match v with
    | .object members => .object (pruneFields fields members)
    | v => v
  | .array element, v =>
    match v with
    | .array items => .array (items.map fun item => prune element item)
    | v => v
  | _, v => v

/-- The declared members of an object, pruned, in the order of declaration. -/
def pruneFields : List (String × Schema) → Members Json → Members Json
  | [], _ => []
  | (name, field) :: rest, members =>
    match Members.get? name members with
    | some v => (name, prune field v) :: pruneFields rest members
    | none => pruneFields rest members

end

/-- **Nothing is left to prune**: every object that the schema reads as such has declared names only, in the order of
declaration. -/
inductive Trim : Schema → Json → Prop where
  /-- An object with declared names only. -/
  | object {fields : List (String × Schema)} {members : Members Json}
      (names : (members.map Prod.fst).Sublist (fields.map Prod.fst))
      (below : ∀ f ∈ fields, ∀ v, Members.get? f.1 members = some v → Trim f.2 v) :
      Trim (.object fields) (.object members)
  /-- A list of trim items. -/
  | array {element : Schema} {items : List Json} (below : ∀ item ∈ items, Trim element item) :
      Trim (.array element) (.array items)
  /-- Under a layer. -/
  | layer {s inner : Schema} {v : Json} (h : s.inner? = some inner) (below : Trim inner v) : Trim s v
  /-- A value that is no object where one is declared. -/
  | noObject {fields : List (String × Schema)} {v : Json} (h : v.asObject? = none) : Trim (.object fields) v
  /-- A value that is no list where one is declared. -/
  | noArray {element : Schema} {v : Json} (h : v.asArray? = none) : Trim (.array element) v
  /-- Any value where the schema has no parts. -/
  | leaf {s : Schema} {v : Json} (h : s.isLeaf = true) : Trim s v

/-! ## Pruning -/

/-- Structural induction with one case for all layers. -/
theorem layer_induction {motive : Schema → Prop} (leaf : ∀ s, s.isLeaf = true → motive s)
    (object : ∀ fields : List (String × Schema), (∀ f ∈ fields, motive f.2) → motive (.object fields))
    (array : ∀ element, motive element → motive (.array element))
    (layer : ∀ s inner, s.inner? = some inner → motive inner → motive s) (s : Schema) : motive s := by
  induction s with
  | string | number | boolean | null | undefined | any | literal | enumeration => exact leaf _ rfl
  | object fields ih => exact object fields ih
  | array element ih => exact array element ih
  | optional inner ih | nullable inner ih | coerce inner ih => exact layer _ inner rfl ih
  | default inner value ih | catching inner value ih => exact layer _ inner rfl ih
  | effects inner refinement ih => exact layer _ inner rfl ih

/-- `s.prune` is `inner.prune` where `s.inner? = some inner`. -/
theorem prune_of_inner? {s inner : Schema} (h : s.inner? = some inner) (v : Json) : s.prune v = inner.prune v := by
  cases s with
  | optional | nullable | default | catching | effects | coerce =>
    obtain rfl := Option.some.inj h
    rw [prune]
  | string | number | boolean | null | undefined | any | literal | enumeration | object | array => cases h

/-- `s.prune v = v` for a leaf. -/
theorem prune_leaf {s : Schema} (hleaf : s.isLeaf = true) (v : Json) : s.prune v = v := by
  cases s with
  | string | number | boolean | null | undefined | any | literal | enumeration => rw [prune] <;> exact nofun
  | object | array | optional | nullable | default | catching | effects | coerce => cases hleaf

/-- **`pruneFields` field by field**: `get?` of each name, pruned. -/
theorem pruneFields_eq (fields : List (String × Schema)) (members : Members Json) :
    pruneFields fields members =
      fields.filterMap fun f => ((Members.get? f.1 members).map f.2.prune).map fun v => (f.1, v) := by
  induction fields with
  | nil => rfl
  | cons f rest ih =>
    obtain ⟨name, field⟩ := f
    rw [pruneFields]
    cases hget : Members.get? name members <;> simp [hget, ih]

/-- `get?` of a declared name in `pruneFields` is what stood there, pruned. -/
theorem get?_pruneFields {fields : List (String × Schema)} (names : (fields.map Prod.fst).Nodup)
    {f : String × Schema} (hf : f ∈ fields) (members : Members Json) :
    Members.get? f.1 (pruneFields fields members) = (Members.get? f.1 members).map f.2.prune := by
  rw [pruneFields_eq]
  exact Members.get?_filterMap names (fun f => (Members.get? f.1 members).map f.2.prune) hf

/-- The names of `pruneFields` are a sublist of those declared. -/
theorem names_pruneFields (fields : List (String × Schema)) (members : Members Json) :
    ((pruneFields fields members).map Prod.fst).Sublist (fields.map Prod.fst) := by
  induction fields with
  | nil => exact List.Sublist.refl _
  | cons f rest ih =>
    rw [pruneFields]
    split
    · exact ih.cons_cons _
    · -- A field that the object lacks leaves no name.
      exact ih.cons _

/-- `prune` keeps the kind of a value. -/
theorem kind_prune (s : Schema) (v : Json) : (s.prune v).kind = v.kind := by
  induction s using layer_induction with
  | leaf s hleaf => rw [prune_leaf hleaf]
  | object fields => cases v <;> rfl
  | array element => cases v <;> rfl
  | layer s inner hinner ih => rw [prune_of_inner? hinner, ih]

/-- `s.prune v = .null` exactly if `v = .null`. -/
theorem prune_eq_null_iff {s : Schema} {v : Json} : s.prune v = .null ↔ v = .null := by
  have hnull : ∀ w : Json, w = .null ↔ w.kind = "null" := by
    intro w
    cases w <;> simp [Json.kind]
  rw [hnull, hnull, kind_prune]

/-! ## Trim values -/

/-- **`s.prune v` is `Trim`.** -/
theorem trim_prune {s : Schema} (names : s.Everywhere fun t => t.fieldNames.Nodup) (v : Json) : s.Trim (s.prune v) := by
  induction s using layer_induction generalizing v with
  | leaf s hleaf => exact .leaf hleaf
  | object fields ih =>
    cases v with
    | object members =>
      rw [prune]
      refine .object (names_pruneFields fields members) fun f hf w hw => ?_
      -- under the name of a field stands the pruned value that was given under it
      rw [get?_pruneFields names.here hf] at hw
      obtain ⟨given, -, rfl⟩ := Option.map_eq_some_iff.mp hw
      exact ih f hf (names.field hf) given
    | null | bool _ | number _ | string _ | array _ => exact .noObject rfl
  | array element ih =>
    cases v with
    | array items =>
      rw [prune]
      refine .array fun item hitem => ?_
      obtain ⟨given, -, rfl⟩ := List.mem_map.mp hitem
      exact ih names.element given
    | null | bool _ | number _ | string _ | object _ => exact .noArray rfl
  | layer s inner hinner ih =>
    rw [prune_of_inner? hinner]
    exact .layer hinner (ih (names.inner hinner) v)

/-- Members in the order of declaration are found in that order by `get?`. -/
theorem filterMap_get?_of_sublist {fields : List (String × Schema)} (names : (fields.map Prod.fst).Nodup)
    {members : Members Json} (hsub : (members.map Prod.fst).Sublist (fields.map Prod.fst)) :
    (fields.filterMap fun f => (Members.get? f.1 members).map fun v => (f.1, v)) = members := by
  induction fields generalizing members with
  | nil =>
    rw [List.map_nil, List.sublist_nil, List.map_eq_nil_iff] at hsub
    rw [hsub]
    rfl
  | cons f rest ih =>
    obtain ⟨hfresh, hrest⟩ := List.nodup_cons.mp names
    rcases List.sublist_cons_iff.mp hsub with hsub | ⟨later, hnames, hsub⟩
    · -- No member has the name of this field.
      have hnone : Members.get? f.1 members = none := Members.get?_eq_none_iff.mpr fun h => hfresh (hsub.subset h)
      rw [List.filterMap_cons_none (by rw [hnone]; rfl)]
      exact ih hrest hsub
    · obtain ⟨m, others, rfl, hname, rfl⟩ := List.map_eq_cons_iff.mp hnames
      have hothers : ∀ g ∈ rest, Members.get? g.1 (m :: others) = Members.get? g.1 others := by
        intro g hg
        have hne : m.1 ≠ g.1 := fun heq => hfresh (by rw [← hname, heq]; exact List.mem_map_of_mem hg)
        rw [Members.get?, if_neg hne]
      have hfirst : Members.get? f.1 (m :: others) = some m.2 := by
        rw [Members.get?, if_pos hname]
      rw [List.filterMap_cons_some (by rw [hfirst]; rfl), ← hname]
      refine congrArg (m :: ·) ((List.filterMap_congr fun g hg => ?_).trans (ih hrest hsub))
      rw [hothers g hg]

/-- **A `Trim` value is left by `prune` as it is.** -/
theorem Trim.prune_eq {s : Schema} (names : s.Everywhere fun t => t.fieldNames.Nodup) {v : Json} (h : s.Trim v) :
    s.prune v = v := by
  -- The induction is on why the value is trim, so that below an object it is only asked for what is there.
  induction h with
  | @object fields members hsub _ ih =>
    rw [prune, pruneFields_eq]
    refine congrArg Json.object ((List.filterMap_congr fun f hf => ?_).trans
      (filterMap_get?_of_sublist names.here hsub))
    cases hget : Members.get? f.1 members with
    | none => rfl
    | some v => rw [Option.map_some, ih f hf v hget (names.field hf)]
  | @array element items _ ih =>
    rw [prune]
    exact congrArg Json.array ((List.map_congr_left fun item hitem => ih item hitem names.element).trans
      (List.map_id items))
  | layer hinner _ ih => rw [prune_of_inner? hinner, ih (names.inner hinner)]
  | @noObject fields v h =>
    cases v with
    | object members => cases h
    | null | bool _ | number _ | string _ | array _ => rfl
  | @noArray element v h =>
    cases v with
    | array items => cases h
    | null | bool _ | number _ | string _ | object _ => rfl
  | leaf hleaf => exact prune_leaf hleaf _

/-! ## Checks of pruned values -/

/-- `prune` commutes with `coerceTo s.base`: only texts, numbers and truth values are converted. -/
theorem coerceTo_prune (s : Schema) (v : Json) : coerceTo s.base (s.prune v) = s.prune (coerceTo s.base v) := by
  induction s using layer_induction with
  | leaf s hleaf => rw [prune_leaf hleaf, prune_leaf hleaf]
  | object fields => simp only [base, coerceTo]
  | array element => simp only [base, coerceTo]
  | layer s inner hinner ih => rw [prune_of_inner? hinner, prune_of_inner? hinner, base_of_inner? hinner, ih]

/-- **`s.check` of a pruned value, present or absent, is that of the value.** -/
theorem check_prune {s : Schema} (names : s.Everywhere fun t => t.fieldNames.Nodup) (v : Option Json) :
    s.check (v.map s.prune) [] [] = s.check v [] [] := by
  -- The value stays general, absence included: a layer may fill in another one or convert it first.
  induction s generalizing v with
  | string | number | boolean | null | undefined | any | literal | enumeration =>
    rw [Option.map_congr fun w _ => prune_leaf rfl w, Option.map_id']
  | object fields ih =>
    cases v with
    | none => rfl
    | some v =>
      cases v with
      | object members =>
        -- Fields are looked up by name, and the look-up does not see what was dropped or moved.
        have hfields : ∀ f ∈ fields, checkField f (pruneFields fields members) = checkField f members := by
          intro f hf
          rw [checkField, get?_pruneFields names.here hf]
          exact ih f hf (names.field hf) _
        simp only [Option.map_some, prune, check]
        rw [checkFields_congr hfields]
      | null | bool _ | number _ | string _ | array _ => rfl
  | array element ih =>
    cases v with
    | none => rfl
    | some v =>
      cases v with
      | array items =>
        have hitems : ∀ item ∈ items, checkItem element (element.prune item) = checkItem element item :=
          fun item _ => ih names.element (some item)
        simp only [Option.map_some, prune, check]
        rw [checkItems_map hitems]
      | null | bool _ | number _ | string _ | object _ => rfl
  | optional inner ih =>
    cases v with
    | none => rfl
    | some v => exact ih (names.inner rfl) (some v)
  | nullable inner ih =>
    by_cases hv : v = some .null
    · rw [hv, Option.map_some, prune_eq_null_iff.mpr rfl]
    · have hpruned : v.map (Schema.nullable inner).prune ≠ some .null := by
        intro h
        obtain ⟨w, rfl, hw⟩ := Option.map_eq_some_iff.mp h
        exact hv (congrArg some (prune_eq_null_iff.mp hw))
      rw [check_nullable hv, check_nullable hpruned]
      exact ih (names.inner rfl) v
  | default inner fallback ih =>
    cases v with
    | none => rfl
    | some v => exact ih (names.inner rfl) (some v)
  | catching inner fallback ih =>
    have hcheck : inner.check (v.map (Schema.catching inner fallback).prune) [] [] = inner.check v [] [] :=
      ih (names.inner rfl) v
    simp only [check, hcheck]
  | effects inner refinement ih =>
    -- The condition is asked about the output, which is the same.
    have hcheck : inner.check (v.map (Schema.effects inner refinement).prune) [] [] = inner.check v [] [] :=
      ih (names.inner rfl) v
    simp only [check, hcheck]
  | coerce inner ih =>
    -- What is converted is no object and no list, and so pruned to itself.
    have hconverted : (v.map (Schema.coerce inner).prune).map (coerceTo inner.base) =
        (v.map (coerceTo inner.base)).map inner.prune := by
      cases v with
      | none => rfl
      | some v => exact congrArg some (coerceTo_prune inner v)
    simp only [check, hconverted]
    exact ih (names.inner rfl) _

/-- **Undeclared names and the order of names do not matter.** `s.prune v` is `Trim`, leaves a `Trim` value as it is,
and has the `safeParse` of `v`; so `safeParse` of two values is the same if `prune` makes them equal. -/
theorem safeParse_prune {s : Schema} (names : s.Everywhere fun t => t.fieldNames.Nodup) (v : Json) :
    s.Trim (s.prune v) ∧ (s.Trim v → s.prune v = v) ∧ s.safeParse (s.prune v) = s.safeParse v ∧
      ∀ other, s.prune other = s.prune v → s.safeParse other = s.safeParse v := by
  have hparse : ∀ w, s.safeParse (s.prune w) = s.safeParse w := by
    intro w
    have hcheck := check_prune names (some w)
    rw [Option.map_some] at hcheck
    rw [safeParse, safeParse, hcheck]
  refine ⟨trim_prune names v, fun h => h.prune_eq names, hparse v, fun other hother => ?_⟩
  rw [← hparse other, hother, hparse v]

/-- A basket has a number, and lines of an article and a count; how it is paid is left as it is. -/
def basketSchema : Schema :=
  .effects (.object [("number", .coerce .number), ("lines", .optional (.array (.object
    [("article", .string), ("count", .default (.coerce .number) (.string "12"))]))), ("payment", .any)])
    (.of "Empty" fun v => (v.get? "lines").isSome)

/-- A basket with other names in it and in its lines. -/
def basketValue (number : Json) : Json :=
  .object [("payment", .object [("by", .string "card"), ("at", .null)]), ("seen", .bool true),
    ("lines", .array
      [.object [("count", .string "2"), ("shelf", .number (.int 4 (by decide))), ("article", .string "nut")],
        .object [("article", .string "bolt")]]), ("number", number)]

/-- The basket in the order of the schema, without other names. -/
def basketPruned (number : Json) : Json :=
  .object [("number", number), ("lines", .array [.object [("article", .string "nut"), ("count", .string "2")],
    .object [("article", .string "bolt")]]), ("payment", .object [("by", .string "card"), ("at", .null)])]

/-- What is made of the basket. -/
def basketOutput : Json :=
  .object [("number", .number (.int 815 (by decide))), ("lines", .array
    [.object [("article", .string "nut"), ("count", .number (.int 2 (by decide)))],
      .object [("article", .string "bolt"), ("count", .number (.int 12 (by decide)))]]),
    ("payment", .object [("by", .string "card"), ("at", .null)])]

/-- Two baskets that are pruned: one is accepted, and one has a number that is none. -/
theorem safeParse_prune_basket : (basketSchema.Everywhere fun t => t.fieldNames.Nodup) ∧
    (∀ number, basketSchema.prune (basketValue number) = basketPruned number) ∧
    (∀ number, basketSchema.Trim (basketPruned number)) ∧
    basketSchema.safeParse (basketPruned (.string "815")) = .ok basketOutput ∧
    basketSchema.safeParse (basketPruned .null) =
      .error [⟨[.key "number"], "Expected number, received null"⟩] := by
  have names : basketSchema.Everywhere fun t => t.fieldNames.Nodup := by decide
  have accepted : basketSchema.safeParse (basketValue (.string "815")) = .ok basketOutput := rfl
  have rejected : basketSchema.safeParse (basketValue .null) =
      .error [⟨[.key "number"], "Expected number, received null"⟩] := rfl
  exact ⟨names, fun _ => rfl, fun number => (safeParse_prune names (basketValue number)).1,
    (safeParse_prune names _).2.2.1.trans accepted, (safeParse_prune names _).2.2.1.trans rejected⟩

end Schema

end RouteContracts
