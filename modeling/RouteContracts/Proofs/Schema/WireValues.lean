import RouteContracts.Proofs.Schema.Locality

/-! # Wire values
What a typed client can put on the wire is decided by the shape of a schema, what the endpoint accepts by
the schema itself. The two meet for **plain** schemas, those without fallbacks, predicates and closed sets
of values: whatever the shape lets a client write, the schema accepts.

* `Descriptor.IsWire`: the values that the types of a shape can be written as.
* `Schema.Plain`, `Schema.Fillable`: the schemas of which the shape keeps all that decides about a value,
  and the places at which a missing value is written as `null`.
* `Schema.safeParse_of_isWire`: **every wire value of the shape is accepted.** -/

namespace RouteContracts

/-! ## Wire values of a shape -/

namespace Descriptor

mutual

/-- **A value that the type of a shape can be written as.** A layer that stands for absence or for `null` makes one
optional type of all layers around a base, and its missing value is written as `null`. -/
inductive IsWire : Descriptor → Json → Prop where
  /-- A text. -/
  | string (s : String) : IsWire (.primitive .string) (.string s)
  /-- A number. -/
  | number (n : Json.Number) : IsWire (.primitive .number) (.number n)
  /-- A truth value. -/
  | boolean (b : Bool) : IsWire (.primitive .boolean) (.bool b)
  /-- The value `null`. -/
  | null : IsWire (.primitive .null) .null
  /-- Any value, where nothing is known. -/
  | undefined (v : Json) : IsWire (.primitive .undefined) v
  /-- A list of values of the element. -/
  | array {element : Descriptor} {items : List Json} (h : ∀ item ∈ items, IsWire element item) :
      IsWire (.array element) (.array items)
  /-- Values for the fields, some of them left out. -/
  | object {fields : List (String × Descriptor)} {omittable : NameSet} {members : Members Json}
      (h : FieldsAreWire omittable members fields) : IsWire (.object fields omittable) (.object members)
  /-- No value in an optional place. -/
  | optionalNull (d : Descriptor) : IsWire (.optional d) .null
  /-- A value in an optional place. -/
  | optional {d : Descriptor} {v : Json} (h : IsWire d.base v) : IsWire (.optional d) v
  /-- No value in a nullable place. -/
  | nullableNull (d : Descriptor) : IsWire (.nullable d) .null
  /-- A value in a nullable place. -/
  | nullable {d : Descriptor} {v : Json} (h : IsWire d.base v) : IsWire (.nullable d) v

/-- The members that the fields of an object can be written as. A field that may be absent is left out when it has no
value; every other field is there. -/
inductive FieldsAreWire : NameSet → Members Json → List (String × Descriptor) → Prop where
  | nil (omittable : NameSet) (members : Members Json) : FieldsAreWire omittable members []
  /-- A field that is left out. -/
  | omitted {omittable : NameSet} {members : Members Json} {name : String} (d : Descriptor)
      {rest : List (String × Descriptor)} (hname : name ∈ omittable)
      (hnone : Members.get? name members = none) (hrest : FieldsAreWire omittable members rest) :
      FieldsAreWire omittable members ((name, d) :: rest)
  /-- A field that could be left out, with a value. -/
  | given {omittable : NameSet} {members : Members Json} {name : String} {d : Descriptor}
      {rest : List (String × Descriptor)} {v : Json} (hname : name ∈ omittable)
      (hv : Members.get? name members = some v) (h : IsWire d.base v)
      (hrest : FieldsAreWire omittable members rest) : FieldsAreWire omittable members ((name, d) :: rest)
  /-- A field that is always there. -/
  | present {omittable : NameSet} {members : Members Json} {name : String} {d : Descriptor}
      {rest : List (String × Descriptor)} {v : Json} (hname : name ∉ omittable)
      (hv : Members.get? name members = some v) (h : IsWire d v)
      (hrest : FieldsAreWire omittable members rest) : FieldsAreWire omittable members ((name, d) :: rest)

end

/-- `d.IsWire v` means `d.base.IsWire v`, or that `v` is `null` under a layer. -/
theorem IsWire.base_or_null {d : Descriptor} {v : Json} (h : d.IsWire v) :
    d.base.IsWire v ∨ (v = .null ∧ ((∃ inner, d = .optional inner) ∨ ∃ inner, d = .nullable inner)) := by
  cases h with
  | optionalNull inner => exact .inr ⟨rfl, .inl ⟨inner, rfl⟩⟩
  | nullableNull inner => exact .inr ⟨rfl, .inr ⟨inner, rfl⟩⟩
  | optional h | nullable h => exact .inl h
  | string s => exact .inl (.string s)
  | number n => exact .inl (.number n)
  | boolean b => exact .inl (.boolean b)
  | null => exact .inl .null
  | undefined => exact .inl (.undefined v)
  | array h => exact .inl (.array h)
  | object h => exact .inl (.object h)

end Descriptor

namespace Schema

/-! ## Plain schemas -/

/-- Whether a layer above the base stands for absence. -/
def mayBeAbsent : Schema → Bool
  | .optional _ | .default _ _ => true
  | .nullable s | .catching s _ | .effects s _ | .coerce s => s.mayBeAbsent
  | _ => false

/-- Whether a layer above the base stands for `null`. -/
def mayBeNull : Schema → Bool
  | .nullable _ => true
  | .optional s | .default s _ | .catching s _ | .effects s _ | .coerce s => s.mayBeNull
  | _ => false

/-- A place that cannot be left out takes `null` for a missing value. -/
def Fillable (s : Schema) : Prop := s.mayBeAbsent = true → s.mayBeNull = true

/-- A schema without fallbacks, predicates and closed sets of values. Its defaults fit, and no element of an array could
only be missing. -/
inductive Plain : Schema → Prop where
  | string : Plain .string
  | number : Plain .number
  | boolean : Plain .boolean
  | null : Plain .null
  | any : Plain .any
  /-- An object; a name declares one field. -/
  | object {fields : List (String × Schema)} (names : (fields.map Prod.fst).Nodup)
      (h : ∀ f ∈ fields, Plain f.2) : Plain (.object fields)
  /-- An array; a missing element is written as `null`. -/
  | array {element : Schema} (h : Plain element) (fillable : element.Fillable) : Plain (.array element)
  | optional {inner : Schema} (h : Plain inner) : Plain (.optional inner)
  | nullable {inner : Schema} (h : Plain inner) : Plain (.nullable inner)
  /-- A default that the schema under it accepts. -/
  | default {inner : Schema} {value : Json} (h : Plain inner)
      (accepted : ∃ out, inner.safeParse value = .ok out) : Plain (.default inner value)
  /-- A refinement of which only the name is known. -/
  | effects {inner : Schema} {refinement : Refinement} (h : Plain inner)
      (nameOnly : refinement.check = none) : Plain (.effects inner refinement)
  | coerce {inner : Schema} (h : Plain inner) : Plain (.coerce inner)

/-! ## Layers that do nothing -/

theorem passes_optional_none (s : Schema) : (Schema.optional s).Passes none := fun _ _ => rfl

theorem passes_nullable_null (s : Schema) : (Schema.nullable s).Passes (some .null) := fun _ _ => rfl

/-- `.nullable s` passes what `s` does. -/
theorem Passes.nullable {s : Schema} {v : Option Json} (h : s.Passes v) : (Schema.nullable s).Passes v := by
  match v with
  | some .null => exact passes_nullable_null s
  | some (.bool _) | some (.number _) | some (.string _) | some (.array _) | some (.object _) | none =>
    exact fun path issues => h path issues

/-- `.effects s refinement` passes what `s` does, where the refinement is only known by name. -/
theorem Passes.effects {s : Schema} {refinement : Refinement} {v : Option Json}
    (hr : refinement.check = none) (h : s.Passes v) : (Schema.effects s refinement).Passes v := by
  have holds (out : Json) : refinement.holds out = true := by rw [Refinement.holds, hr]; rfl
  intro path issues
  simp only [check, holds, Bool.true_eq_false, and_false, if_false]
  split <;> exact h path issues

/-- `.coerce s` passes what `s` does and `coerceTo s.base` leaves as it is. -/
theorem Passes.coerce {s : Schema} {v : Option Json} (hv : v.map (coerceTo s.base) = v) (h : s.Passes v) :
    (Schema.coerce s).Passes v := by
  intro path issues
  simp only [check, hv]
  exact h path issues

/-! ## What passes a plain schema -/

/-- `Plain` schemas pass a missing value where `s.mayBeAbsent`. -/
theorem Plain.passes_none {s : Schema} (hs : s.Plain) (h : s.mayBeAbsent = true) : s.Passes none := by
  induction hs with
  | optional => exact passes_optional_none _
  | nullable _ ih => exact (ih h).nullable
  | default _ accepted ih => exact fun path issues => safeParse_ok_iff.mp accepted path issues
  | effects _ nameOnly ih => exact (ih h).effects nameOnly
  | coerce _ ih => exact (ih h).coerce rfl
  | string | number | boolean | null | any | object | array => cases h

/-- `Plain` schemas pass `null` where `s.mayBeNull`. -/
theorem Plain.passes_null {s : Schema} (hs : s.Plain) (h : s.mayBeNull = true) : s.Passes (some .null) := by
  induction hs with
  | nullable => exact passes_nullable_null _
  | optional _ ih | default _ _ ih => exact fun path issues => ih h path issues
  | effects _ nameOnly ih => exact (ih h).effects nameOnly
  | coerce _ ih => exact (ih h).coerce (by cases Schema.base _ <;> rfl)
  | string | number | boolean | null | any | object | array => cases h

/-- A shape `.optional d` comes from a schema with `s.mayBeAbsent`. -/
theorem Plain.mayBeAbsent_of_optional {s : Schema} (hs : s.Plain) {d : Descriptor}
    (h : s.toDescriptor = .optional d) : s.mayBeAbsent = true := by
  induction hs with
  | optional | default => rfl
  | effects _ _ ih | coerce _ ih => exact ih h
  | string | number | boolean | null | any | object | array | nullable => cases h

/-- A shape `.nullable d` comes from a schema with `s.mayBeNull`. -/
theorem Plain.mayBeNull_of_nullable {s : Schema} (hs : s.Plain) {d : Descriptor}
    (h : s.toDescriptor = .nullable d) : s.mayBeNull = true := by
  induction hs with
  | nullable => rfl
  | effects _ _ ih | coerce _ ih => exact ih h
  | string | number | boolean | null | any | object | array | optional | default => cases h

/-- Where `splitAbsence` takes a layer off the shape, `s.mayBeAbsent`. -/
theorem Plain.mayBeAbsent_of_splitAbsence {s : Schema} (hs : s.Plain)
    (h : s.toDescriptor.splitAbsence.1 = true) : s.mayBeAbsent = true := by
  unfold Descriptor.splitAbsence at h
  split at h
  · next d hd => exact hs.mayBeAbsent_of_optional hd
  · next d hd =>
    -- The optional layer is directly below the nullable one, through layers that leave no trace.
    clear h
    induction hs with
    | nullable hinner => exact hinner.mayBeAbsent_of_optional (Descriptor.nullable.inj hd)
    | effects _ _ ih | coerce _ ih => exact ih hd
    | string | number | boolean | null | any | object | array | optional | default => cases hd
  · cases h

/-- A wire value passes where it is one of the base, or where a missing value may be `null`. -/
theorem Plain.passes_of_base {s : Schema} (hs : s.Plain) (fillable : s.Fillable)
    (hbase : ∀ v, s.toDescriptor.base.IsWire v → s.Passes (some v)) {v : Json}
    (hv : s.toDescriptor.IsWire v) : s.Passes (some v) := by
  rcases hv.base_or_null with h | ⟨rfl, ⟨inner, h⟩ | ⟨inner, h⟩⟩
  · exact hbase v h
  · exact hs.passes_null (fillable (hs.mayBeAbsent_of_optional h))
  · exact hs.passes_null (hs.mayBeNull_of_nullable h)

/-- `coerceTo s` leaves wire values of `s` as they are: they are of the base's kind. -/
theorem coerceTo_of_isWire {s : Schema} {v : Json} (hv : s.toDescriptor.IsWire v) : coerceTo s v = v := by
  cases s with
  | number | boolean | string =>
    cases hv
    rfl
  | _ => cases v <;> rfl

/-- What `FieldsAreWire` has for a field is absent only where the shape says so, and otherwise a value for it. -/
theorem fieldsAreWire_of_mem {omittable : NameSet} {members : Members Json}
    {fields : List (String × Descriptor)} (h : Descriptor.FieldsAreWire omittable members fields)
    {name : String} {d : Descriptor} (hf : (name, d) ∈ fields) :
    (name ∈ omittable ∧ (Members.get? name members = none ∨
        ∃ v, Members.get? name members = some v ∧ d.base.IsWire v)) ∨
      (name ∉ omittable ∧ ∃ v, Members.get? name members = some v ∧ d.IsWire v) := by
  induction fields with
  | nil => cases hf
  | cons f rest ih =>
    rcases List.mem_cons.mp hf with rfl | hmem
    · cases h with
      | omitted _ hname hnone => exact .inl ⟨hname, .inl hnone⟩
      | given hname hv h => exact .inl ⟨hname, .inr ⟨_, hv, h⟩⟩
      | present hname hv h => exact .inr ⟨hname, _, hv, h⟩
    · cases h with
      | omitted _ _ _ hrest | given _ _ _ hrest | present _ _ _ hrest => exact ih hrest hmem

/-- The names in `optional` of the shape are those of the fields from which `splitAbsence` takes a layer off, where
names are distinct. -/
theorem mem_omittable_iff {fields : List (String × Schema)} (names : (fields.map Prod.fst).Nodup)
    {f : String × Schema} (hf : f ∈ fields) :
    f.1 ∈ NameSet.ofList ((fields.filter fun f => f.2.toDescriptor.splitAbsence.1).map Prod.fst) ↔
      f.2.toDescriptor.splitAbsence.1 = true := by
  rw [NameSet.mem_ofList, List.mem_map]
  constructor
  · rintro ⟨g, hg, hname⟩
    obtain ⟨hg, hflag⟩ := List.mem_filter.mp hg
    obtain rfl := List.inj_on_of_nodup_map names hg hf hname
    exact hflag
  · intro hflag
    exact ⟨f, List.mem_filter.mpr ⟨hf, hflag⟩, rfl⟩

/-- `checkFields` adds no issue if each field passes `get?` of its name. -/
theorem checkFields_issues {fields : List (String × Schema)} {members : Members Json}
    (h : ∀ f ∈ fields, f.2.Passes (Members.get? f.1 members)) (path : Trail) (issues : List Issue) :
    (checkFields fields members path issues).2 = issues := by
  induction fields generalizing issues with
  | nil => rfl
  | cons f rest ih =>
    have hfield : f.2.Passes (Members.get? f.1 members) := h f (List.mem_cons_self ..)
    simp only [checkFields]
    rw [hfield (path ++ [Step.key f.1]) issues]
    exact ih (fun g hg => h g (List.mem_cons_of_mem _ hg)) issues

/-- `checkItems` adds no issue if each item passes. -/
theorem checkItems_issues {element : Schema} {items : List Json}
    (h : ∀ item ∈ items, element.Passes (some item)) (i : Nat) (path : Trail) (issues : List Issue) :
    (checkItems (fun item => element.check (some item)) items i path issues).2 = issues := by
  induction items generalizing i issues with
  | nil => rfl
  | cons item rest ih =>
    have hitem : element.Passes (some item) := h item (List.mem_cons_self ..)
    simp only [checkItems]
    rw [hitem (path ++ [Step.index i]) issues]
    exact ih (fun item hi => h item (List.mem_cons_of_mem _ hi)) (i + 1) issues

/-- The fields of an object pass what `FieldsAreWire` has for them. -/
theorem passes_fields {fields : List (String × Schema)} (names : (fields.map Prod.fst).Nodup)
    (plain : ∀ f ∈ fields, f.2.Plain)
    (hbase : ∀ f ∈ fields, ∀ v, f.2.toDescriptor.base.IsWire v → f.2.Passes (some v))
    {members : Members Json}
    (h : Descriptor.FieldsAreWire
      (NameSet.ofList ((fields.filter fun f => f.2.toDescriptor.splitAbsence.1).map Prod.fst)) members
      (fields.map fun f => (f.1, f.2.toDescriptor.splitAbsence.2))) :
    ∀ f ∈ fields, f.2.Passes (Members.get? f.1 members) := by
  intro f hf
  have hmem : (f.1, f.2.toDescriptor.splitAbsence.2) ∈
      fields.map fun f => (f.1, f.2.toDescriptor.splitAbsence.2) := List.mem_map_of_mem hf
  have hflag := mem_omittable_iff names hf
  rcases fieldsAreWire_of_mem h hmem with ⟨hname, hnone | ⟨v, hv, hw⟩⟩ | ⟨hname, v, hv, hw⟩
  · rw [hnone]
    exact (plain f hf).passes_none ((plain f hf).mayBeAbsent_of_splitAbsence (hflag.mp hname))
  · rw [hv]
    rw [Descriptor.base_splitAbsence] at hw
    exact hbase f hf v hw
  · rw [hv]
    -- Nothing was taken off, so a missing value can only be one that a nullable layer stands for.
    have hkept : f.2.toDescriptor.splitAbsence.1 = false := by
      rw [← Bool.not_eq_true]
      exact fun e => hname (hflag.mpr e)
    unfold Descriptor.splitAbsence at hw hkept
    split at hw
    · next hd => rw [hd] at hkept; cases hkept
    · next hd => rw [hd] at hkept; cases hkept
    · next hno _ =>
      rcases hw.base_or_null with hb | ⟨rfl, ⟨inner, hd⟩ | ⟨inner, hd⟩⟩
      · exact hbase f hf v hb
      · exact absurd hd (hno inner)
      · exact (plain f hf).passes_null ((plain f hf).mayBeNull_of_nullable hd)

/-- **A `Plain` schema passes every wire value of the base of its shape**, by induction on the schema. -/
theorem Plain.passes_of_isWire_base {s : Schema} (hs : s.Plain) {v : Json}
    (hv : s.toDescriptor.base.IsWire v) : s.Passes (some v) := by
  induction hs generalizing v with
  | string | number | boolean | null =>
    cases hv
    exact fun _ _ => rfl
  | any => exact fun _ _ => rfl
  | object names plain ih =>
    -- the fields of the shape are those of the schema, without what may be absent
    rw [toDescriptor_object] at hv
    cases hv with
    | object h =>
      have hpass := passes_fields names plain (fun f hf v hv => ih f hf hv) h
      exact fun path issues => checkFields_issues hpass path issues
  | array hs fillable ih =>
    cases hv with
    | array h =>
      have hpass := fun item hi => hs.passes_of_base fillable (fun v hv => ih hv) (h item hi)
      exact fun path issues => checkItems_issues hpass 0 path issues
  | optional _ ih | default _ _ ih => exact fun path issues => ih hv path issues
  | nullable _ ih => exact (ih hv).nullable
  | effects _ nameOnly ih => exact (ih hv).effects nameOnly
  | coerce _ ih =>
    refine (ih hv).coerce ?_
    rw [Option.map_some, coerceTo_of_isWire]
    rw [toDescriptor_base]
    exact hv

/-- **`safeParse` accepts every wire value of the shape of a `Plain` schema** that is `Fillable`: whatever a client can
write by its types, the endpoint takes. -/
theorem safeParse_of_isWire {s : Schema} (hs : s.Plain) (fillable : s.Fillable) {v : Json}
    (hv : s.toDescriptor.IsWire v) : ∃ out, s.safeParse v = .ok out :=
  safeParse_ok_iff.mpr (hs.passes_of_base fillable (fun _ h => hs.passes_of_isWire_base h) hv)

/-- A schema with a converted number that has a default, a text that may be `null` or missing, and a list of which items
may be missing. -/
def draftSchema : Schema :=
  .object [("page", .default (.coerce .number) (.number (.int 1 (by decide)))),
    ("note", .nullish .string), ("tags", .array (.nullish .string))]

/-- A value for `draftSchema` without the number, and with a missing item. -/
def draftValue : Json := .object [("note", .string "n"), ("tags", .array [.string "a", .null])]

/-- `draftValue` is one of the wire, and accepted. -/
theorem safeParse_of_isWire_draft :
    draftSchema.Plain ∧ draftSchema.Fillable ∧ draftSchema.toDescriptor.IsWire draftValue ∧
      ∃ out, draftSchema.safeParse draftValue = .ok out := by
  have hnullish : (Schema.nullish .string).Plain := .optional (.nullable .string)
  have plain : draftSchema.Plain := by
    refine .object (by decide) fun f hf => ?_
    simp only [List.mem_cons, List.not_mem_nil, or_false] at hf
    rcases hf with rfl | rfl | rfl
    · exact .default (.coerce .number) ⟨_, rfl⟩
    · exact hnullish
    · exact .array hnullish fun _ => rfl
  have fillable : draftSchema.Fillable := fun h => absurd h (by decide)
  have wire : draftSchema.toDescriptor.IsWire draftValue := by
    refine .object (.omitted _ (by decide) rfl (.given (by decide) rfl (.string "n")
      (.present (by decide) rfl (.array fun item hitem => ?_) (.nil _ _))))
    simp only [List.mem_cons, List.not_mem_nil, or_false] at hitem
    rcases hitem with rfl | rfl
    · exact .optional (.string "a")
    · exact .optionalNull _
  exact ⟨plain, fillable, wire, safeParse_of_isWire plain fillable wire⟩

end Schema

end RouteContracts
