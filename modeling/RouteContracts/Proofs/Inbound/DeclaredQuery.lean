import Mathlib.Data.List.Forall2
import RouteContracts.Analysis.Contracts
import RouteContracts.Inbound.Basic
import RouteContracts.Proofs.Schema.Structure

/-! # Declared query parameters
A server takes from a URL what the schema of the endpoint declares under `searchParams`; a typed client writes what
the recorded descriptor declares there. A schema is classified by peeling its layers, a descriptor by peeling the
layers for absence and `null`, after some of them were taken off the fields. Both come to the same fields and kinds.

* `ObjectShape.queryMembers`: **what a recorded shape says is to be read** from a query.
* `ObjectShape.Declares`: the fields of a schema and those of a shape, one by one.
* `Schema.searchParams_declared`: **a server reads exactly the fields that are recorded, as their kinds say.** -/

namespace RouteContracts

/-! ## Reading by a shape -/

namespace Inbound

/-- **The value that a query gives a field of this shape**: all texts for an array, the presence of the name for a truth
value, the first text for anything else. -/
def shapedValue? (pairs : List (String × String)) (name : String) (d : Descriptor) : Option Json :=
  match valuesOf pairs name, d.base with
  | [], _ => none
  | texts, .array _ => some (.array (texts.map Json.string))
  | _, .primitive .boolean => some (.bool true)
  | first :: _, _ => some (.string first)

/-- `fieldValue?` of a schema is `shapedValue?` of every shape with the same `isArray` and `isBoolean`. -/
theorem fieldValue?_eq_shapedValue? {field : Schema} {d : Descriptor} (harray : d.isArray = field.isArray)
    (hboolean : d.isBoolean = field.isBoolean) (pairs : List (String × String)) (name : String) :
    fieldValue? pairs name field = shapedValue? pairs name d := by
  unfold fieldValue? shapedValue?
  rw [← harray, ← hboolean, Descriptor.isArray, Descriptor.isBoolean]
  cases valuesOf pairs name with
  | nil => rfl
  | cons first rest =>
    cases d.base with
    | primitive p => cases p <;> rfl
    | _ => rfl

end Inbound

namespace ObjectShape

/-- **What a recorded shape says is to be read from a query**, field by field. -/
def queryMembers (pairs : List (String × String)) (shape : ObjectShape) : Members Json :=
  shape.fields.filterMap fun f => (Inbound.shapedValue? pairs f.1 f.2).map fun v => (f.1, v)

/-- A field of a schema and one of a shape, with the same name and the same kind. -/
structure Alike (f : String × Schema) (g : String × Descriptor) : Prop where
  name : g.1 = f.1
  isArray : g.2.isArray = f.2.isArray
  isBoolean : g.2.isBoolean = f.2.isBoolean

/-- **A shape declares the fields of a schema**: in the same order it has the same names, with shapes that choose
between all texts, presence and the first text like the fields, so that every query is read alike. -/
structure Declares (shape : ObjectShape) (fields : Members Schema) : Prop where
  alike : List.Forall₂ Alike fields shape.fields
  read : ∀ pairs, Inbound.searchMembers pairs fields = shape.queryMembers pairs

/-- `searchMembers` is `queryMembers` of fields that are `Alike` one by one. -/
theorem searchMembers_eq_of_alike {fields : Members Schema} {shapes : Members Descriptor}
    (h : List.Forall₂ Alike fields shapes) (omittable : NameSet) (pairs : List (String × String)) :
    Inbound.searchMembers pairs fields = queryMembers pairs ⟨shapes, omittable⟩ := by
  unfold Inbound.searchMembers queryMembers
  induction h with
  | nil => rfl
  | cons hfg _ ih =>
    rw [List.filterMap_cons, List.filterMap_cons, hfg.name,
      Inbound.fieldValue?_eq_shapedValue? hfg.isArray hfg.isBoolean, ih]

/-- `objectShape fields` `Declares` the fields. -/
theorem declares_objectShape (fields : Members Schema) : (Schema.objectShape fields).Declares fields := by
  -- the layer for absence that is taken off a field does not count for its kind
  have halike : List.Forall₂ Alike fields (Schema.objectShape fields).fields := by
    refine List.forall₂_map_right_iff.mpr (List.forall₂_same.mpr fun f _ => ⟨rfl, ?_, ?_⟩)
    · rw [← Schema.isArray_toDescriptor, Descriptor.isArray, Descriptor.base_splitAbsence, Descriptor.isArray]
    · rw [← Schema.isBoolean_toDescriptor, Descriptor.isBoolean, Descriptor.base_splitAbsence, Descriptor.isBoolean]
  exact ⟨halike, searchMembers_eq_of_alike halike _⟩

end ObjectShape

/-! ## The query that is recorded -/

/-- `queryContract` of a field is `objectShape` of its fields. -/
theorem queryContract_eq (source : Path) (m : Method) (field : Schema) :
    (queryContract source m field).1 = field.fields?.map fun fields => (Schema.objectShape fields).toDescriptor := by
  unfold queryContract
  rw [Schema.asObject?_toDescriptor]
  cases field.fields? <;> rfl

namespace Schema

/-- The search parameters that the contract of a method records for a schema, if it records any. -/
def recordedSearch? (source : Path) (m : Method) (params : Option Descriptor) (s : Schema) : Option Descriptor :=
  s.fields?.bind fun fields => (contractOfFields source m params fields).1.searchParams

/-- `recordedSearch?` is `objectShape` of `declaredSearch?`. -/
theorem recordedSearch?_eq (source : Path) (m : Method) (params : Option Descriptor) (s : Schema) :
    s.recordedSearch? source m params =
      (Inbound.declaredSearch? s).map fun fields => (objectShape fields).toDescriptor := by
  unfold recordedSearch? Inbound.declaredSearch? contractOfFields
  cases s.fields? with
  | none => rfl
  | some fields =>
    have hname : Inbound.searchParamsField = searchParamsField := rfl
    simp only [Option.bind_some, hname]
    cases Members.get? searchParamsField fields with
    | none => rfl
    | some field => exact queryContract_eq source m field

/-- **A server reads from a URL exactly the query fields that are recorded, with the same kinds.** `toDescriptor`
commutes with `base`, `isArray` and `isBoolean` agree, and `asObject?` has the names of `fields?` in the same order. So
`recordedSearch?` is there exactly if `declaredSearch?` is, as a shape that `Declares` the very fields that are read;
and `searchMembers` of any URL is `queryMembers` of that shape. -/
theorem searchParams_declared (s : Schema) :
    s.toDescriptor.base = s.base.toDescriptor ∧
    s.toDescriptor.isArray = s.isArray ∧
    s.toDescriptor.isBoolean = s.isBoolean ∧
    s.toDescriptor.asObject?.map (fun shape => shape.fields.names) = s.fields?.map Members.names ∧
    ∀ (source : Path) (m : Method) (params : Option Descriptor),
      Option.Rel (fun fields recorded => ∃ shape : ObjectShape, recorded = shape.toDescriptor ∧ shape.Declares fields)
        (Inbound.declaredSearch? s) (s.recordedSearch? source m params) ∧
      ∀ u : Url, Inbound.searchParams? s u = ((s.recordedSearch? source m params).bind Descriptor.asObject?).map
        fun shape => .object (shape.queryMembers u.pairs) := by
  refine ⟨s.toDescriptor_base.symm, s.isArray_toDescriptor, s.isBoolean_toDescriptor, ?_,
    fun source m params => ⟨?_, fun u => ?_⟩⟩
  · rw [asObject?_toDescriptor, Option.map_map]
    exact congrArg (s.fields?.map ·) (funext names_objectShape)
  · rw [recordedSearch?_eq]
    cases Inbound.declaredSearch? s with
    | none => exact .none
    | some fields => exact .some ⟨objectShape fields, rfl, ObjectShape.declares_objectShape fields⟩
  · rw [recordedSearch?_eq, Inbound.searchParams?]
    cases Inbound.declaredSearch? s with
    | none => rfl
    | some fields =>
      have hread := (ObjectShape.declares_objectShape fields).read u.pairs
      simp only [Option.map_some, hread]
      rfl

/-- A field that may be missing and a list that may be `null` are read as the recorded shape says. -/
example : (objectShape [("draft", .optional .boolean), ("tags", .nullish (.array .string))]).queryMembers
    [("tags", "a"), ("draft", ""), ("tags", "b"), ("other", "1")] =
      [("draft", .bool true), ("tags", .array [.string "a", .string "b"])] := by rfl

end Schema

end RouteContracts
