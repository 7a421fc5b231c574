import Mathlib.Data.List.Nodup
import RouteContracts.Descriptor.Basic

/-! # Structural induction on schemas and descriptors
Objects hold their fields in a list of pairs, so the recursors speak of fields, lists of fields and pairs
at once. Here each type gets **one** motive, with a hypothesis for every field of an object, and the facts
about layers that later proofs use instead of the definitions.

* `Schema.induction`, `Descriptor.induction`: the principles that `induction` takes.
* `Schema.parts`, `Schema.Everywhere`: the schemas in a schema, and a condition on all of them.
* `Schema.toDescriptor_base`: the shape of the base is the base of the shape.
* `Schema.fieldShapes_eq_map`, `NameSet.mem_ofList`: the shape of an object, field by field.
* `Schema.asObject?_toDescriptor`: the object of the shape has the fields of the schema. -/

namespace RouteContracts

/-! ## Induction -/

/-- Structural induction on schemas; an object comes with a hypothesis for each of its fields. -/
@[induction_eliminator]
theorem Schema.induction {motive : Schema → Prop} (string : motive .string) (number : motive .number)
    (boolean : motive .boolean) (null : motive .null) (undefined : motive .undefined)
    (any : motive .any) (literal : ∀ value, motive (.literal value))
    (enumeration : ∀ options, motive (.enumeration options))
    (object : ∀ fields : List (String × Schema), (∀ f ∈ fields, motive f.2) → motive (.object fields))
    (array : ∀ element, motive element → motive (.array element))
    (optional : ∀ inner, motive inner → motive (.optional inner))
    (nullable : ∀ inner, motive inner → motive (.nullable inner))
    (default : ∀ inner value, motive inner → motive (.default inner value))
    (catching : ∀ inner value, motive inner → motive (.catching inner value))
    (effects : ∀ inner refinement, motive inner → motive (.effects inner refinement))
    (coerce : ∀ inner, motive inner → motive (.coerce inner)) (s : Schema) : motive s := by
  refine @Schema.rec motive (fun fields => ∀ f ∈ fields, motive f.2) (fun f => motive f.2) string number
    boolean null undefined any literal enumeration object array optional nullable default catching effects
    coerce (fun f hf => by cases hf) (fun head tail hhead htail f hf => ?_) (fun _ _ h => h) s
  rcases List.mem_cons.mp hf with rfl | hf
  · exact hhead
  · exact htail f hf

/-- Structural induction on descriptors; an object comes with a hypothesis for each of its fields. -/
@[induction_eliminator]
theorem Descriptor.induction {motive : Descriptor → Prop} (primitive : ∀ p, motive (.primitive p))
    (object : ∀ (fields : List (String × Descriptor)) (omittable : NameSet),
      (∀ f ∈ fields, motive f.2) → motive (.object fields omittable))
    (array : ∀ element, motive element → motive (.array element))
    (optional : ∀ inner, motive inner → motive (.optional inner))
    (nullable : ∀ inner, motive inner → motive (.nullable inner)) (d : Descriptor) : motive d := by
  refine @Descriptor.rec motive (fun fields => ∀ f ∈ fields, motive f.2) (fun f => motive f.2) primitive
    object array optional nullable (fun f hf => by cases hf) (fun head tail hhead htail f hf => ?_)
    (fun _ _ h => h) d
  rcases List.mem_cons.mp hf with rfl | hf
  · exact hhead
  · exact htail f hf

/-! ## Parts of schemas -/

namespace Schema

mutual

/-- A schema and every schema in it: below its layers, in its fields, or as its element. -/
def parts : Schema → List Schema
  | .optional inner => .optional inner :: inner.parts
  | .nullable inner => .nullable inner :: inner.parts
  | .default inner value => .default inner value :: inner.parts
  | .catching inner value => .catching inner value :: inner.parts
  | .effects inner refinement => .effects inner refinement :: inner.parts
  | .coerce inner => .coerce inner :: inner.parts
  | .array element => .array element :: element.parts
  | .object fields => .object fields :: fieldParts fields
  | s => [s]

/-- Every schema in some fields. -/
def fieldParts : List (String × Schema) → List Schema
  | [] => []
  | (_, field) :: rest => field.parts ++ fieldParts rest

end

@[simp] theorem self_mem_parts (s : Schema) : s ∈ s.parts := by
  cases s <;> simp [parts]

/-- The `parts` of `inner` are parts of `s`, where `s.inner? = some inner`. -/
theorem parts_inner {s inner : Schema} (h : s.inner? = some inner) : inner.parts ⊆ s.parts := by
  cases s with
  | optional | nullable | default | catching | effects | coerce =>
    obtain rfl := Option.some.inj h
    exact List.subset_cons_self _ _
  | string | number | boolean | null | undefined | any | literal | enumeration | object | array => cases h

/-- The `parts` of a field are parts of the object. -/
theorem parts_field {fields : List (String × Schema)} {f : String × Schema} (hf : f ∈ fields) :
    f.2.parts ⊆ (Schema.object fields).parts := by
  have hsub : f.2.parts ⊆ fieldParts fields := by
    induction fields with
    | nil => cases hf
    | cons head rest ih =>
      rw [fieldParts]
      rcases List.mem_cons.mp hf with rfl | hf
      · exact List.subset_append_left _ _
      · exact List.Subset.trans (ih hf) (List.subset_append_right _ _)
  exact List.Subset.trans hsub (List.subset_cons_self _ _)

/-- The `parts` of the element are parts of the array. -/
theorem parts_element (element : Schema) : element.parts ⊆ (Schema.array element).parts :=
  List.subset_cons_self _ _

/-- The `parts` of the base are parts of the schema. -/
theorem parts_base (s : Schema) : s.base.parts ⊆ s.parts := by
  induction s with
  | optional inner ih | nullable inner ih | coerce inner ih => exact List.Subset.trans ih (parts_inner rfl)
  | default inner value ih | catching inner value ih => exact List.Subset.trans ih (parts_inner rfl)
  | effects inner refinement ih => exact List.Subset.trans ih (parts_inner rfl)
  | string | number | boolean | null | undefined | any | literal | enumeration | object | array =>
    exact List.Subset.refl _

/-- A condition holds of a schema and of every schema in it. -/
def Everywhere (p : Schema → Prop) (s : Schema) : Prop := ∀ t ∈ s.parts, p t

instance (p : Schema → Prop) [DecidablePred p] (s : Schema) : Decidable (s.Everywhere p) :=
  inferInstanceAs (Decidable (∀ t ∈ s.parts, p t))

namespace Everywhere

variable {p : Schema → Prop} {s : Schema}

theorem here (h : s.Everywhere p) : p s := h s (self_mem_parts s)

theorem inner (h : s.Everywhere p) {below : Schema} (hbelow : s.inner? = some below) : below.Everywhere p :=
  fun t ht => h t (parts_inner hbelow ht)

theorem field {fields : List (String × Schema)} (h : (Schema.object fields).Everywhere p) {f : String × Schema}
    (hf : f ∈ fields) : f.2.Everywhere p :=
  fun t ht => h t (parts_field hf ht)

theorem element {item : Schema} (h : (Schema.array item).Everywhere p) : item.Everywhere p :=
  fun t ht => h t (parts_element item ht)

theorem base (h : s.Everywhere p) : s.base.Everywhere p := fun t ht => h t (parts_base s ht)

end Everywhere

/-- The names that the schema itself declares, when it is an object. -/
def fieldNames : Schema → List String
  | .object fields => fields.map Prod.fst
  | _ => []

/-- `s.base = inner.base` where `s.inner? = some inner`. -/
theorem base_of_inner? {s inner : Schema} (h : s.inner? = some inner) : s.base = inner.base := by
  cases s with
  | optional | nullable | default | catching | effects | coerce =>
    obtain rfl := Option.some.inj h
    rfl
  | string | number | boolean | null | undefined | any | literal | enumeration | object | array => cases h

/-- `s.fields? = some fields` means `s.base = .object fields`. -/
theorem base_of_fields? {s : Schema} {fields : List (String × Schema)} (h : s.fields? = some fields) :
    s.base = .object fields := by
  unfold fields? at h
  split at h
  · next heq => rw [heq, Option.some.inj h]
  · cases h

end Schema

/-! ## Members -/

namespace Members

variable {α : Type}

/-- `get?` finds every member, where names are distinct. -/
theorem get?_of_mem {members : Members α} (hn : (members.map Prod.fst).Nodup) {name : String} {value : α}
    (hm : (name, value) ∈ members) : get? name members = some value := by
  induction members with
  | nil => cases hm
  | cons m rest ih =>
    obtain ⟨key, other⟩ := m
    rw [List.map_cons, List.nodup_cons] at hn
    rcases List.mem_cons.mp hm with h | h
    · obtain ⟨rfl, rfl⟩ := Prod.mk.inj h
      rw [get?, if_pos rfl]
    · have hmem : name ∈ rest.map Prod.fst := List.mem_map_of_mem h
      have hne : key ≠ name := fun e => hn.1 (e ▸ hmem)
      rw [get?, if_neg hne]
      exact ih hn.2 h

/-- What `get?` finds is a member. -/
theorem mem_of_get? {members : Members α} {name : String} {value : α}
    (h : get? name members = some value) : (name, value) ∈ members := by
  induction members with
  | nil => cases h
  | cons m rest ih =>
    obtain ⟨key, other⟩ := m
    rw [get?] at h
    split at h
    · next e =>
      obtain rfl := Option.some.inj h
      exact e ▸ List.mem_cons_self ..
    · exact List.mem_cons_of_mem _ (ih h)

/-- `get?` finds nothing exactly under a name that is not there. -/
theorem get?_eq_none_iff {members : Members α} {name : String} :
    get? name members = none ↔ name ∉ members.map Prod.fst := by
  induction members with
  | nil => simp
  | cons m rest ih =>
    obtain ⟨key, other⟩ := m
    by_cases h : key = name
    · simp [get?, h]
    · simp [get?, h, ih, Ne.symm h]

end Members

/-! ## Sets of names -/

namespace NameSet

/-- `insert name` adds `name` and no other. -/
theorem mem_insert {name other : String} (names : NameSet) :
    other ∈ insert name names ↔ other = name ∨ other ∈ names := by
  induction names with
  | nil => simp [insert]
  | cons n rest ih =>
    rw [insert]
    split
    · simp
    · split
      · next h => simp [h]
      · rw [List.mem_cons, ih, List.mem_cons]
        tauto

/-- `ofList` has the names of the list. -/
theorem mem_ofList {name : String} (names : List String) : name ∈ ofList names ↔ name ∈ names := by
  have h : ∀ (start : NameSet), name ∈ names.foldl (fun s n => insert n s) start ↔
      name ∈ start ∨ name ∈ names := by
    induction names with
    | nil => simp
    | cons n rest ih =>
      intro start
      rw [List.foldl_cons, ih, mem_insert, List.mem_cons]
      tauto
  rw [ofList, h []]
  simp

end NameSet

/-! ## Layers and shapes -/

namespace Schema

/-- `fieldShapes` is `splitAbsence` of the shape of each field. -/
theorem fieldShapes_eq_map (fields : List (String × Schema)) :
    fieldShapes fields = fields.map fun f => (f.1, f.2.toDescriptor.splitAbsence) := by
  induction fields with
  | nil => rfl
  | cons f rest ih => rw [fieldShapes, ih, List.map_cons]

/-- The shape of an object: its `optional` names are those of the fields from which `splitAbsence` takes a layer off. -/
theorem toDescriptor_object (fields : List (String × Schema)) :
    (Schema.object fields).toDescriptor =
      .object (fields.map fun f => (f.1, f.2.toDescriptor.splitAbsence.2))
        (NameSet.ofList ((fields.filter fun f => f.2.toDescriptor.splitAbsence.1).map Prod.fst)) := by
  rw [toDescriptor, fieldShapes_eq_map, List.map_map, List.filter_map, List.map_map]
  rfl

/-- **`toDescriptor` commutes with `base`.** -/
theorem toDescriptor_base (s : Schema) : s.base.toDescriptor = s.toDescriptor.base := by
  induction s with
  | optional inner ih | nullable inner ih | coerce inner ih => exact ih
  | default inner value ih | catching inner value ih => exact ih
  | effects inner refinement ih => exact ih
  | _ => rfl

/-- `isArray` is the same for a schema and its shape. -/
@[simp] theorem isArray_toDescriptor (s : Schema) : s.toDescriptor.isArray = s.isArray := by
  induction s with
  | optional inner ih | nullable inner ih | coerce inner ih => exact ih
  | default inner value ih | catching inner value ih => exact ih
  | effects inner refinement ih => exact ih
  | _ => rfl

/-- `isBoolean` is the same for a schema and its shape. -/
@[simp] theorem isBoolean_toDescriptor (s : Schema) : s.toDescriptor.isBoolean = s.isBoolean := by
  induction s with
  | optional inner ih | nullable inner ih | coerce inner ih => exact ih
  | default inner value ih | catching inner value ih => exact ih
  | effects inner refinement ih => exact ih
  | _ => rfl

/-- The shape of an object with some fields: the layers for absence are taken off the fields and noted beside them. -/
def objectShape (fields : Members Schema) : ObjectShape where
  fields := fields.map fun f => (f.1, f.2.toDescriptor.splitAbsence.2)
  optional := NameSet.ofList ((fields.filter fun f => f.2.toDescriptor.splitAbsence.1).map Prod.fst)

/-- `objectShape` keeps the names of fields and their order. -/
@[simp] theorem names_objectShape (fields : Members Schema) : (objectShape fields).fields.names = fields.names := by
  simp [objectShape, Members.names, Function.comp_def]

/-- **`asObject?` of `s.toDescriptor` is the `objectShape` of `s.fields?`.** -/
theorem asObject?_toDescriptor (s : Schema) : s.toDescriptor.asObject? = s.fields?.map objectShape := by
  induction s with
  | optional inner ih | nullable inner ih | coerce inner ih => exact ih
  | default inner value ih | catching inner value ih => exact ih
  | effects inner refinement ih => exact ih
  | object fields => rw [toDescriptor_object]; rfl
  | _ => rfl

end Schema

/-- `splitAbsence` keeps the base. -/
@[simp] theorem Descriptor.base_splitAbsence (d : Descriptor) : d.splitAbsence.2.base = d.base := by
  unfold splitAbsence
  split <;> rfl

end RouteContracts
