import RouteContracts.Proofs.Schema.Structure

/-! # Outlines of schemas
A contract keeps of a schema its shape and, of each field at its base, the name and the shape. Schemas that
agree on these are **alike**: they give the same contracts, whatever their refinements, defaults, fallbacks
and closed sets of values are.

* `Schema.outline`: the names and shapes of fields.
* `Schema.Alike`: agreement of shapes and outlines. Layers keep it, and so do objects and arrays. -/

namespace RouteContracts

namespace Members

variable {α β : Type}

/-- `insert` commutes with changing the values of members. -/
theorem map_insert (f : α → β) (name : String) (value : α) (members : Members α) :
    (insert name value members).map (fun m => (m.1, f m.2)) =
      insert name (f value) (members.map fun m => (m.1, f m.2)) := by
  induction members with
  | nil => rfl
  | cons m rest ih =>
    rw [insert, List.map_cons, insert]
    split
    · rfl
    · rw [List.map_cons, ih]

/-- `ofList` commutes with changing the values of members. -/
theorem map_ofList (f : α → β) (pairs : List (String × α)) :
    (ofList pairs).map (fun m => (m.1, f m.2)) = ofList (pairs.map fun m => (m.1, f m.2)) := by
  have h : ∀ start : Members α, (pairs.foldl (fun ms m => insert m.1 m.2 ms) start).map
        (fun m => (m.1, f m.2)) =
      (pairs.map fun m => (m.1, f m.2)).foldl (fun ms m => insert m.1 m.2 ms)
        (start.map fun m => (m.1, f m.2)) := by
    induction pairs with
    | nil => exact fun _ => rfl
    | cons m rest ih =>
      intro start
      rw [List.foldl_cons, List.map_cons, List.foldl_cons, ih, map_insert]
  exact h []

end Members

namespace Schema

/-- The name and the shape of each field. -/
def outline (fields : Members Schema) : Members Descriptor := fields.map fun f => (f.1, f.2.toDescriptor)

/-- `toDescriptor` of an object depends on the `outline` of its fields. -/
theorem toDescriptor_object_congr {fs gs : List (String × Schema)} (h : outline fs = outline gs) :
    (Schema.object fs).toDescriptor = (Schema.object gs).toDescriptor := by
  have shapes : fieldShapes fs = fieldShapes gs := by
    have h' := congrArg (List.map fun f => (f.1, f.2.splitAbsence)) h
    rw [outline, outline, List.map_map, List.map_map] at h'
    rw [fieldShapes_eq_map, fieldShapes_eq_map]
    exact h'
  rw [toDescriptor, toDescriptor, shapes]

/-- Two schemas of one shape, with one outline at the base. -/
structure Alike (s t : Schema) : Prop where
  /-- The shapes agree. -/
  shape : s.toDescriptor = t.toDescriptor
  /-- The names and shapes of the fields agree. -/
  fields : s.fields?.map outline = t.fields?.map outline

namespace Alike

variable {s t : Schema}

theorem refl (s : Schema) : s.Alike s := ⟨rfl, rfl⟩

theorem optional (h : s.Alike t) : (Schema.optional s).Alike (.optional t) :=
  ⟨congrArg Descriptor.optional h.shape, h.fields⟩

theorem nullable (h : s.Alike t) : (Schema.nullable s).Alike (.nullable t) :=
  ⟨congrArg Descriptor.nullable h.shape, h.fields⟩

/-- `Alike` for `.default`: the values of defaults do not count. -/
theorem default (h : s.Alike t) (v w : Json) : (Schema.default s v).Alike (.default t w) :=
  ⟨congrArg Descriptor.optional h.shape, h.fields⟩

/-- `Alike` for `.catching`: the values of fallbacks do not count. -/
theorem catching (h : s.Alike t) (v w : Json) : (Schema.catching s v).Alike (.catching t w) :=
  ⟨congrArg Descriptor.optional h.shape, h.fields⟩

theorem coerce (h : s.Alike t) : (Schema.coerce s).Alike (.coerce t) := ⟨h.shape, h.fields⟩

/-- A refinement on the left does not count. -/
theorem effects_left (h : s.Alike t) (r : Refinement) : (Schema.effects s r).Alike t :=
  ⟨h.shape, h.fields⟩

/-- A refinement on the right does not count. -/
theorem effects_right (h : s.Alike t) (r : Refinement) : s.Alike (.effects t r) := ⟨h.shape, h.fields⟩

theorem array (h : s.Alike t) : (Schema.array s).Alike (.array t) :=
  ⟨congrArg Descriptor.array h.shape, rfl⟩

/-- Objects with one `outline` are `Alike`. -/
theorem object {fs gs : List (String × Schema)} (h : outline fs = outline gs) :
    (Schema.object fs).Alike (.object gs) :=
  ⟨toDescriptor_object_congr h, congrArg some h⟩

/-- Any two `.literal`s are `Alike`. -/
theorem literal (v w : Json) : (Schema.literal v).Alike (.literal w) := ⟨rfl, rfl⟩

/-- `Alike` schemas have fields with one `outline`. -/
theorem exists_fields (h : s.Alike t) {fields : Members Schema} (ht : t.fields? = some fields) :
    ∃ fields', s.fields? = some fields' ∧ outline fields' = outline fields := by
  have hf := h.fields
  rw [ht, Option.map_some, Option.map_eq_some_iff] at hf
  exact hf

end Alike

end Schema

end RouteContracts
