import Mathlib.Data.List.Induction
import Mathlib.Data.String.Basic
import RouteContracts.Contract
import RouteContracts.Proofs.Descriptor.Equality

/-! # The JSON form loses nothing
What is written for a descriptor or a contract is read back as the same descriptor or contract, whatever its fields are
called: fields stand below a name of their own, apart from the word for the constructor. The only thing that reading
puts in order is the names that may be absent, and these are in order wherever the program makes a descriptor.

* `NameSet.Ascending`, `Descriptor.Ordered`: sets of names that are sets. `Descriptor.ordered_toDescriptor`: **the
  descriptor of a schema has no others.**
* `Descriptor.ofJson?_toJson`, `Contract.ofJson?_toJson`: reading what is written.
* `Descriptor.same_toJson`: equality of descriptors is equality of their JSON forms.
* `Contract.json_lossless`: **nothing is lost.** -/

namespace RouteContracts

/-! ## Sets of names -/

namespace NameSet

/-- Names in ascending order, each once. -/
def Ascending (names : NameSet) : Prop := names.Pairwise (· < ·)

/-- `insert` keeps `Ascending`. -/
theorem Ascending.insert {names : NameSet} (h : names.Ascending) (name : String) : (insert name names).Ascending := by
  induction names with
  | nil => exact List.pairwise_singleton ..
  | cons n rest ih =>
    obtain ⟨hhead, hrest⟩ := List.pairwise_cons.mp h
    rw [NameSet.insert]
    split
    · next hlt =>
      refine List.pairwise_cons.mpr ⟨fun other hother => ?_, h⟩
      rcases List.mem_cons.mp hother with rfl | hother
      · exact hlt
      · exact lt_trans hlt (hhead other hother)
    · split
      · exact h
      · next hnlt hne =>
        refine List.pairwise_cons.mpr ⟨fun other hother => ?_, ih hrest⟩
        rcases (mem_insert rest).mp hother with rfl | hother
        · exact lt_of_le_of_ne (not_lt.mp hnlt) (Ne.symm hne)
        · exact hhead other hother

/-- `ofList` is `Ascending`. -/
theorem ascending_ofList (names : List String) : (ofList names).Ascending := by
  induction names using List.reverseRecOn with
  | nil => exact List.Pairwise.nil
  | append_singleton names name ih =>
    rw [ofList, List.foldl_concat]
    exact ih.insert name

/-- `insert` puts a name above all others at the end. -/
theorem insert_of_forall_lt {names : NameSet} {name : String} (h : ∀ n ∈ names, n < name) :
    NameSet.insert name names = names ++ [name] := by
  induction names with
  | nil => rfl
  | cons n rest ih =>
    have hn : n < name := h n List.mem_cons_self
    have hrest : NameSet.insert name rest = rest ++ [name] := ih fun other hother => h other (List.mem_cons_of_mem n hother)
    rw [NameSet.insert, if_neg (lt_asymm hn), if_neg hn.ne', hrest]
    rfl

/-- **`ofList` of `Ascending` names is these.** -/
theorem Ascending.ofList_eq {names : NameSet} (h : names.Ascending) : ofList names = names := by
  -- names are added one after another, so the induction takes off the last one
  induction names using List.reverseRecOn with
  | nil => rfl
  | append_singleton names name ih =>
    obtain ⟨hnames, -, hlast⟩ := List.pairwise_append.mp h
    have hbelow : ∀ n ∈ names, n < name := fun n hn => hlast n hn name (List.mem_singleton_self name)
    have hinsert : ofList (names ++ [name]) = NameSet.insert name (ofList names) := by
      rw [ofList, ofList, List.foldl_concat]
    rw [hinsert, ih hnames, insert_of_forall_lt hbelow]

end NameSet

/-! ## Descriptors in order -/

namespace Descriptor

/-- A descriptor in which the names that may be absent are in ascending order, at every depth. -/
inductive Ordered : Descriptor → Prop where
  | primitive (p : Primitive) : Ordered (.primitive p)
  | object {fields : List (String × Descriptor)} {omittable : NameSet} (names : omittable.Ascending)
      (h : ∀ f ∈ fields, Ordered f.2) : Ordered (.object fields omittable)
  | array {element : Descriptor} (h : Ordered element) : Ordered (.array element)
  | optional {inner : Descriptor} (h : Ordered inner) : Ordered (.optional inner)
  | nullable {inner : Descriptor} (h : Ordered inner) : Ordered (.nullable inner)

/-- `splitAbsence` keeps `Ordered`. -/
theorem Ordered.splitAbsence {d : Descriptor} (h : d.Ordered) : d.splitAbsence.2.Ordered := by
  unfold Descriptor.splitAbsence
  split
  · cases h with
    | optional h => exact h
  · cases h with
    | nullable h =>
      cases h with
      | optional h => exact .nullable h
  · exact h

/-- **`s.toDescriptor` is `Ordered`.** -/
theorem ordered_toDescriptor (s : Schema) : s.toDescriptor.Ordered := by
  induction s with
  | object fields ih =>
    rw [Schema.toDescriptor_object]
    refine .object (NameSet.ascending_ofList _) fun g hg => ?_
    obtain ⟨f, hf, rfl⟩ := List.mem_map.mp hg
    exact (ih f hf).splitAbsence
  | array element ih => exact .array ih
  | optional inner ih | default inner value ih | catching inner value ih => exact .optional ih
  | nullable inner ih => exact .nullable ih
  | effects inner refinement ih => exact ih
  | coerce inner ih => exact ih
  | _ => exact .primitive _

/-! ## Reading what is written

Reading recurses through members, so what it does on each written form is stated first. -/

theorem ofJson?_array (numbered : Bool) (element : Json) :
    ofJson? numbered (.object [("kind", .string "array"), ("element", element)]) =
      (ofJson? true element).map .array := rfl

theorem ofJson?_optional (numbered : Bool) (inner : Json) :
    ofJson? numbered (.object [("kind", .string "optional"), ("inner", inner)]) =
      (ofJson? true inner).map .optional := rfl

theorem ofJson?_nullable (numbered : Bool) (inner : Json) :
    ofJson? numbered (.object [("kind", .string "nullable"), ("inner", inner)]) =
      (ofJson? true inner).map .nullable := rfl

theorem ofJson?_object (numbered : Bool) (fields : List (String × Json)) (omittable : Json) :
    ofJson? numbered (.object [("kind", .string "object"), ("fields", .object fields), ("optional", omittable)]) =
      (fieldsOfJson? fields).bind fun fs => (namesOfJson? omittable).bind fun names => some (.object fs names) := rfl

theorem fieldsOfJson?_cons (name : String) (value : Json) (rest : List (String × Json)) :
    fieldsOfJson? ((name, value) :: rest) =
      (ofJson? true value).bind fun d => (fieldsOfJson? rest).bind fun ds => some ((name, d) :: ds) := rfl

/-- `fieldsOfJson?` inverts `fieldsToJson`, if `ofJson?` inverts `toJson` for each field. -/
theorem fieldsOfJson?_fieldsToJson {fields : List (String × Descriptor)}
    (h : ∀ f ∈ fields, ofJson? true f.2.toJson = some f.2) : fieldsOfJson? (fieldsToJson fields) = some fields := by
  induction fields with
  | nil => rfl
  | cons f rest ih =>
    have hrest := ih fun g hg => h g (List.mem_cons_of_mem f hg)
    rw [fieldsToJson, fieldsOfJson?_cons, h f List.mem_cons_self, hrest]
    rfl

/-- `namesOfJson?` reads `Ascending` names back. -/
theorem namesOfJson?_map {names : NameSet} (h : names.Ascending) :
    namesOfJson? (.array (names.map .string)) = some names := by
  have hmap : ∀ ns : List String, (ns.map Json.string).mapM Json.asString? = some ns := by
    intro ns
    induction ns with
    | nil => rfl
    | cons n rest ih => rw [List.map_cons, List.mapM_cons, ih]; rfl
  rw [namesOfJson?, hmap, Option.map_some, h.ofList_eq]

/-- **`ofJson?` inverts `toJson`** on `Ordered` descriptors, at the top and below. -/
theorem ofJson?_toJson {d : Descriptor} (h : d.Ordered) (numbered : Bool) : ofJson? numbered d.toJson = some d := by
  induction h generalizing numbered with
  | primitive p => cases p <;> rfl
  | object names _ ih =>
    rw [toJson, ofJson?_object, fieldsOfJson?_fieldsToJson fun f hf => ih f hf true, namesOfJson?_map names]
    rfl
  | array _ ih => rw [toJson, ofJson?_array, ih, Option.map_some]
  | optional _ ih => rw [toJson, ofJson?_optional, ih, Option.map_some]
  | nullable _ ih => rw [toJson, ofJson?_nullable, ih, Option.map_some]

/-! ## Equality -/

/-- `get?` in `fieldsToJson fields` is `toJson` of `get?` in `fields`. -/
theorem get?_fieldsToJson (name : String) (fields : List (String × Descriptor)) :
    Members.get? name (fieldsToJson fields) = (Members.get? name fields).map toJson := by
  induction fields with
  | nil => rfl
  | cons f rest ih =>
    obtain ⟨key, d⟩ := f
    rw [fieldsToJson, Members.get?, Members.get?, ih]
    split <;> rfl

theorem length_fieldsToJson (fields : List (String × Descriptor)) : (fieldsToJson fields).length = fields.length := by
  induction fields with
  | nil => rfl
  | cons f rest ih => rw [fieldsToJson, List.length_cons, ih, List.length_cons]

/-- `membersWithin` of JSON forms is `fieldsWithin`. -/
theorem membersWithin_fieldsToJson {fs : List (String × Descriptor)} (gs : List (String × Descriptor))
    (h : ∀ f ∈ fs, ∀ b : Descriptor, f.2.toJson.same b.toJson = f.2.same b) :
    Json.membersWithin (fieldsToJson fs) (fieldsToJson gs) = fieldsWithin fs gs := by
  induction fs with
  | nil => rfl
  | cons f rest ih =>
    have hrest := ih fun g hg => h g (List.mem_cons_of_mem f hg)
    rw [fieldsToJson, Json.membersWithin, fieldsWithin, hrest, get?_fieldsToJson]
    cases Members.get? f.1 gs with
    | none => rfl
    | some other => simp only [Option.map_some, h f List.mem_cons_self]

/-- `sameItems` of lists of texts is their equality. -/
theorem sameItems_map_string (names others : List String) :
    Json.sameItems (names.map .string) (others.map .string) = (names == others) := by
  induction names generalizing others with
  | nil => cases others <;> rfl
  | cons n rest ih =>
    cases others with
    | nil => rfl
    | cons n' rest' =>
      rw [List.map_cons, List.map_cons, Json.sameItems, ih]
      rfl

/-- `same` of nodes of one constructor with one part is `same` of their parts. -/
theorem same_part (kind : String) {name : String} (hname : "kind" ≠ name) (v other : Json) :
    (Json.object [("kind", .string kind), (name, v)]).same (.object [("kind", .string kind), (name, other)]) =
      v.same other := by
  simp [Json.same, Json.membersWithin, Members.get?, hname]

/-- **`toJson` keeps `same`.** -/
theorem same_toJson (a b : Descriptor) : a.toJson.same b.toJson = a.same b := by
  induction a generalizing b with
  | primitive p =>
    cases b with
    | primitive q => cases p <;> cases q <;> rfl
    | _ => rfl
  | object fields omittable ih =>
    cases b with
    | object gs ps =>
      rw [same, ← membersWithin_fieldsToJson gs fun f hf => ih f hf, ← sameItems_map_string,
        ← length_fieldsToJson fields, ← length_fieldsToJson gs]
      simp [toJson, Json.same, Json.membersWithin, Members.get?]
    | _ => rfl
  | array element ih =>
    cases b with
    | array other => exact (same_part "array" (by decide) _ _).trans (ih other)
    | _ => rfl
  | optional inner ih =>
    cases b with
    | optional other => exact (same_part "optional" (by decide) _ _).trans (ih other)
    | _ => rfl
  | nullable inner ih =>
    cases b with
    | nullable other => exact (same_part "nullable" (by decide) _ _).trans (ih other)
    | _ => rfl

end Descriptor

/-! ## Contracts -/

namespace Contract

/-- A contract in whose descriptors the names that may be absent are in ascending order. -/
structure Ordered (c : Contract) : Prop where
  body : ∀ d ∈ c.body, d.Ordered
  routeParams : ∀ d ∈ c.routeParams, d.Ordered
  searchParams : ∀ d ∈ c.searchParams, d.Ordered

/-- `get?` finds a piece under its name, and looks other names up behind it. -/
theorem get?_pieceToJson_append (name key : String) (piece : Option Descriptor) (rest : Members Json) :
    Members.get? name (pieceToJson key piece ++ rest) =
      if key = name then (piece.map Descriptor.toJson).or (Members.get? name rest) else Members.get? name rest := by
  cases piece with
  | none => simp [pieceToJson]
  | some d => simp [pieceToJson, Members.get?]

/-- `pieceOfJson?` reads a piece back, and a missing one is missing: no descriptor is written as `null`. -/
theorem pieceOfJson?_map {piece : Option Descriptor} (h : ∀ d ∈ piece, d.Ordered) :
    pieceOfJson? (piece.map Descriptor.toJson) = some piece := by
  cases piece with
  | none => rfl
  | some d =>
    have hread := Descriptor.ofJson?_toJson (h d rfl) false
    have hpiece : pieceOfJson? (some d.toJson) = (Descriptor.ofJson? false d.toJson).map some := by cases d <;> rfl
    rw [Option.map_some, hpiece, hread, Option.map_some]

/-- **`ofJson?` inverts `toJson`** on `Ordered` contracts, whichever of their pieces are there. -/
theorem ofJson?_toJson {c : Contract} (h : c.Ordered) : ofJson? c.toJson = some c := by
  have hlast : pieceToJson "searchParams" c.searchParams = pieceToJson "searchParams" c.searchParams ++ [] :=
    (List.append_nil _).symm
  rw [toJson, hlast, List.append_assoc, ofJson?]
  simp only [get?_pieceToJson_append, Members.get?_nil, Option.or_none, String.reduceEq, if_true, if_false,
    pieceOfJson?_map h.body, pieceOfJson?_map h.routeParams, pieceOfJson?_map h.searchParams]
  rfl

/-- **The JSON form loses nothing.** `Descriptor.ofJson? numbered d.toJson = some d` for every `Ordered` descriptor, with
its fields in the same order and the same names in `optional`, and `ofJson? c.toJson = some c` for every `Ordered`
contract, with any of its pieces present or absent. Therefore `toJson` is injective on both; and two JSON forms are the
`same` values, up to the order of members, exactly if the descriptors are. -/
theorem json_lossless :
    (∀ (numbered : Bool) (d : Descriptor), d.Ordered → Descriptor.ofJson? numbered d.toJson = some d) ∧
    (∀ c : Contract, c.Ordered → ofJson? c.toJson = some c) ∧
    (∀ a b : Descriptor, a.Ordered → b.Ordered → a.toJson = b.toJson → a = b) ∧
    (∀ a b : Contract, a.Ordered → b.Ordered → a.toJson = b.toJson → a = b) ∧
    ∀ a b : Descriptor, a.toJson.same b.toJson = a.same b := by
  -- what is read back from one JSON form is one value
  refine ⟨fun numbered d hd => Descriptor.ofJson?_toJson hd numbered, fun c hc => ofJson?_toJson hc,
    fun a b ha hb h => ?_, fun a b ha hb h => ?_, Descriptor.same_toJson⟩
  · have hread := Descriptor.ofJson?_toJson ha false
    rw [h, Descriptor.ofJson?_toJson hb false] at hread
    exact (Option.some.inj hread).symm
  · have hread := ofJson?_toJson ha
    rw [h, ofJson?_toJson hb] at hread
    exact (Option.some.inj hread).symm

/-- A schema whose fields have the names that the JSON form of a descriptor uses itself. -/
def taggedSchema : Schema :=
  .object [("kind", .optional .string), ("fields", .array (.nullish .number)),
    ("optional", .object [("of", .boolean), ("inner", .default .any .null)])]

/-- A contract with a body and search parameters, but without parameters of the route. -/
def taggedContract : Contract := ⟨some taggedSchema.toDescriptor, none, some (Schema.object []).toDescriptor⟩

/-- `taggedContract` is read back as it was, although its fields have the names of the form itself. -/
theorem json_lossless_tagged :
    taggedContract.Ordered ∧ ofJson? taggedContract.toJson = some taggedContract ∧
      taggedSchema.toDescriptor.Ordered ∧
      Descriptor.ofJson? false taggedSchema.toDescriptor.toJson = some taggedSchema.toDescriptor := by
  have hschema := Descriptor.ordered_toDescriptor taggedSchema
  have hcontract : taggedContract.Ordered := by
    constructor <;> intro d hd <;> cases hd
    · exact hschema
    · exact Descriptor.ordered_toDescriptor (.object [])
  exact ⟨hcontract, json_lossless.2.1 _ hcontract, hschema, json_lossless.1 false _ hschema⟩

end Contract

end RouteContracts
