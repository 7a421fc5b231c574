import Mathlib.Algebra.BigOperators.Group.List.Basic
import Mathlib.Algebra.GroupWithZero.Nat
import RouteContracts.Proofs.Artifact.Reading
import RouteContracts.Proofs.Descriptor.Equality

/-! # Drafting modules
What a descriptor adds to a module: one record for each of its objects, and nothing else. The records come
in the order in which the names of fields are written, and types mention only records that are added.

* `Descriptor.objects`: how many objects there are, which equality of descriptors does not change.
* `Adds`: what is added to a draft. `typeOf_adds`, `addEndpoint_adds`: **what a descriptor adds**, and what
  an endpoint adds.
* `MethodModule.readable_of_isValid`: the items of a module can be read when its names can be written. -/

namespace RouteContracts

/-! ## Counting objects -/

namespace Descriptor

mutual

/-- How many objects there are in a descriptor. -/
def objects : Descriptor → Nat
  | .primitive _ => 0
  | .object fields _ => fieldsObjects fields + 1
  | .array d | .optional d | .nullable d => d.objects

/-- How many objects there are inside of some fields. -/
def fieldsObjects : List (String × Descriptor) → Nat
  | [] => 0
  | (_, d) :: rest => d.objects + fieldsObjects rest

end

theorem fieldsObjects_eq_sum (fields : List (String × Descriptor)) :
    fieldsObjects fields = ((fields.map fun f => (f.1, f.2.objects)).map Prod.snd).sum := by
  induction fields with
  | nil => rfl
  | cons f rest ih => rw [fieldsObjects, ih]; rfl

/-- **Descriptors that are the `same` have equally many `objects`.** -/
theorem objects_eq_of_same {a b : Descriptor} (ha : a.Distinct) (h : a.same b = true) :
    a.objects = b.objects := by
  induction ha generalizing b with
  | primitive p => rw [eq_of_primitive_same h]
  | @object fs omittable names _ ih =>
    obtain ⟨gs, rfl, hlength, hwithin⟩ := exists_of_object_same h
    -- with the numbers beside the names, the fields of one are those of the other
    have hsub : (fs.map fun f => (f.1, f.2.objects)) ⊆ gs.map fun g => (g.1, g.2.objects) := by
      intro p hp
      obtain ⟨f, hf, rfl⟩ := List.mem_map.mp hp
      obtain ⟨d, hd, hsame⟩ := fieldsWithin_iff.mp hwithin f hf
      exact List.mem_map.mpr ⟨(f.1, d), Members.mem_of_get? hd, by rw [ih f hf hsame]⟩
    have hnodup : (fs.map fun f => (f.1, f.2.objects)).Nodup := by
      refine List.Nodup.of_map Prod.fst ?_
      rw [List.map_map]
      exact names
    have hperm := (hnodup.subperm hsub).perm_of_length_le (by simp [hlength])
    rw [objects, objects, fieldsObjects_eq_sum, fieldsObjects_eq_sum, (hperm.map Prod.snd).sum_eq]
  | array _ ih =>
    obtain ⟨b, rfl, h⟩ := exists_of_array_same h
    rw [objects, objects, ih h]
  | optional _ ih =>
    obtain ⟨b, rfl, h⟩ := exists_of_optional_same h
    rw [objects, objects, ih h]
  | nullable _ ih =>
    obtain ⟨b, rfl, h⟩ := exists_of_nullable_same h
    rw [objects, objects, ih h]

end Descriptor

namespace Artifact

/-! ## What is added -/

/-- The names of some records. -/
def recordNames (rs : List Record) : List String := rs.map Record.name

/-- The names of the fields of some records on the wire, in order. -/
def fieldNames (rs : List Record) : List String := rs.flatMap fun r => r.fields.map Field.wireName

/-- A draft with the records `rs` added, which mention none but themselves. -/
structure Adds (d d' : Draft) (rs : List Record) : Prop where
  /-- The records come after the items that were there. -/
  items : d'.items = d.items ++ rs.map ModuleItem.record
  /-- The types of fields mention records that are added. -/
  closed : ∀ r ∈ rs, ∀ f ∈ r.fields, f.type.records ⊆ recordNames rs

namespace Adds

variable {d d' d'' : Draft} {rs rs' : List Record}

/-- `Adds` is reflexive: no records, whatever names are claimed. -/
theorem nil {names : Names} : Adds d ⟨names, d.items⟩ [] :=
  ⟨by rw [List.map_nil, List.append_nil], fun _ hr => absurd hr List.not_mem_nil⟩

/-- `Adds` composes: one addition after another. -/
theorem append (h : Adds d d' rs) (h' : Adds d' d'' rs') : Adds d d'' (rs ++ rs') := by
  refine ⟨by rw [h'.items, h.items, List.append_assoc, List.map_append], fun r hr f hf => ?_⟩
  rw [recordNames, List.map_append]
  rcases List.mem_append.mp hr with hr | hr
  · exact List.Subset.trans (h.closed r hr f hf) (List.subset_append_left _ _)
  · exact List.Subset.trans (h'.closed r hr f hf) (List.subset_append_right _ _)

end Adds

theorem records_optional (t : FieldType) : t.optional.records = t.records := by
  cases t <;> rfl

/-- `fieldsOf` `Adds` the records of its descriptors, and its fields mention no others. -/
theorem fieldsOf_adds (fields : List (String × Descriptor))
    (ih : ∀ f ∈ fields, ∀ (d : Draft) (hint : String), ∃ rs, Adds d (typeOf d hint f.2).2 rs ∧
      (typeOf d hint f.2).1.records ⊆ recordNames rs ∧ rs.length = f.2.objects ∧
      fieldNames rs = f.2.written)
    (d : Draft) (owner : String) (omittable : NameSet) (idents : Names) :
    ∃ rs, Adds d (fieldsOf d owner omittable idents fields).2 rs ∧
      (∀ f ∈ (fieldsOf d owner omittable idents fields).1, f.type.records ⊆ recordNames rs) ∧
      rs.length = Descriptor.fieldsObjects fields ∧ fieldNames rs = Descriptor.fieldsWritten fields ∧
      (fieldsOf d owner omittable idents fields).1.map Field.wireName = fields.map Prod.fst := by
  induction fields generalizing d idents with
  | nil => exact ⟨[], .nil, fun _ hf => absurd hf List.not_mem_nil, rfl, rfl, rfl⟩
  | cons f rest ihrest =>
    obtain ⟨wireName, descriptor⟩ := f
    obtain ⟨rs, hadds, htype, hlength, hnames⟩ :=
      ih _ (List.mem_cons_self ..) d (owner ++ Text.upperCamel wireName)
    obtain ⟨rs', hadds', htypes, hlength', hnames', hwire⟩ := ihrest
      (fun f hf => ih f (List.mem_cons_of_mem _ hf)) (typeOf d (owner ++ Text.upperCamel wireName) descriptor).2
      (idents.claim (fieldIdent wireName)).2
    refine ⟨rs ++ rs', hadds.append hadds', ?_, ?_, ?_, ?_⟩
    · intro f hf
      rw [recordNames, List.map_append]
      rcases List.mem_cons.mp hf with rfl | hf
      · -- left out or not, a field has the records of its type
        refine List.Subset.trans ?_ (List.subset_append_left _ _)
        dsimp only
        split
        · rw [records_optional]; exact htype
        · exact htype
      · exact List.Subset.trans (htypes f hf) (List.subset_append_right _ _)
    · rw [List.length_append, hlength, hlength', Descriptor.fieldsObjects]
    · rw [fieldNames, List.flatMap_append, Descriptor.fieldsWritten, ← hnames, ← hnames']
      rfl
    · exact congrArg (List.cons wireName) hwire

/-- **`typeOf d hint a` `Adds`** `a.objects` records, whose fields have the names `a.written` in that order, by
induction on the descriptor. -/
theorem typeOf_adds (a : Descriptor) : ∀ (d : Draft) (hint : String), ∃ rs, Adds d (typeOf d hint a).2 rs ∧
    (typeOf d hint a).1.records ⊆ recordNames rs ∧ rs.length = a.objects ∧ fieldNames rs = a.written := by
  induction a with
  | primitive p =>
    intro d hint
    refine ⟨[], .nil, ?_, rfl, rfl⟩
    cases p <;> exact List.nil_subset _
  | object fields omittable ih =>
    intro d hint
    obtain ⟨rs, hadds, htypes, hlength, hnames, hwire⟩ :=
      fieldsOf_adds fields ih (d.claim hint).2 (d.claim hint).1 omittable []
    let r : Record := ⟨(d.claim hint).1, (fieldsOf (d.claim hint).2 (d.claim hint).1 omittable [] fields).1⟩
    have hitems : (typeOf d hint (.object fields omittable)).2.items =
      (fieldsOf (d.claim hint).2 (d.claim hint).1 omittable [] fields).2.items ++ [.record r] := rfl
    refine ⟨rs ++ [r], ⟨?_, ?_⟩, ?_, ?_, ?_⟩
    · rw [hitems, hadds.items, List.map_append, List.append_assoc]
      rfl
    · -- the fields refer to records that come before this one
      intro r hr f hf
      rw [recordNames, List.map_append]
      refine List.Subset.trans ?_ (List.subset_append_left _ _)
      rcases List.mem_append.mp hr with hr | hr
      · exact hadds.closed r hr f hf
      · obtain rfl := List.mem_singleton.mp hr
        exact htypes f hf
    · rw [recordNames, List.map_append]
      exact List.subset_append_right _ _
    · rw [List.length_append, hlength]
      rfl
    · rw [fieldNames, List.flatMap_append, Descriptor.written, ← hnames, ← hwire]
      simp [fieldNames, r]
  | array element ih =>
    intro d hint
    exact ih d (hint ++ "Item")
  | optional inner ih | nullable inner ih =>
    intro d hint
    obtain ⟨rs, hadds, htype, hlength, hnames⟩ := ih d hint
    refine ⟨rs, hadds, ?_, hlength, hnames⟩
    -- an option around a type brings no record of its own
    show (typeOf d hint inner).1.optional.records ⊆ _
    rw [records_optional]
    exact htype

end Artifact

/-! ## Contracts -/

/-- The names of the fields of a piece of a contract, in the order in which records are written. -/
def pieceWritten (piece : Option Descriptor) : List String := piece.elim [] Descriptor.written

/-- How many objects there are in a piece of a contract. -/
def pieceObjects (piece : Option Descriptor) : Nat := piece.elim 0 Descriptor.objects

namespace Contract

/-- The names of the fields of a contract, in the order in which records are written. -/
def written (c : Contract) : List String :=
  pieceWritten c.body ++ pieceWritten c.routeParams ++ pieceWritten c.searchParams

/-- How many objects there are in a contract. -/
def objects (c : Contract) : Nat :=
  pieceObjects c.body + pieceObjects c.routeParams + pieceObjects c.searchParams

end Contract

namespace Artifact

namespace ModuleItem

/-- The name of a record. -/
def recordName? : ModuleItem → Option String
  | .record r => some r.name
  | .endpoint _ => none

/-- The records that the types of an item mention. -/
def mentions : ModuleItem → List String
  | .record r => r.fields.flatMap fun f => f.type.records
  | .endpoint e => (e.body.toList ++ e.routeParams.toList ++ e.searchParams.toList).flatMap FieldType.records

end ModuleItem

/-- Items whose types mention only records among them. -/
def Closed (items : List ModuleItem) : Prop :=
  ∀ i ∈ items, i.mentions ⊆ items.filterMap ModuleItem.recordName?

/-- `Closed` items one after another are `Closed`. -/
theorem Closed.append {is js : List ModuleItem} (hi : Closed is) (hj : Closed js) : Closed (is ++ js) := by
  intro k hk
  rw [List.filterMap_append]
  rcases List.mem_append.mp hk with hk | hk
  · exact List.Subset.trans (hi k hk) (List.subset_append_left _ _)
  · exact List.Subset.trans (hj k hk) (List.subset_append_right _ _)

theorem filterMap_recordName? (rs : List Record) :
    (rs.map ModuleItem.record).filterMap ModuleItem.recordName? = recordNames rs := by
  induction rs with
  | nil => rfl
  | cons r rs ih =>
    rw [List.map_cons, List.filterMap_cons, ih]
    rfl

/-- `pieceType` `Adds` what `typeOf` does. -/
theorem pieceType_adds (piece : Option Descriptor) (d : Draft) (hint : String) :
    ∃ rs, Adds d (pieceType d hint piece).2 rs ∧
      (pieceType d hint piece).1.toList.flatMap FieldType.records ⊆ recordNames rs ∧
      rs.length = pieceObjects piece ∧ fieldNames rs = pieceWritten piece := by
  cases piece with
  | none => exact ⟨[], .nil, List.nil_subset _, rfl, rfl⟩
  | some a =>
    obtain ⟨rs, hadds, htype, hlength, hnames⟩ := typeOf_adds a d hint
    refine ⟨rs, hadds, ?_, hlength, hnames⟩
    show [(typeOf d hint a).1].flatMap FieldType.records ⊆ _
    rw [List.flatMap_singleton]
    exact htype

/-- **`addEndpoint` adds** `Closed` items: `c.objects` records, and the endpoint after them. -/
theorem addEndpoint_adds (d : Draft) (pattern : String) (c : Contract) :
    ∃ items, (addEndpoint d pattern c).items = d.items ++ items ∧ Closed items ∧
      items.map ModuleItem.kind = List.replicate c.objects none ++ [some pattern] ∧
      items.flatMap ModuleItem.wireNames = c.written := by
  let name := (d.claim (endpointName pattern)).1
  let d₀ := (d.claim (endpointName pattern)).2
  -- each part of the contract is added to the draft that the one before it left
  obtain ⟨rs₁, h₁, ht₁, hl₁, hn₁⟩ := pieceType_adds c.body d₀ (name ++ "Body")
  let d₁ := (pieceType d₀ (name ++ "Body") c.body).2
  obtain ⟨rs₂, h₂, ht₂, hl₂, hn₂⟩ := pieceType_adds c.routeParams d₁ (name ++ "RouteParams")
  let d₂ := (pieceType d₁ (name ++ "RouteParams") c.routeParams).2
  obtain ⟨rs₃, h₃, ht₃, hl₃, hn₃⟩ := pieceType_adds c.searchParams d₂ (name ++ "SearchParams")
  have hadds := (h₁.append h₂).append h₃
  let e : EndpointItem := ⟨name, pattern, (pieceType d₀ (name ++ "Body") c.body).1,
    (pieceType d₁ (name ++ "RouteParams") c.routeParams).1,
    (pieceType d₂ (name ++ "SearchParams") c.searchParams).1⟩
  have hitems : (addEndpoint d pattern c).items =
      (pieceType d₂ (name ++ "SearchParams") c.searchParams).2.items ++ [.endpoint e] := rfl
  let rs := rs₁ ++ rs₂ ++ rs₃
  refine ⟨rs.map ModuleItem.record ++ [.endpoint e], ?_, ?_, ?_, ?_⟩
  · rw [hitems, hadds.items, List.append_assoc]
    rfl
  · -- nothing refers to a record of another endpoint
    intro i hi
    rw [List.filterMap_append, filterMap_recordName?]
    refine List.Subset.trans ?_ (List.subset_append_left _ _)
    rcases List.mem_append.mp hi with hi | hi
    · obtain ⟨r, hr, rfl⟩ := List.mem_map.mp hi
      intro n hn
      obtain ⟨f, hf, hn⟩ := List.mem_flatMap.mp hn
      exact hadds.closed r hr f hf hn
    · obtain rfl := List.mem_singleton.mp hi
      show (e.body.toList ++ e.routeParams.toList ++ e.searchParams.toList).flatMap FieldType.records ⊆ _
      intro n hn
      rw [List.flatMap_append, List.flatMap_append, List.mem_append, List.mem_append] at hn
      rw [recordNames, List.map_append, List.map_append, List.mem_append, List.mem_append]
      rcases hn with (hn | hn) | hn
      · exact .inl (.inl (ht₁ hn))
      · exact .inl (.inr (ht₂ hn))
      · exact .inr (ht₃ hn)
  · have hrecords : (rs.map ModuleItem.record).map ModuleItem.kind = List.replicate rs.length none := by
      rw [List.map_map]
      exact List.map_const'
    rw [List.map_append, hrecords, List.length_append, List.length_append, hl₁, hl₂, hl₃]
    rfl
  · have hrecords : (rs.map ModuleItem.record).flatMap ModuleItem.wireNames = fieldNames rs := by
      rw [List.flatMap_map]
      rfl
    rw [List.flatMap_append, hrecords, fieldNames, List.flatMap_append, List.flatMap_append, Contract.written,
      ← hn₁, ← hn₂, ← hn₃]
    exact List.append_nil _

namespace MethodModule

/-- Folding `addEndpoint` over `contracts` adds the items of each, in order. -/
theorem foldl_addEndpoint (contracts : List (String × Contract)) (d : Draft) :
    ∃ items, (contracts.foldl (fun d p => addEndpoint d p.1 p.2) d).items = d.items ++ items ∧ Closed items ∧
      items.map ModuleItem.kind =
        contracts.flatMap (fun p => List.replicate p.2.objects none ++ [some p.1]) ∧
      items.flatMap ModuleItem.wireNames = contracts.flatMap (fun p => p.2.written) := by
  induction contracts generalizing d with
  | nil => exact ⟨[], (List.append_nil _).symm, fun _ hi => absurd hi List.not_mem_nil, rfl, rfl⟩
  | cons p rest ih =>
    obtain ⟨items, hitems, hclosed, hkinds, hnames⟩ := addEndpoint_adds d p.1 p.2
    obtain ⟨items', hitems', hclosed', hkinds', hnames'⟩ := ih (addEndpoint d p.1 p.2)
    refine ⟨items ++ items', ?_, hclosed.append hclosed', ?_, ?_⟩
    · rw [List.foldl_cons, hitems', hitems, List.append_assoc]
    · rw [List.map_append, List.flatMap_cons, hkinds, hkinds']
    · rw [List.flatMap_append, List.flatMap_cons, hnames, hnames']

variable (m : Method) (contracts : List (String × Contract))

theorem closed_ofContracts : Closed (ofContracts m contracts).items := by
  obtain ⟨items, hitems, hclosed, -, -⟩ := foldl_addEndpoint contracts Draft.empty
  rw [ofContracts, hitems]
  exact hclosed

/-- The `kinds` of the items of a module: for each contract `p.2.objects` records and an endpoint for `p.1`. -/
theorem kinds_ofContracts : (ofContracts m contracts).kinds =
    (m, contracts.flatMap fun p => List.replicate p.2.objects none ++ [some p.1]) := by
  obtain ⟨items, hitems, -, hkinds, -⟩ := foldl_addEndpoint contracts Draft.empty
  rw [kinds, ofContracts, hitems]
  exact congrArg (Prod.mk m) hkinds

/-- **The `wireNames` of a module** are those that its contracts have `written`. -/
theorem wireNames_ofContracts :
    (ofContracts m contracts).wireNames = contracts.flatMap fun p => p.2.written := by
  obtain ⟨items, hitems, -, -, hnames⟩ := foldl_addEndpoint contracts Draft.empty
  rw [wireNames, ofContracts, hitems]
  exact hnames

end MethodModule

/-! ## Readable items -/

/-- `isPathChar` implies `isTypeChar`. -/
theorem isTypeChar_of_isPathChar {c : Char} (h : isPathChar c = true) : isTypeChar c = true := by
  have hends : [' ', '\n', ',', '>', ';', '<'].any isPathChar = false := by decide
  have hne : ∀ d ∈ [' ', '\n', ',', '>', ';', '<'], c ≠ d := by
    rintro d hd rfl
    exact List.any_eq_false.mp hends c hd h
  simp only [List.forall_mem_cons, List.not_mem_nil, false_implies, implies_true, and_true] at hne
  simp [isTypeChar, endsType, Layout.isFiller, hne]

theorem isTypeName_of_chars {w : String} (hw : w.toList.all isPathChar = true) (hne : w.toList ≠ []) :
    IsTypeName w := by
  refine ⟨?_, hne⟩
  rw [List.all_eq_true] at hw ⊢
  exact fun c hc => isTypeChar_of_isPathChar (hw c hc)

/-- `isName` implies `IsTypeName`: a name can stand in front of a type. -/
theorem isTypeName_of_isName {n : String} (h : isName n = true) : IsTypeName n := by
  obtain ⟨hall, hne⟩ := isName_chars h
  refine isTypeName_of_chars ?_ hne
  rw [List.all_eq_true] at hall ⊢
  intro c hc
  rw [isPathChar, hall c hc]
  rfl

/-- The pieces of a type are `IsType` when the records that it mentions have names that are `isName`. -/
theorem isType_typePieces {given : String} {runtime : RuntimePath}
    (hruntime : RuntimePath.ofText? given = some runtime) (t : FieldType)
    (ht : ∀ n ∈ t.records, isName n = true) : IsType (typePieces runtime t) := by
  induction t with
  | text | number | truth | unit => exact .leaf ⟨by decide, by decide⟩
  | anyJson =>
    refine .leaf (isTypeName_of_chars ?_ ?_)
    · rw [String.toList_append, List.all_append, RuntimePath.spelled_chars hruntime]
      decide
    · rw [String.toList_append]
      exact List.append_ne_nil_of_right_ne_nil _ (by decide)
  | record name => exact .leaf (isTypeName_of_isName (ht name (List.mem_singleton.mpr rfl)))
  | list t ih | option t ih => exact .generic ⟨by decide, by decide⟩ (ih ht)

theorem isType_contractType {given : String} {runtime : RuntimePath}
    (hruntime : RuntimePath.ofText? given = some runtime) (t : Option FieldType)
    (ht : ∀ n ∈ t.toList.flatMap FieldType.records, isName n = true) : IsType (contractType runtime t) := by
  cases t with
  | none => exact .leaf ⟨by decide, by decide⟩
  | some t => exact isType_typePieces hruntime t (by simpa using ht)

theorem ModuleItem.isNamed_of_isValid {runtime : RuntimePath} {i : ModuleItem} (h : i.isValid runtime = true) :
    i.isNamed runtime = true := (Bool.and_eq_true _ _ ▸ h).1

/-- In `Closed` items that are all `isValid`, what an item mentions is `isName`. -/
theorem isName_of_mem_mentions {runtime : RuntimePath} {items : List ModuleItem} (hclosed : Closed items)
    (hvalid : ∀ i ∈ items, i.isValid runtime = true) {i : ModuleItem} (hi : i ∈ items) :
    ∀ n ∈ i.mentions, isName n = true := by
  intro n hn
  obtain ⟨j, hj, hn⟩ := List.mem_filterMap.mp (hclosed i hi hn)
  cases j with
  | endpoint e => exact nomatch hn
  | record r =>
    obtain rfl := Option.some.inj hn
    have h := ModuleItem.isNamed_of_isValid (hvalid _ hj)
    rw [ModuleItem.isNamed, Record.isValid, Bool.and_eq_true, Bool.and_eq_true] at h
    exact h.1.1

/-- **`Closed` items that are all `isValid` are `Readable`.** -/
theorem readable_of_isValid {given : String} {runtime : RuntimePath}
    (hruntime : RuntimePath.ofText? given = some runtime) {items : List ModuleItem} (hclosed : Closed items)
    (hvalid : ∀ i ∈ items, i.isValid runtime = true) : ∀ i ∈ items, i.Readable runtime := by
  intro i hi
  have hmentions := isName_of_mem_mentions hclosed hvalid hi
  have h := ModuleItem.isNamed_of_isValid (hvalid i hi)
  cases i with
  | record r =>
    rw [ModuleItem.isNamed, Record.isValid, Bool.and_eq_true, Bool.and_eq_true, List.all_eq_true] at h
    refine ⟨(isName_chars h.1.1).1, fun f hf => ⟨(isName_chars (h.1.2 f hf)).1, ?_⟩⟩
    exact isType_typePieces hruntime f.type fun n hn => hmentions n (List.mem_flatMap.mpr ⟨f, hf, hn⟩)
  | endpoint e =>
    simp only [ModuleItem.mentions, List.flatMap_append, List.mem_append] at hmentions
    exact ⟨(isName_chars h).1, isType_contractType hruntime _ fun n hn => hmentions n (.inl (.inl hn)),
      isType_contractType hruntime _ fun n hn => hmentions n (.inl (.inr hn)),
      isType_contractType hruntime _ fun n hn => hmentions n (.inr hn)⟩

end Artifact

end RouteContracts
