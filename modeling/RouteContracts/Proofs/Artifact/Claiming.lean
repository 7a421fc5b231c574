import Mathlib.Data.List.Forall2
import RouteContracts.Proofs.Artifact.Names

/-! # Claiming names
A name that is claimed is free, so the names in a module differ. Each endpoint claims one, and the records for
its contract claim names that go on from it: one record for each object, with an identifier for each field.

* `Names.free_notMem`: **a claimed name is free.**
* `Names.claimAll`: names claimed one after another. `Names.nodup_claimAll`: they differ.
* `Descriptor.layouts`: the names of the fields of each object.
* `Grows`: what is added to a draft under a hint, and the names it claims. `typeOf_grows`: **what a descriptor
  adds.**
* `Holds`: what contracts add to a module. `MethodModule.holds_ofContracts`: **what a module holds.**
* `Registry.posting`: a registry with one endpoint, and its module. -/

namespace RouteContracts

namespace Artifact

/-! ## Free names -/

/-- A text with a digit at its end, as numbered forms have it. -/
def EndsWithDigit (s : String) : Prop := s.toList.getLast?.any Char.isDigit = true

instance (s : String) : Decidable (EndsWithDigit s) := inferInstanceAs (Decidable (_ = true))

namespace Names

/-- `base ++ toString i` is injective in `i`. -/
theorem numbered_inj {base : String} {i j : Nat} (h : base ++ toString i = base ++ toString j) : i = j := by
  have hdigits : Nat.toDigits 10 i = Nat.toDigits 10 j := by
    have hlist := congrArg String.toList ((String.append_right_inj base).mp h)
    simpa [Nat.toString_eq_ofList_toDigits] using hlist
  rw [← Nat.ofDigitChars_ten_toDigits (n := i), hdigits, Nat.ofDigitChars_ten_toDigits]

theorem endsWithDigit_numbered (base : String) (m : Nat) : EndsWithDigit (base ++ toString m) := by
  have hdigits : (toString m).toList = Nat.toDigits 10 m := by
    rw [Nat.toString_eq_ofList_toDigits, String.toList_ofList]
  have hne : Nat.toDigits 10 m ≠ [] := Nat.toDigits_ne_nil
  have hlast : ((Nat.toDigits 10 m).getLast hne).isDigit = true :=
    Nat.isDigit_of_mem_toDigits (by decide) (by decide) (List.getLast_mem hne)
  rw [EndsWithDigit, String.toList_append, hdigits, List.getLast?_append_of_ne_nil _ hne,
    List.getLast?_eq_some_getLast hne]
  simpa using hlast

/-- When `numbered` ends with a name that is taken, all forms that it tried are. -/
theorem mem_of_numbered_mem {taken : Names} {base : String} {tries n : Nat}
    (h : numbered taken base tries n ∈ taken) : ∀ i ≤ tries, base ++ toString (n + i) ∈ taken := by
  induction tries generalizing n with
  | zero =>
    intro i hi
    obtain rfl := Nat.le_zero.mp hi
    exact h
  | succ tries ih =>
    rw [numbered] at h
    split at h
    · next hmem =>
      intro i hi
      cases i with
      | zero => exact List.contains_iff_mem.mp hmem
      | succ i =>
        have hnext := ih h i (Nat.le_of_succ_le_succ hi)
        rwa [Nat.add_assoc, Nat.add_comm 1 i] at hnext
    · next hfree => exact absurd (List.contains_iff_mem.mpr h) hfree

/-- **`taken.free base ∉ taken`**: there are more forms to try than names that are taken. -/
theorem free_notMem (taken : Names) (base : String) : taken.free base ∉ taken := by
  rw [free]
  split
  · intro h
    -- every form that was tried is taken, and they are one more than the names that are
    let forms := (List.range (taken.length + 1)).map fun i => base ++ toString (2 + i)
    have hnodup : forms.Nodup := by
      refine List.Nodup.map_on ?_ List.nodup_range
      intro i _ j _ hij
      exact Nat.add_left_cancel (numbered_inj hij)
    have hsub : forms ⊆ taken := by
      intro form hform
      obtain ⟨i, hi, rfl⟩ := List.mem_map.mp hform
      exact mem_of_numbered_mem h i (Nat.le_of_lt_succ (List.mem_range.mp hi))
    have hle := (hnodup.subperm hsub).length_le
    rw [List.length_map, List.length_range] at hle
    exact Nat.not_succ_le_self _ hle
  · next hfree =>
    intro h
    exact hfree (List.contains_iff_mem.mpr h)

/-- `base` is taken after `claim base`, be it by the claim or before. -/
theorem mem_claim (taken : Names) (base : String) : base ∈ (taken.claim base).2 := by
  rcases claim_cases taken base with h | ⟨hmem, -⟩
  · rw [show (taken.claim base).2 = (taken.claim base).1 :: taken from rfl, h]
    exact List.mem_cons_self ..
  · exact List.mem_cons_of_mem _ hmem

theorem nodup_claim {taken : Names} (h : taken.Nodup) (base : String) : (taken.claim base).2.Nodup :=
  List.nodup_cons.mpr ⟨free_notMem taken base, h⟩

/-! ## Names claimed one after another -/

/-- The free forms of some names, claimed one after another. -/
def claimAll (taken : Names) : List String → List String
  | [] => []
  | base :: rest => (taken.claim base).1 :: claimAll (taken.claim base).2 rest

/-- **`claimAll taken bases` has no duplicates**, and nothing of `taken`. -/
theorem nodup_claimAll (taken : Names) (bases : List String) :
    (claimAll taken bases).Nodup ∧ ∀ n ∈ claimAll taken bases, n ∉ taken := by
  induction bases generalizing taken with
  | nil => exact ⟨List.nodup_nil, fun _ hn => absurd hn List.not_mem_nil⟩
  | cons base rest ih =>
    obtain ⟨hnodup, hfree⟩ := ih (taken.claim base).2
    constructor
    · refine List.nodup_cons.mpr ⟨fun hmem => ?_, hnodup⟩
      exact hfree _ hmem (List.mem_cons_self ..)
    · intro n hn
      rcases List.mem_cons.mp hn with rfl | hn
      · exact free_notMem taken base
      · exact fun hmem => hfree n hn (List.mem_cons_of_mem _ hmem)

/-- What is claimed is one of `bases`, or `base ++ toString m`: then `base` was taken, or it comes twice, or it looks
like a numbered form itself. -/
theorem exists_of_mem_claimAll {taken : Names} {bases : List String} {n : String} (h : n ∈ claimAll taken bases) :
    ∃ base ∈ bases, n = base ∨
      (∃ m : Nat, n = base ++ toString m) ∧ (base ∈ taken ∨ 2 ≤ bases.count base ∨ EndsWithDigit base) := by
  induction bases generalizing taken with
  | nil => exact absurd h List.not_mem_nil
  | cons first rest ih =>
    rcases List.mem_cons.mp h with rfl | h
    · refine ⟨first, List.mem_cons_self .., ?_⟩
      rcases claim_cases taken first with h | ⟨hmem, m, h⟩
      · exact .inl h
      · exact .inr ⟨⟨m, h⟩, .inl hmem⟩
    · obtain ⟨base, hbase, rfl | ⟨hnumber, hwhy⟩⟩ := ih h
      · exact ⟨_, List.mem_cons_of_mem _ hbase, .inl rfl⟩
      · refine ⟨base, List.mem_cons_of_mem _ hbase, .inr ⟨hnumber, ?_⟩⟩
        rcases hwhy with hmem | hcount | hdigit
        · -- the name in the way was taken before, or it is the one that has just been claimed
          rcases List.mem_cons.mp hmem with rfl | hmem
          · rcases claim_cases taken first with hfirst | ⟨-, m, hfirst⟩
            · refine .inr (.inl ?_)
              have hfree : taken.free first = first := hfirst
              rw [hfree] at hbase ⊢
              rw [List.count_cons_self]
              have := List.count_pos_iff.mpr hbase
              omega
            · refine .inr (.inr ?_)
              rw [show taken.free first = first ++ toString m from hfirst]
              exact endsWithDigit_numbered first m
          · exact .inl hmem
        · exact .inr (.inl (Nat.le_trans hcount (List.count_le_count_cons ..)))
        · exact .inr (.inr hdigit)

end Names

end Artifact

/-! ## The objects of a contract -/

namespace Descriptor

mutual

/-- **The names of the fields of each object**: the objects inside of fields come before the one that has the fields. -/
def layouts : Descriptor → List (List String)
  | .primitive _ => []
  | .object fields _ => fieldsLayouts fields ++ [fields.map Prod.fst]
  | .array d | .optional d | .nullable d => d.layouts

/-- The names of the fields of the objects inside of some fields. -/
def fieldsLayouts : List (String × Descriptor) → List (List String)
  | [] => []
  | (_, d) :: rest => d.layouts ++ fieldsLayouts rest

end

end Descriptor

/-- The names of the fields of each object in a piece of a contract. -/
def pieceLayouts (piece : Option Descriptor) : List (List String) := piece.elim [] Descriptor.layouts

/-- The names of the fields of each object in a contract. -/
def Contract.layouts (c : Contract) : List (List String) :=
  pieceLayouts c.body ++ pieceLayouts c.routeParams ++ pieceLayouts c.searchParams

namespace Artifact

/-- A record for an object with these fields: it has them in order, and its identifiers are `claimAll` of their
`fieldIdent`s. -/
structure Record.IsFor (r : Record) (names : List String) : Prop where
  wireNames : r.fields.map Field.wireName = names
  idents : r.fields.map Field.ident = Names.claimAll [] (names.map fieldIdent)

/-! ## What a descriptor adds -/

/-- What is added to a draft under `hint`: a record for each object, which claims a name that goes on from `hint`, and
no other name. -/
structure Grows (d d' : Draft) (hint : String) (rs : List Record) (layouts : List (List String)) : Prop where
  items : d'.items = d.items ++ rs.map ModuleItem.record
  names : d'.names.Perm (recordNames rs ++ d.names)
  nodup : d.names.Nodup → d'.names.Nodup
  hinted : ∀ r ∈ rs, ∃ more, r.name = hint ++ more
  records : List.Forall₂ Record.IsFor rs layouts

namespace Grows

variable {d d' d'' : Draft} {hint more : String} {rs rs' : List Record} {layouts layouts' : List (List String)}

theorem nil : Grows d d hint [] [] :=
  ⟨(List.append_nil _).symm, .refl _, id, fun _ hr => absurd hr List.not_mem_nil, .nil⟩

/-- `Grows` composes: one addition after another. -/
theorem append (h : Grows d d' hint rs layouts) (h' : Grows d' d'' hint rs' layouts') :
    Grows d d'' hint (rs ++ rs') (layouts ++ layouts') := by
  refine ⟨?_, ?_, fun hd => h'.nodup (h.nodup hd), ?_, List.rel_append h.records h'.records⟩
  · rw [h'.items, h.items, List.append_assoc, List.map_append]
  · rw [recordNames, List.map_append, List.append_assoc]
    refine h'.names.trans ?_
    refine (List.Perm.append_left _ h.names).trans ?_
    rw [← List.append_assoc, ← List.append_assoc]
    exact List.perm_append_comm.append_right _
  · intro r hr
    rcases List.mem_append.mp hr with hr | hr
    · exact h.hinted r hr
    · exact h'.hinted r hr

/-- What goes on from `hint ++ more` goes on from `hint`. -/
theorem shorten (h : Grows d d' (hint ++ more) rs layouts) : Grows d d' hint rs layouts := by
  refine ⟨h.items, h.names, h.nodup, fun r hr => ?_, h.records⟩
  obtain ⟨rest, hname⟩ := h.hinted r hr
  exact ⟨more ++ rest, by rw [hname, String.append_assoc]⟩

end Grows

/-- `fieldsOf` `Grows` by the records of its descriptors; its fields have the wire names in order, and `claimAll` of the
identifiers. -/
theorem fieldsOf_grows (fields : List (String × Descriptor))
    (ih : ∀ f ∈ fields, ∀ (d : Draft) (hint : String), ∃ rs, Grows d (typeOf d hint f.2).2 hint rs f.2.layouts)
    (d : Draft) (owner : String) (omittable : NameSet) (idents : Names) :
    ∃ rs, Grows d (fieldsOf d owner omittable idents fields).2 owner rs (Descriptor.fieldsLayouts fields) ∧
      (fieldsOf d owner omittable idents fields).1.map Field.wireName = fields.map Prod.fst ∧
      (fieldsOf d owner omittable idents fields).1.map Field.ident =
        Names.claimAll idents ((fields.map Prod.fst).map fieldIdent) := by
  induction fields generalizing d idents with
  | nil => exact ⟨[], .nil, rfl, rfl⟩
  | cons f rest ihrest =>
    obtain ⟨wireName, descriptor⟩ := f
    obtain ⟨rs, hrs⟩ := ih _ (List.mem_cons_self ..) d (owner ++ Text.upperCamel wireName)
    obtain ⟨rs', hrs', hwire, hidents⟩ := ihrest (fun f hf => ih f (List.mem_cons_of_mem _ hf))
      (typeOf d (owner ++ Text.upperCamel wireName) descriptor).2 (idents.claim (fieldIdent wireName)).2
    -- what the first field drafts stands before what the others draft
    refine ⟨rs ++ rs', hrs.shorten.append hrs', ?_, ?_⟩
    · exact congrArg (List.cons wireName) hwire
    · exact congrArg (List.cons (idents.claim (fieldIdent wireName)).1) hidents

/-- **`typeOf d hint a` `Grows`** by a record for each object of `a`, by induction on the descriptor. -/
theorem typeOf_grows (a : Descriptor) :
    ∀ (d : Draft) (hint : String), ∃ rs, Grows d (typeOf d hint a).2 hint rs a.layouts := by
  induction a with
  | primitive p => exact fun d hint => ⟨[], .nil⟩
  | object fields omittable ih =>
    intro d hint
    let name := (d.claim hint).1
    obtain ⟨rs, hrs, hwire, hidents⟩ := fieldsOf_grows fields ih (d.claim hint).2 name omittable []
    let r : Record := ⟨name, (fieldsOf (d.claim hint).2 name omittable [] fields).1⟩
    refine ⟨rs ++ [r], ?_, ?_, ?_, ?_, ?_⟩
    · show (fieldsOf (d.claim hint).2 name omittable [] fields).2.items ++ [.record r] = _
      rw [hrs.items, List.map_append, ← List.append_assoc]
      rfl
    · -- the name is claimed before those of the fields, but the record comes after theirs
      show (fieldsOf (d.claim hint).2 name omittable [] fields).2.names.Perm _
      rw [recordNames, List.map_append, List.append_assoc]
      exact hrs.names
    · exact fun hd => hrs.nodup (Names.nodup_claim hd hint)
    · obtain ⟨more, hmore⟩ : ∃ more, name = hint ++ more := Names.exists_claim_append d.names hint
      intro r' hr'
      rcases List.mem_append.mp hr' with hr' | hr'
      · obtain ⟨rest, hrest⟩ := hrs.hinted r' hr'
        exact ⟨more ++ rest, by rw [hrest, hmore, String.append_assoc]⟩
      · obtain rfl := List.mem_singleton.mp hr'
        exact ⟨more, hmore⟩
    · exact List.rel_append hrs.records (.cons ⟨hwire, hidents⟩ .nil)
  | array element ih =>
    intro d hint
    obtain ⟨rs, hrs⟩ := ih d (hint ++ "Item")
    exact ⟨rs, hrs.shorten⟩
  | optional inner ih | nullable inner ih => exact fun d hint => ih d hint

/-- `pieceType` `Grows` as `typeOf` does. -/
theorem pieceType_grows (piece : Option Descriptor) (d : Draft) (hint : String) :
    ∃ rs, Grows d (pieceType d hint piece).2 hint rs (pieceLayouts piece) := by
  cases piece with
  | none => exact ⟨[], .nil⟩
  | some a => exact typeOf_grows a d hint

/-! ## What contracts add -/

/-- The words behind the name of an endpoint in the names of the records for its contract. -/
def pieceWords : List String := ["Body", "RouteParams", "SearchParams"]

/-- An item that is named for one of some contracts: an endpoint has the `endpointName` of its pattern, with a number
where that is taken, and a record a name with one of `pieceWords` in it. -/
def ModuleItem.IsNamedFor (contracts : List (String × Contract)) : ModuleItem → Prop
  | .endpoint e => ∃ p ∈ contracts, e.pattern = p.1 ∧
      (e.name = endpointName p.1 ∨ ∃ m : Nat, e.name = endpointName p.1 ++ toString m)
  | .record r => ∃ stem, ∃ word ∈ pieceWords, ∃ more, r.name = stem ++ word ++ more

/-- The records among some items. -/
def recordsOf (items : List ModuleItem) : List Record :=
  items.filterMap fun
    | .endpoint _ => none
    | .record r => some r

theorem recordsOf_map_record (rs : List Record) : recordsOf (rs.map ModuleItem.record) = rs := by
  induction rs with
  | nil => rfl
  | cons r rs ih => exact congrArg (List.cons r) ih

/-- What some contracts add to a draft: items with names of their own, among them one for each pattern, and a record for
each object. -/
structure Holds (d d' : Draft) (contracts : List (String × Contract)) (added : List ModuleItem) : Prop where
  items : d'.items = d.items ++ added
  names : d'.names.Perm (added.map ModuleItem.name ++ d.names)
  nodup : d.names.Nodup → d'.names.Nodup
  claimed : ∀ p ∈ contracts, endpointName p.1 ∈ d'.names
  named : ∀ i ∈ added, i.IsNamedFor contracts
  records : List.Forall₂ Record.IsFor (recordsOf added) (contracts.flatMap fun p => p.2.layouts)

/-- **`addEndpoint` adds** the records of its contract and an endpoint: `Holds` for the one contract. -/
theorem addEndpoint_holds (d : Draft) (pattern : String) (c : Contract) :
    ∃ items, Holds d (addEndpoint d pattern c) [(pattern, c)] items := by
  let name := (d.claim (endpointName pattern)).1
  let d₀ := (d.claim (endpointName pattern)).2
  -- each part of the contract begins with the names that the ones before it claimed
  obtain ⟨rs₁, h₁⟩ := pieceType_grows c.body d₀ (name ++ "Body")
  let d₁ := (pieceType d₀ (name ++ "Body") c.body).2
  obtain ⟨rs₂, h₂⟩ := pieceType_grows c.routeParams d₁ (name ++ "RouteParams")
  let d₂ := (pieceType d₁ (name ++ "RouteParams") c.routeParams).2
  obtain ⟨rs₃, h₃⟩ := pieceType_grows c.searchParams d₂ (name ++ "SearchParams")
  let d₃ := (pieceType d₂ (name ++ "SearchParams") c.searchParams).2
  let e : EndpointItem := ⟨name, pattern, (pieceType d₀ (name ++ "Body") c.body).1,
    (pieceType d₁ (name ++ "RouteParams") c.routeParams).1,
    (pieceType d₂ (name ++ "SearchParams") c.searchParams).1⟩
  have hitems : (addEndpoint d pattern c).items = d₃.items ++ [.endpoint e] := rfl
  have hall := (h₁.shorten.append h₂.shorten).append h₃.shorten
  refine ⟨(rs₁ ++ rs₂ ++ rs₃).map ModuleItem.record ++ [.endpoint e], ?_, ?_, ?_, ?_, ?_, ?_⟩
  · rw [hitems, hall.items, List.append_assoc]
    rfl
  · show d₃.names.Perm _
    have hrecords : ((rs₁ ++ rs₂ ++ rs₃).map ModuleItem.record).map ModuleItem.name =
        recordNames (rs₁ ++ rs₂ ++ rs₃) := by
      rw [List.map_map]
      rfl
    rw [List.map_append, hrecords, List.append_assoc]
    exact hall.names
  · exact fun hd => hall.nodup (Names.nodup_claim hd _)
  · -- the name that the pattern calls for is claimed first
    intro p hp
    obtain rfl := List.mem_singleton.mp hp
    exact hall.names.mem_iff.mpr (List.mem_append_right _ (Names.mem_claim d.names _))
  · -- records are named after the endpoint and the part of its contract, the endpoint after its pattern
    intro i hi
    rcases List.mem_append.mp hi with hi | hi
    · obtain ⟨r, hr, rfl⟩ := List.mem_map.mp hi
      rcases List.mem_append.mp hr with hr | hr
      · rcases List.mem_append.mp hr with hr | hr
        · exact ⟨name, "Body", by decide, h₁.hinted r hr⟩
        · exact ⟨name, "RouteParams", by decide, h₂.hinted r hr⟩
      · exact ⟨name, "SearchParams", by decide, h₃.hinted r hr⟩
    · obtain rfl := List.mem_singleton.mp hi
      refine ⟨_, List.mem_singleton_self _, rfl, ?_⟩
      rcases Names.claim_cases d.names (endpointName pattern) with h | ⟨-, h⟩
      · exact .inl h
      · exact .inr h
  · have hrecords : recordsOf ((rs₁ ++ rs₂ ++ rs₃).map ModuleItem.record ++ [.endpoint e]) = rs₁ ++ rs₂ ++ rs₃ := by
      rw [recordsOf, List.filterMap_append, ← recordsOf, recordsOf_map_record]
      exact List.append_nil _
    rw [hrecords, List.flatMap_singleton]
    exact hall.records

/-- `IsNamedFor` is monotone in the contracts. -/
theorem ModuleItem.IsNamedFor.mono {cs cs' : List (String × Contract)} (h : cs ⊆ cs') {i : ModuleItem}
    (hi : i.IsNamedFor cs) : i.IsNamedFor cs' := by
  cases i with
  | record r => exact hi
  | endpoint e =>
    obtain ⟨p, hp, hname⟩ := hi
    exact ⟨p, h hp, hname⟩

/-- Folding `addEndpoint` over `contracts` adds what `Holds` for all of them, by induction on the list. -/
theorem foldl_addEndpoint_holds (contracts : List (String × Contract)) (d : Draft) :
    ∃ items, Holds d (contracts.foldl (fun d p => addEndpoint d p.1 p.2) d) contracts items := by
  induction contracts generalizing d with
  | nil =>
    exact ⟨[], (List.append_nil _).symm, .refl _, id, fun _ hp => absurd hp List.not_mem_nil,
      fun _ hi => absurd hi List.not_mem_nil, .nil⟩
  | cons p rest ih =>
    obtain ⟨items, h⟩ := addEndpoint_holds d p.1 p.2
    obtain ⟨items', h'⟩ := ih (addEndpoint d p.1 p.2)
    refine ⟨items ++ items', ?_, ?_, fun hd => h'.nodup (h.nodup hd), ?_, ?_, ?_⟩
    · rw [List.foldl_cons, h'.items, h.items, List.append_assoc]
    · rw [List.map_append, List.append_assoc]
      -- names that are claimed later stand in front
      refine (h'.names.trans (List.Perm.append_left _ h.names)).trans ?_
      rw [← List.append_assoc, ← List.append_assoc]
      exact List.perm_append_comm.append_right _
    · intro q hq
      rcases List.mem_cons.mp hq with rfl | hq
      · exact h'.names.mem_iff.mpr (List.mem_append_right _ (h.claimed _ (List.mem_singleton_self _)))
      · exact h'.claimed q hq
    · intro i hi
      rcases List.mem_append.mp hi with hi | hi
      · exact (h.named i hi).mono (List.cons_subset_cons p (List.nil_subset rest))
      · exact (h'.named i hi).mono (List.subset_cons_self ..)
    · rw [recordsOf, List.filterMap_append, List.flatMap_cons]
      have hfirst := h.records
      rw [List.flatMap_singleton] at hfirst
      exact List.rel_append hfirst h'.records

namespace MethodModule

/-- The names of the items of a module. -/
def names (mm : MethodModule) : List String := mm.items.map ModuleItem.name

variable (m : Method) (contracts : List (String × Contract))

/-- **What `ofContracts m contracts` holds**: items with names that differ (`Nodup`), one for each pattern, each
`IsNamedFor` the contracts, and a record for each object. -/
theorem holds_ofContracts : (ofContracts m contracts).names.Nodup ∧
    (∀ p ∈ contracts, endpointName p.1 ∈ (ofContracts m contracts).names) ∧
    (∀ i ∈ (ofContracts m contracts).items, i.IsNamedFor contracts) ∧
    List.Forall₂ Record.IsFor (ofContracts m contracts).records (contracts.flatMap fun p => p.2.layouts) := by
  obtain ⟨items, h⟩ := foldl_addEndpoint_holds contracts Draft.empty
  have hitems : (ofContracts m contracts).items = items := h.items
  have hnames : (contracts.foldl (fun d p => addEndpoint d p.1 p.2) Draft.empty).names.Perm
      (ofContracts m contracts).names := by
    rw [names, hitems]
    refine h.names.trans ?_
    rw [show Draft.empty.names = [] from rfl, List.append_nil]
  refine ⟨hnames.nodup_iff.mp (h.nodup List.nodup_nil), fun p hp => ?_, ?_, ?_⟩
  · exact hnames.mem_iff.mp (h.claimed p hp)
  · rw [hitems]
    exact h.named
  · have hrecords : (ofContracts m contracts).records = recordsOf items := by
      rw [records, hitems]
      rfl
    rw [hrecords]
    exact h.records

/-- `.record r` is an item for each `r ∈ mm.records`. -/
theorem mem_items_of_mem_records {mm : MethodModule} {r : Record} (hr : r ∈ mm.records) : .record r ∈ mm.items := by
  obtain ⟨i, hi, hr⟩ := List.mem_filterMap.mp hr
  cases i with
  | endpoint e => cases hr
  | record r' =>
    obtain rfl := Option.some.inj hr
    exact hi

/-- The modules of `Artifact.ofRegistry r` are `ofContracts` of the contracts of their methods. -/
theorem eq_ofContracts_of_mem {r : Registry} {mm : MethodModule} (h : mm ∈ (Artifact.ofRegistry r).modules) :
    mm = ofContracts mm.method (r.contractsFor mm.method) := by
  obtain ⟨p, hp, rfl⟩ := List.mem_map.mp h
  obtain ⟨m, -, rfl⟩ := List.mem_map.mp (List.mem_filter.mp hp).1
  rfl

end MethodModule

end Artifact

/-! ## One endpoint -/

/-- A registry with one endpoint, which answers POST requests with a body. -/
def Registry.posting (pattern : String) (body : Descriptor) : Registry :=
  (Registry.empty.merge pattern ⟨pattern, ⟨pattern⟩, PerMethod.ofList [(.post, ⟨some body, none, none⟩)]⟩).2

namespace Artifact

/-- The module of the endpoint of `Registry.posting`. -/
def MethodModule.posting (pattern : String) (body : Descriptor) : MethodModule :=
  ofContracts .post [(pattern, ⟨some body, none, none⟩)]

/-- `Registry.posting` has one module, `MethodModule.posting`. -/
theorem modules_posting (pattern : String) (body : Descriptor) :
    (Artifact.ofRegistry (.posting pattern body)).modules = [.posting pattern body] := rfl

theorem mem_modules_posting (pattern : String) (body : Descriptor) :
    .posting pattern body ∈ (Artifact.ofRegistry (.posting pattern body)).modules := by
  rw [modules_posting]
  exact List.mem_singleton_self _

end Artifact

end RouteContracts
