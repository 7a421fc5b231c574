import RouteContracts.Proofs.Artifact.Identifiers
import RouteContracts.Proofs.Source.Quoting

/-! # Scopes of modules
The items of a module have names that differ, so a type that mentions a record means one item of the module. A
record has the names of the fields of its object on the wire, and spells the identifiers of its fields in different
ways. These are still not always different identifiers: a raw spelling with a number and a plain one can be of the same.

* `FieldType.names`: the names in a type. `words_contractType`: they are the words in its text.
* `Field.serdeName`: the name on the wire as the text of a field tells it.
* `MethodModule.scoped_ofRegistry`: **what is in scope in a module.**
* `MethodModule.not_nodup_identifiers`: identifiers that are not different. -/

namespace RouteContracts

namespace Artifact

open Layout Layout.Piece

/-! ## Names in types -/

namespace FieldType

/-- The names of generic types around a type. -/
def wrappers : FieldType → List String
  | .list t => "Vec" :: t.wrappers
  | .option t => "Option" :: t.wrappers
  | _ => []

/-- The name inside of all generic types. -/
def leaf (runtime : RuntimePath) : FieldType → String
  | .text => "String"
  | .number => "f64"
  | .truth => "bool"
  | .unit => "()"
  | .anyJson => runtime.spelled ++ "serde_json::Value"
  | .record name => name
  | .list t | .option t => t.leaf runtime

/-- The names in a type: its `wrappers` and its `leaf`. -/
def names (runtime : RuntimePath) (t : FieldType) : List String := t.wrappers ++ [t.leaf runtime]

end FieldType

/-- The names that the descriptors of values come to. -/
def mappedNames (runtime : RuntimePath) : List String :=
  ["String", "f64", "bool", "()", runtime.spelled ++ "serde_json::Value", "Vec", "Option"]

/-- The names in the type for a piece of a contract. -/
def contractNames (runtime : RuntimePath) : Option FieldType → List String
  | none => ["NoData"]
  | some t => t.names runtime

/-- The names in the types of an item. -/
def ModuleItem.typeNames (runtime : RuntimePath) : ModuleItem → List String
  | .record r => r.fields.flatMap fun f => f.type.names runtime
  | .endpoint e => [e.body, e.routeParams, e.searchParams].flatMap (contractNames runtime)

section Words

variable (runtime : RuntimePath)

/-- The words among some pieces. -/
def wordsOf (ps : List Piece) : List String :=
  ps.filterMap fun
    | .word w => some w
    | _ => none

/-- The words of `generic name ps`: the name with its bracket, those of `ps`, and `>`. -/
theorem wordsOf_generic (name : String) (ps : List Piece) :
    wordsOf (generic name ps) = (name ++ "<") :: (wordsOf ps ++ [">"]) := by
  have hlisting : listing [ps] = .start .consistent step :: (zero :: ps ++ [commaBack] ++ [.stop]) := rfl
  rw [generic, hlisting]
  simp [wordsOf, zero, commaBack]

/-- **The words in the text of a type** are its `contractNames`, with brackets around those inside of generic types. -/
theorem words_contractType (t : Option FieldType) :
    wordsOf (contractType runtime t) = (contractNames runtime t).dropLast.map (· ++ "<") ++
      (contractNames runtime t).getLast?.toList ++ List.replicate ((contractNames runtime t).length - 1) ">" := by
  cases t with
  | none => rfl
  | some t =>
    have hwords : wordsOf (typePieces runtime t) =
        t.wrappers.map (· ++ "<") ++ [t.leaf runtime] ++ List.replicate t.wrappers.length ">" := by
      -- each generic type puts its bracket around the words of its parameter
      induction t with
      | list t ih | option t ih =>
        rw [typePieces, wordsOf_generic, ih, FieldType.wrappers, FieldType.leaf, List.length_cons,
          List.replicate_succ', List.map_cons]
        simp only [List.cons_append, List.append_assoc]
      | _ => rfl
    simpa [contractType, contractNames, FieldType.names] using hwords

/-- A name of a type is one of `mappedNames`, or that of the one record which the type mentions. -/
theorem mem_names_cases {t : FieldType} {n : String} (h : n ∈ t.names runtime) :
    n ∈ mappedNames runtime ∨ n ∈ t.records := by
  induction t with
  | record name => exact .inr h
  | list t ih | option t ih =>
    rcases List.mem_cons.mp h with rfl | h
    · left
      simp [mappedNames]
    · exact ih h
  | _ =>
    left
    rw [List.mem_singleton.mp h]
    simp [mappedNames, FieldType.leaf]

/-- A name in the types of an item is one of `mappedNames`, `NoData`, or one that the item mentions. -/
theorem ModuleItem.mem_typeNames_cases {i : ModuleItem} {n : String} (h : n ∈ i.typeNames runtime) :
    n ∈ mappedNames runtime ∨ n = "NoData" ∨ n ∈ i.mentions := by
  cases i with
  | record r =>
    obtain ⟨f, hf, hn⟩ := List.mem_flatMap.mp h
    rcases mem_names_cases runtime hn with hn | hn
    · exact .inl hn
    · exact .inr (.inr (List.mem_flatMap.mpr ⟨f, hf, hn⟩))
  | endpoint e =>
    obtain ⟨piece, hpiece, hn⟩ := List.mem_flatMap.mp h
    cases piece with
    | none => exact .inr (.inl (List.mem_singleton.mp hn))
    | some t =>
      rcases mem_names_cases runtime hn with hn | hn
      · exact .inl hn
      · refine .inr (.inr (List.mem_flatMap.mpr ⟨t, ?_, hn⟩))
        simp only [List.mem_cons, List.not_mem_nil, or_false] at hpiece
        rcases hpiece with h | h | h <;> simp [← h]

end Words

/-! ## Names on the wire -/

/-- The name that an argument of the attribute of a field gives it. -/
def renamed? (argument : String) : Option String :=
  if argument.toList.take 9 = "rename = ".toList then
    Source.Literal.textValue? (String.ofList (argument.toList.drop 9))
  else none

namespace Field

/-- **The name of a field on the wire as its text tells it**: that of its attribute, or else its identifier. -/
def serdeName (f : Field) : String := ((fieldAttributes f).findSome? renamed?).getD (impliedWireName f.ident)

/-- The identifier of a field, however it is spelled. -/
def identifier (f : Field) : String := impliedWireName f.ident

theorem renamed?_rename (name : String) : renamed? ("rename = " ++ Text.quoted name) = some name := by
  have hlist : ("rename = " ++ Text.quoted name).toList = "rename = ".toList ++ (Text.quoted name).toList :=
    String.toList_append
  have htake : ("rename = ".toList ++ (Text.quoted name).toList).take 9 = "rename = ".toList :=
    List.take_left' rfl
  have hdrop : ("rename = ".toList ++ (Text.quoted name).toList).drop 9 = (Text.quoted name).toList :=
    List.drop_left' rfl
  rw [renamed?, hlist, if_pos htake, hdrop, String.ofList_toList, Source.Literal.textValue?_quoted]

/-- **`serdeName` is `wireName`**, whether the name is given in an attribute or not. -/
theorem serdeName_eq (f : Field) : f.serdeName = f.wireName := by
  rw [serdeName, fieldAttributes]
  by_cases h : impliedWireName f.ident = f.wireName
  · -- without a name of its own, what tells that the field may be left out is no name either
    have hnone : (if f.omittable then ["default", "skip_serializing_if = \"Option::is_none\""] else []).findSome?
        renamed? = none := by
      cases f.omittable <;> decide
    rw [if_pos h, List.nil_append, hnone, Option.getD_none, h]
  · rw [if_neg h, List.singleton_append, List.findSome?_cons, renamed?_rename]
    rfl

end Field

/-- A record carries an object with the fields `names`: it has them on the wire in order. The spellings of the
identifiers of its fields differ, and so do the identifiers, unless one is a keyword with a number in both spellings. -/
structure Record.Carries (r : Record) (names : List String) : Prop where
  serdeNames : r.fields.map Field.serdeName = names
  spellings : (r.fields.map Field.ident).Nodup
  identifiers : (r.fields.map Field.identifier).Nodup ↔ ∀ s, ¬IsNumberedKeyword (r.fields.map Field.ident) s
  apart : (∀ k ∈ reservedWords, (names.map Text.snake).count k ≤ 1) → (r.fields.map Field.identifier).Nodup

/-- `IsFor` implies `Carries`. -/
theorem Record.IsFor.carries {r : Record} {names : List String} (h : r.IsFor names) : r.Carries names := by
  have hidents : r.fields.map Field.ident = fieldIdents names := h.idents
  have hidentifiers : r.fields.map Field.identifier = (fieldIdents names).map impliedWireName := by
    rw [← hidents, List.map_map]
    rfl
  obtain ⟨hspellings, hiff, hapart⟩ := nodup_identifiers_iff names
  constructor
  · rw [← h.wireNames]
    exact List.map_congr_left fun f _ => f.serdeName_eq
  · rw [hidents]
    exact hspellings
  · rw [hidents, hidentifiers]
    exact hiff
  · rw [hidentifiers]
    exact hapart

/-! ## Scopes -/

namespace MethodModule

/-- A name that an item mentions is that of exactly one item of the module. -/
theorem count_names_of_mem_mentions (m : Method) (contracts : List (String × Contract)) {i : ModuleItem}
    (hi : i ∈ (ofContracts m contracts).items) {n : String} (hn : n ∈ i.mentions) :
    (ofContracts m contracts).names.count n = 1 := by
  obtain ⟨hnodup, -, -, -⟩ := holds_ofContracts m contracts
  refine List.count_eq_one_of_mem hnodup ?_
  obtain ⟨j, hj, hname⟩ := List.mem_filterMap.mp (closed_ofContracts m contracts i hi hn)
  cases j with
  | endpoint e => cases hname
  | record r =>
    obtain rfl := Option.some.inj hname
    exact List.mem_map.mpr ⟨_, hj, rfl⟩

/-- **What is in scope in a module of `Artifact.ofRegistry r`.** The names of its items differ. Every name in a type is
one of `mappedNames`, `NoData`, or the name of exactly one item. There is a record for each object, which `Carries`
it. -/
theorem scoped_ofRegistry {r : Registry} {mm : MethodModule} (h : mm ∈ (Artifact.ofRegistry r).modules)
    (runtime : RuntimePath) :
    mm.names.Nodup ∧
    (∀ i ∈ mm.items, ∀ n ∈ i.typeNames runtime,
      n ∈ mappedNames runtime ∨ n = "NoData" ∨ mm.names.count n = 1) ∧
    List.Forall₂ Record.Carries mm.records ((r.contractsFor mm.method).flatMap fun p => p.2.layouts) := by
  rw [eq_ofContracts_of_mem h]
  obtain ⟨hnodup, -, -, hrecords⟩ := holds_ofContracts mm.method (r.contractsFor mm.method)
  refine ⟨hnodup, fun i hi n hn => ?_, ?_⟩
  · rcases ModuleItem.mem_typeNames_cases runtime hn with hn | hn | hn
    · exact .inl hn
    · exact .inr (.inl hn)
    · exact .inr (.inr (count_names_of_mem_mentions mm.method _ hi hn))
  · exact hrecords.imp fun _ _ hfor => hfor.carries

/-- A body with a text under each of some names. -/
def textsBody (names : List String) : Descriptor := .object (names.map fun n => (n, .primitive .string)) []

/-- Two fields with one keyword: the second one gets a number and is renamed. -/
theorem scoped_keywords :
    posting "/posts" (textsBody ["type", "Type", "a-b"]) ∈
        (Artifact.ofRegistry (.posting "/posts" (textsBody ["type", "Type", "a-b"]))).modules ∧
      List.Forall₂ Record.Carries (posting "/posts" (textsBody ["type", "Type", "a-b"])).records
        [["type", "Type", "a-b"]] ∧
      (posting "/posts" (textsBody ["type", "Type", "a-b"])).records.map (fun r => r.fields.map Field.ident) =
        [["r#type", "r#type2", "a_b"]] := by
  have hmem := mem_modules_posting "/posts" (textsBody ["type", "Type", "a-b"])
  exact ⟨hmem, (scoped_ofRegistry hmem ⟨"routegen", "routegen::"⟩).2.2, by decide +kernel⟩

/-- **Identifiers that are not different**: the number behind a raw keyword makes the name of another field. -/
theorem not_nodup_identifiers :
    posting "/posts" (textsBody ["type", "Type", "type2"]) ∈
        (Artifact.ofRegistry (.posting "/posts" (textsBody ["type", "Type", "type2"]))).modules ∧
      ∃ r ∈ (posting "/posts" (textsBody ["type", "Type", "type2"])).records,
        r.fields.map Field.ident = ["r#type", "r#type2", "type2"] ∧ ¬(r.fields.map Field.identifier).Nodup := by
  refine ⟨mem_modules_posting .., ?_⟩
  decide +kernel

end MethodModule

end Artifact

end RouteContracts
