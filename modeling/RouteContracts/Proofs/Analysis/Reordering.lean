import RouteContracts.Proofs.Analysis.TopLevel

/-! # Items in another order
What is found out about a method depends on the items that concern it, its exports and its schemas, and of the order of
items only on that of its schemas. Items that concern no method, or another one, can come, go and change. The items that
count are those that the analysis finds; they are the top-level ones unless something is said in the blocks of other
items, such as in the attribute of an import.

* `Source.Item.concerns`: whether an item exports a method or declares a schema for it.
* `Source.File.found`: the functions and values that the analysis finds.
* `Source.File.Silent.filter_found`: those that concern a method are top-level items, where the others are silent.
* `Analysis.ofSource?_independent`: **methods are analyzed apart, and in any order.**
* `Analysis.ofSource?_import`: an import with a method in its attribute. -/

namespace RouteContracts

open Source

/-! ## Items that concern a method -/

namespace Source.Item

instance (m : Method) : DecidablePred (IsExportOf m)
  | .function exported name => inferInstanceAs (Decidable (exported = true ∧ name = m.token))
  | .value exported name _ => inferInstanceAs (Decidable (exported = true ∧ name = m.token))
  | .other _ | .closed _ => inferInstanceAs (Decidable False)

/-- **Whether an item exports a method or declares a schema for it**, that constructs an object. -/
def concerns (m : Method) (item : Item) : Bool := decide (item.IsExportOf m) || (item.schemaOf? m).isSome

theorem exists_isExportOf_filter (m : Method) (items : List Item) :
    (∃ item ∈ items.filter (concerns m), item.IsExportOf m) ↔ ∃ item ∈ items, item.IsExportOf m := by
  constructor
  · rintro ⟨item, hitem, hexport⟩
    exact ⟨item, List.mem_of_mem_filter hitem, hexport⟩
  · rintro ⟨item, hitem, hexport⟩
    exact ⟨item, List.mem_filter.mpr ⟨hitem, by simp [concerns, hexport]⟩, hexport⟩

theorem filterMap_schemaOf?_filter (m : Method) (items : List Item) :
    (items.filter (concerns m)).filterMap (schemaOf? m) = items.filterMap (schemaOf? m) := by
  rw [List.filterMap_filter]
  refine List.filterMap_congr fun item _ => ?_
  cases hschema : item.schemaOf? m with
  | none => exact ite_self _
  | some e => rw [if_pos (by simp [concerns, hschema])]

/-- A value that is named for the schema of `m` does not concern another method. -/
theorem concerns_of_schemaMethod? {name : String} {m n : Method} (h : schemaMethod? name = some n) (hne : n ≠ m)
    (exported : Bool) (e : Expr) : concerns m (.value exported name e) = false := by
  have htoken : name ≠ m.token := by
    rintro rfl
    cases (Method.ofToken?_token m).symm.trans (ofToken?_of_schemaMethod? h)
  simp [concerns, IsExportOf, schemaOf?, htoken, h, hne]

/-- Only values have a `schemaOf?`. -/
theorem found_of_schemaOf? {m : Method} {item : Item} {e : Expr} (h : item.schemaOf? m = some e) :
    item.found = [item] := by
  cases item with
  | value => rfl
  | function | other | closed => cases h

end Source.Item

namespace Declaration

mutual

/-- The schemas that `ofItem item` declares for `m` are `schemaOf?` of what is `found` at it. -/
theorem filterMap_ofItem_found (m : Method) : ∀ item : Item,
    (ofItem item).filterMap (schemaOf? m) = item.found.filterMap (Item.schemaOf? m)
  | .function exported name => filterMap_ofFunction m exported name
  | .value exported name initializer => by
    rw [ofItem, filterMap_ofValue, Item.found, List.filterMap_cons, List.filterMap_cons, schemaInitializer?,
      Item.schemaOf?]
    by_cases hname : schemaMethod? name = some m
    · cases hbuilds : initializer.buildsObject <;> simp [hname, hbuilds]
    · simp [hname]
  | .other inner => by rw [ofItem, Item.found, filterMap_ofItems_found m inner]
  | .closed _ => rfl

theorem filterMap_ofItems_found (m : Method) : ∀ items : List Item,
    (ofItems items).filterMap (schemaOf? m) = (Item.foundIn items).filterMap (Item.schemaOf? m)
  | [] => rfl
  | item :: rest => by
    rw [ofItems, Item.foundIn, List.filterMap_append, List.filterMap_append, filterMap_ofItem_found m item,
      filterMap_ofItems_found m rest]

end

/-- An item with `ofItem item = []` concerns no method. -/
theorem concerns_of_ofItem {item : Item} (h : ofItem item = []) (m : Method) : item.concerns m = false := by
  have hexport : ¬item.IsExportOf m := fun hexport => by
    have hany := (any_ofItem m item).mpr ⟨item, by simp [hexport.found_eq], hexport⟩
    rw [h] at hany
    cases hany
  have hschema : item.schemaOf? m = none := by
    cases hsome : item.schemaOf? m with
    | none => rfl
    | some e =>
      have hfound := filterMap_ofItem_found m item
      rw [h, Item.found_of_schemaOf? hsome, List.filterMap_cons, hsome] at hfound
      cases hfound
  simp [Item.concerns, hexport, hschema]

end Declaration

/-! ## Items that are found -/

namespace Source.File

/-- **The functions and values that the analysis finds**: those at the top and those in the blocks of other items. -/
def found (file : File) : List Item := Item.foundIn file.items

theorem exported_iff_found (file : File) (m : Method) :
    file.declarations.exported m = true ↔ ∃ item ∈ file.found, item.IsExportOf m :=
  Declaration.any_ofItems m file.items

theorem schema?_declarations (file : File) (m : Method) :
    file.declarations.schema? m = (file.found.filterMap (Item.schemaOf? m)).getLast? :=
  congrArg List.getLast? (Declaration.filterMap_ofItems_found m file.items)

/-- `found` of reordered items is reordered. -/
theorem found_perm {file file' : File} (h : file'.items.Perm file.items) : file'.found.Perm file.found := by
  have hflat : ∀ items : List Item, Item.foundIn items = items.flatMap Item.found := by
    intro items
    induction items with
    | nil => rfl
    | cons item rest ih => rw [Item.foundIn, List.flatMap_cons, ih]
  rw [found, found, hflat, hflat]
  exact h.flatMap_right _

/-- **What is `found` and `concerns m` is a top-level item**, in a `Silent` file. -/
theorem Silent.filter_found {file : File} (h : file.Silent) (m : Method) :
    file.found.filter (Item.concerns m) = file.items.filter (Item.concerns m) := by
  obtain ⟨items⟩ := file
  change (Item.foundIn items).filter _ = items.filter _
  replace h : ∀ item ∈ items, ∀ i ∈ item.inside, Declaration.ofItem i = [] := fun item hitem i hi =>
    h i (List.mem_flatMap.mpr ⟨item, hitem, hi⟩)
  induction items with
  | nil => rfl
  | cons item rest ih =>
    obtain ⟨hitem, hrest⟩ := List.forall_mem_cons.mp h
    rw [Item.foundIn, List.filter_append, ih hrest, ← List.singleton_append, List.filter_append]
    congr 1
    cases item with
    | function | value => rfl
    | closed => rfl
    | other inner =>
      -- neither the item itself nor what is inside of it concerns the method
      refine (List.filter_eq_nil_iff.mpr fun i hi => ?_).trans rfl
      rw [Declaration.concerns_of_ofItem (hitem i hi) m]
      exact Bool.false_ne_true

theorem Silent.filterMap_found {file : File} (h : file.Silent) (m : Method) :
    file.found.filterMap (Item.schemaOf? m) = file.items.filterMap (Item.schemaOf? m) := by
  rw [← Item.filterMap_schemaOf?_filter, h.filter_found, Item.filterMap_schemaOf?_filter]

end Source.File

/-! ## Analysis -/

namespace Declarations

variable {ds ds' : Declarations} (source : Path) (params : Option Descriptor)

/-- The contract of `m` depends on `exported m` and on `schema? m`. -/
theorem get?_contracts_congr {m : Method} (hexported : ds'.exported m = ds.exported m)
    (hschema : ds'.schema? m = ds.schema? m) :
    (ds'.contracts source params).get? m = (ds.contracts source params).get? m := by
  show (if _ then some _ else none) = if _ then some _ else none
  rw [hexported, contract, contract, hschema]

theorem notices_congr (hexported : ds'.exported = ds.exported) (hschema : ds'.schema? = ds.schema?) :
    ds'.notices source params = ds.notices source params := by
  have hcontract : ds'.contract source params = ds.contract source params := funext fun m => by
    rw [contract, contract, hschema]
  rw [notices, notices, idleSchemas, idleSchemas, hexported, hschema, hcontract]

end Declarations

theorem Analysis.ofSource?_of_file {routeId : String} {source : Path} {params : Option Descriptor} {code : String}
    {file : File} (hfile : File.ofText? code = some file) :
    Analysis.ofSource? routeId source params code =
      some (⟨routeId, source, file.declarations.contracts source params⟩,
        file.declarations.notices source params) := by
  rw [Analysis.ofSource?, hfile]
  rfl

/-- The contract of `m` is the same in two files in which the same items are `found` that concern it. -/
theorem Source.File.get?_contracts_of_found {file file' : File} {m : Method} (source : Path)
    (params : Option Descriptor) (h : file'.found.filter (Item.concerns m) = file.found.filter (Item.concerns m)) :
    (file'.declarations.contracts source params).get? m = (file.declarations.contracts source params).get? m := by
  refine Declarations.get?_contracts_congr source params ?_ ?_
  · rw [Bool.eq_iff_iff, exported_iff_found, exported_iff_found, ← Item.exists_isExportOf_filter, h,
      Item.exists_isExportOf_filter]
  · rw [schema?_declarations, schema?_declarations, ← Item.filterMap_schemaOf?_filter, h,
      Item.filterMap_schemaOf?_filter]

/-- **Methods are analyzed apart, and in any order.** The contract of `m` is the same in two files in which the same
items are `found` that `concern` it. In `Silent` files these are the top-level items: all others can come, go and
change, the schemas of other methods among them, and a `Perm` of the items, with `schemaOf?` of each single method in
the same order, has the same analysis and notices. -/
theorem Analysis.ofSource?_independent (routeId : String) (source : Path) (params : Option Descriptor)
    {code code' : String} {file file' : File} (hfile : File.ofText? code = some file)
    (hfile' : File.ofText? code' = some file') :
    ∃ analysis notices analysis' notices',
      Analysis.ofSource? routeId source params code = some (analysis, notices) ∧
      Analysis.ofSource? routeId source params code' = some (analysis', notices') ∧
      (∀ m, file'.found.filter (Item.concerns m) = file.found.filter (Item.concerns m) →
        analysis'.methods.get? m = analysis.methods.get? m) ∧
      (file.Silent → file'.Silent →
        (∀ m, file'.items.filter (Item.concerns m) = file.items.filter (Item.concerns m) →
          analysis'.methods.get? m = analysis.methods.get? m) ∧
        (∀ front back exported exported' name e e' n, file.items = front ++ .value exported name e :: back →
          file'.items = front ++ .value exported' name e' :: back → schemaMethod? name = some n →
          ∀ m, n ≠ m → analysis'.methods.get? m = analysis.methods.get? m) ∧
        (file'.items.Perm file.items →
          (∀ m, file'.items.filterMap (Item.schemaOf? m) = file.items.filterMap (Item.schemaOf? m)) →
          analysis' = analysis ∧ notices' = notices)) := by
  refine ⟨_, _, _, _, ofSource?_of_file hfile, ofSource?_of_file hfile',
    fun m => File.get?_contracts_of_found source params, fun hsilent hsilent' => ?_⟩
  have hconcerns : ∀ m, file'.items.filter (Item.concerns m) = file.items.filter (Item.concerns m) →
      (file'.declarations.contracts source params).get? m = (file.declarations.contracts source params).get? m := by
    intro m h
    refine File.get?_contracts_of_found source params ?_
    rw [hsilent'.filter_found, h, hsilent.filter_found]
  refine ⟨hconcerns, fun front back exported exported' name e e' n hitems hitems' hname m hne => ?_,
    fun hperm hschemas => ?_⟩
  · refine hconcerns m ?_
    rw [hitems, hitems', List.filter_append, List.filter_append,
      List.filter_cons_of_neg (by simp [Item.concerns_of_schemaMethod? hname hne]),
      List.filter_cons_of_neg (by simp [Item.concerns_of_schemaMethod? hname hne])]
  · -- what is exported does not depend on the order, and the last schema of a method is given
    have hexported : file'.declarations.exported = file.declarations.exported := funext fun m => by
      rw [Bool.eq_iff_iff, File.exported_iff_found, File.exported_iff_found]
      exact exists_congr fun item => and_congr_left fun _ => (File.found_perm hperm).mem_iff
    have hschema : file'.declarations.schema? = file.declarations.schema? := funext fun m => by
      rw [File.schema?_declarations, File.schema?_declarations, hsilent'.filterMap_found, hschemas,
        hsilent.filterMap_found]
    have hcontracts : file'.declarations.contracts source params = file.declarations.contracts source params :=
      PerMethod.ext fun m => Declarations.get?_contracts_congr source params (congrFun hexported m) (congrFun hschema m)
    exact ⟨by rw [hcontracts], Declarations.notices_congr source params hexported hschema⟩

/-! ## A file in two orders -/

/-- A file of two methods, with a schema for one of them that is not resolved. -/
def draftFile : String := "pub fn GET() {} pub fn POST() {} const _POST_SCHEMA: S = object(x);"

/-- The items of `draftFile` in another order. -/
def swappedFile : String := "const _POST_SCHEMA: S = object(x); pub fn POST() {} pub fn GET() {}"

/-- The items of both files. -/
def draftItem : Fin 3 → Item
  | 0 => .function true "GET"
  | 1 => .function true "POST"
  | 2 => .value false "_POST_SCHEMA" (.call [.word "object", .group .parenthesis [.word "x"]]
      (.path [.word "object"] "object" []) [.path [.word "x"] "x" []])

/-- Which of the items it is. -/
def draftIndex? : Item → Option (Fin 3)
  | .function true "GET" => some 0
  | .function true "POST" => some 1
  | .value false "_POST_SCHEMA" (.call [.word "object", .group .parenthesis [.word "x"]]
      (.path [.word "object"] "object" []) [.path [.word "x"] "x" []]) => some 2
  | _ => none

theorem draftItem_of_draftIndex? {item : Item} {i : Fin 3} (h : draftIndex? item = some i) : draftItem i = item := by
  unfold draftIndex? at h
  split at h <;> cases h <;> rfl

/-- `File.ofText?` reads a text as the file of these items. -/
theorem Source.File.ofText?_of_draftIndex? {code : String} {is : List (Fin 3)}
    (h : (File.ofText? code).map (fun file => file.items.map draftIndex?) = some (is.map some)) :
    File.ofText? code = some ⟨is.map draftItem⟩ := by
  obtain ⟨⟨items⟩, hfile, hitems⟩ := Option.map_eq_some_iff.mp h
  have hall : ∀ (is : List (Fin 3)) (items : List Item), items.map draftIndex? = is.map some →
      is.map draftItem = items := by
    intro is items hindex
    induction is generalizing items with
    | nil => exact (List.map_eq_nil_iff.mp hindex).symm
    | cons i is ih =>
      obtain ⟨item, rest, rfl, hitem, hrest⟩ := List.map_eq_cons_iff.mp hindex
      rw [List.map_cons, draftItem_of_draftIndex? hitem, ih rest hrest]
  rw [hfile, hall is items hitems]

/-- Both files have the same analysis, with the method whose schema is not resolved among the others. -/
theorem Analysis.ofSource?_swapped : ∃ analysis notices,
    Analysis.ofSource? "/" ⟨"server.rs"⟩ none draftFile = some (analysis, notices) ∧
      Analysis.ofSource? "/" ⟨"server.rs"⟩ none swappedFile = some (analysis, notices) := by
  have hfile : File.ofText? draftFile = some ⟨[0, 1, 2].map draftItem⟩ :=
    File.ofText?_of_draftIndex? (by decide +kernel)
  have hfile' : File.ofText? swappedFile = some ⟨[2, 1, 0].map draftItem⟩ :=
    File.ofText?_of_draftIndex? (by decide +kernel)
  obtain ⟨analysis, notices, analysis', notices', hanalysis, hanalysis', -, hsilent⟩ :=
    Analysis.ofSource?_independent "/" ⟨"server.rs"⟩ none hfile hfile'
  obtain ⟨-, -, hperm⟩ := hsilent (fun item hitem => nomatch hitem) (fun item hitem => nomatch hitem)
  obtain ⟨rfl, rfl⟩ := hperm (List.Perm.map draftItem (by decide)) (fun m => rfl)
  exact ⟨_, _, hanalysis, hanalysis'⟩

/-- A file with a method in the attribute of an import. -/
def importFile : String := "#[a = { pub fn GET() {} 0 }] use b; pub fn POST() {}"

/-- **An import with a method in its attribute**: no top-level item concerns the method, and yet there is another
contract for it in the file without the import. -/
theorem Analysis.ofSource?_import : ∃ file file' analysis notices analysis' notices',
    File.ofText? importFile = some file ∧ File.ofText? "pub fn POST() {}" = some file' ∧
      Analysis.ofSource? "/" ⟨"server.rs"⟩ none importFile = some (analysis, notices) ∧
      Analysis.ofSource? "/" ⟨"server.rs"⟩ none "pub fn POST() {}" = some (analysis', notices') ∧
      file.items.filter (Item.concerns .get) = file'.items.filter (Item.concerns .get) ∧
      analysis.methods.get? .get ≠ analysis'.methods.get? .get := by
  have hfile : File.ofText? importFile = some ⟨[.other [.function true "GET"], .function true "POST"]⟩ :=
    File.ofText?_of_areSame (by decide +kernel)
  have hplain : File.ofText? "pub fn POST() {}" = some ⟨[.function true "POST"]⟩ :=
    File.ofText?_of_areSame (by decide +kernel)
  refine ⟨_, _, _, _, _, _, hfile, hplain, Analysis.ofSource?_of_file hfile, Analysis.ofSource?_of_file hplain,
    rfl, ?_⟩
  exact fun hcontract => nomatch congrArg Option.isSome hcontract

end RouteContracts
