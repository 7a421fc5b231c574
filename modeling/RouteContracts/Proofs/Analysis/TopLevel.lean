import RouteContracts.Proofs.Analysis.RuntimeContract
import RouteContracts.Proofs.Source.Bare

/-! # Top-level items of endpoint files
The analysis of an endpoint file is meant to read its top-level items and nothing inside of them. It passes by what is
inside of functions, values, modules, implementations and traits, but not by the blocks that stand in other items: the
discriminants of an enumeration, the types of fields. Where such blocks say nothing about methods, the methods are those
that top-level items export, their contracts come from top-level values, and whatever is nested makes no difference.

* `Source.Item.inside`, `Source.File.nested`: what is found in the blocks of other items.
* `Source.Item.IsExportOf`, `Source.File.topSchema?`: what top-level items say about a method.
* `Source.File.surface`: the top-level functions and values, without what is inside of them.
* `Analysis.ofSource?_surface`: **the analysis of a file, as far as it is one of its top-level items.**
* `Analysis.ofSource?_discriminant`: a method that no top-level item exports. -/

namespace RouteContracts

open Source

/-! ## Items that are found -/

namespace Source.Item

mutual

/-- The functions and values that are found at an item: the item itself, or those in the blocks of another one. -/
def found : Item → List Item
  | .function exported name => [.function exported name]
  | .value exported name initializer => [.value exported name initializer]
  | .other inner => foundIn inner
  | .closed _ => []

/-- The functions and values that are found among some items. -/
def foundIn : List Item → List Item
  | [] => []
  | item :: rest => found item ++ foundIn rest

end

/-- The functions and values that are found inside of an item. -/
def inside : Item → List Item
  | .other inner => foundIn inner
  | _ => []

/-- **A public function or value with the token of the method as its name.** -/
def IsExportOf (m : Method) : Item → Prop
  | .function exported name | .value exported name _ => exported = true ∧ name = m.token
  | .other _ | .closed _ => False

/-- The initializer of a value that is named for the schema of the method and constructs an object. -/
def schemaOf? (m : Method) : Item → Option Expr
  | .value _ name initializer =>
    if schemaMethod? name = some m ∧ initializer.buildsObject = true then some initializer else none
  | _ => none

/-- A function or value without tokens and without the items inside of it; nothing for other items. -/
def surface? : Item → Option Item
  | .function exported name => some (.function exported name)
  | .value exported name initializer => some (.value exported name initializer.bare)
  | .other _ | .closed _ => none

/-- An item that `IsExportOf m` is `found` at itself. -/
theorem IsExportOf.found_eq {m : Method} {item : Item} (h : item.IsExportOf m) : item.found = [item] := by
  cases item with
  | function | value => rfl
  | other | closed => cases h

theorem mem_foundIn_iff {item : Item} {items : List Item} :
    item ∈ foundIn items ↔ ∃ top ∈ items, item ∈ top.found := by
  induction items with
  | nil => simp [foundIn]
  | cons top rest ih => rw [foundIn, List.mem_append, ih, List.exists_mem_cons_iff]

end Source.Item

namespace Source.File

/-- **The functions and values in the blocks of top-level items.** -/
def nested (file : File) : List Item := file.items.flatMap Item.inside

/-- **The schema that top-level values declare for a method**: the last one. -/
def topSchema? (file : File) (m : Method) : Option Expr := (file.items.filterMap (Item.schemaOf? m)).getLast?

/-- **The top-level functions and values**, without what is inside of them. -/
def surface (file : File) : List Item := file.items.filterMap Item.surface?

/-- **Nested items say nothing about methods.** -/
def Silent (file : File) : Prop := ∀ item ∈ file.nested, Declaration.ofItem item = []

end Source.File

/-! ## Exports -/

namespace Declaration

theorem any_ofFunction (m : Method) (exported : Bool) (name : String) :
    (ofFunction exported name).any (isExportOf m) = true ↔ exported = true ∧ name = m.token := by
  rw [ofFunction]
  split
  · next n hn =>
    obtain rfl := Method.token_of_ofToken? hn
    -- reading a token back gives its method, so tokens tell methods apart
    have htoken : n = m ↔ n.token = m.token := by
      refine ⟨congrArg Method.token, fun heq => Option.some.inj ?_⟩
      rw [← Method.ofToken?_token n, heq, Method.ofToken?_token]
    cases exported with
    | false => simp
    | true => simp [isExportOf, htoken]
  · next hn =>
    refine iff_of_false (by simp) fun h => ?_
    rw [h.2, Method.ofToken?_token] at hn
    cases hn

/-- `ofValue` exports what `ofFunction` of its name does. -/
theorem any_ofValue (m : Method) (exported : Bool) (name : String) (initializer : Expr) :
    (ofValue exported name initializer).any (isExportOf m) = (ofFunction exported name).any (isExportOf m) := by
  rw [ofValue, ofFunction]
  split
  · rfl
  · split
    · split <;> rfl
    · rfl

mutual

/-- `ofItem item` exports `m` exactly if something `found` at it `IsExportOf m`. -/
theorem any_ofItem (m : Method) : ∀ item : Item,
    (ofItem item).any (isExportOf m) = true ↔ ∃ i ∈ item.found, i.IsExportOf m
  | .function exported name => by
    simp only [ofItem, Item.found, List.mem_singleton, exists_eq_left]
    exact any_ofFunction m exported name
  | .value exported name initializer => by
    simp only [ofItem, Item.found, List.mem_singleton, exists_eq_left, any_ofValue]
    exact any_ofFunction m exported name
  | .other inner => by
    rw [ofItem, Item.found]
    exact any_ofItems m inner
  | .closed _ => by simp [ofItem, Item.found]

/-- **`ofItems items` exports `m`** exactly if something `foundIn items` `IsExportOf m`. -/
theorem any_ofItems (m : Method) : ∀ items : List Item,
    (ofItems items).any (isExportOf m) = true ↔ ∃ i ∈ Item.foundIn items, i.IsExportOf m
  | [] => by simp [ofItems, Item.foundIn]
  | item :: rest => by
    rw [ofItems, List.any_append, Bool.or_eq_true, any_ofItem m item, any_ofItems m rest, Item.foundIn]
    simp only [List.mem_append, or_and_right, exists_or]

end

end Declaration

/-- **`exported m`** holds exactly if a top-level item `IsExportOf m`, or one that is `nested`. -/
theorem Source.File.exported_iff (file : File) (m : Method) : file.declarations.exported m = true ↔
    (∃ item ∈ file.items, item.IsExportOf m) ∨ ∃ item ∈ file.nested, item.IsExportOf m := by
  rw [Declarations.exported, File.declarations, Declaration.any_ofItems]
  constructor
  · rintro ⟨i, hi, hm⟩
    obtain ⟨top, htop, hfound⟩ := Item.mem_foundIn_iff.mp hi
    -- what is found at a function or value is the item itself
    cases top with
    | function | value =>
      obtain rfl := List.mem_singleton.mp hfound
      exact .inl ⟨_, htop, hm⟩
    | other inner => exact .inr ⟨i, List.mem_flatMap.mpr ⟨_, htop, hfound⟩, hm⟩
    | closed inside => cases hfound
  · rintro (⟨item, hitem, hm⟩ | ⟨item, hitem, hm⟩)
    · exact ⟨item, Item.mem_foundIn_iff.mpr ⟨item, hitem, by simp [hm.found_eq]⟩, hm⟩
    · obtain ⟨top, htop, hinside⟩ := List.mem_flatMap.mp hitem
      cases top with
      | other inner => exact ⟨item, Item.mem_foundIn_iff.mpr ⟨_, htop, hinside⟩, hm⟩
      | function | value | closed => cases hinside

/-! ## The surface -/

namespace Declaration

/-- What is said, with a bare expression in the place of a schema. -/
def bare : Declaration → Declaration
  | .exports m => .exports m
  | .schema m e => .schema m e.bare

theorem ofValue_bare (exported : Bool) (name : String) (initializer : Expr) :
    ofValue exported name initializer.bare = (ofValue exported name initializer).map bare := by
  rw [ofValue, ofValue, Expr.buildsObject_bare]
  split
  · split <;> rfl
  · split
    · split <;> rfl
    · rfl

theorem map_bare_ofFunction (exported : Bool) (name : String) :
    (ofFunction exported name).map bare = ofFunction exported name := by
  rw [ofFunction]
  split
  · split <;> rfl
  · rfl

mutual

/-- `ofItem item` is `ofItem` of all that is `found` at it. -/
theorem ofItem_eq : ∀ item : Item, ofItem item = item.found.flatMap ofItem
  | .function .. | .value .. => by rw [Item.found, List.flatMap_singleton]
  | .other inner => by rw [ofItem, Item.found, ofItems_eq inner]
  | .closed _ => rfl

theorem ofItems_eq : ∀ items : List Item, ofItems items = (Item.foundIn items).flatMap ofItem
  | [] => rfl
  | item :: rest => by rw [ofItems, Item.foundIn, List.flatMap_append, ← ofItem_eq item, ← ofItems_eq rest]

end

theorem ofItem_other_eq_nil {inner : List Item} (h : ∀ i ∈ (Item.other inner).inside, ofItem i = []) :
    ofItem (.other inner) = [] := by
  rw [ofItem_eq]
  exact List.flatMap_eq_nil_iff.mpr h

/-- **`ofItems` of the `surface?`** is `ofItems`, but for tokens, when the items inside are silent. -/
theorem ofItems_surface {items : List Item} (h : ∀ item ∈ items, ∀ i ∈ item.inside, ofItem i = []) :
    ofItems (items.filterMap Item.surface?) = (ofItems items).map bare := by
  induction items with
  | nil => rfl
  | cons item rest ih =>
    have ih := ih fun top htop => h top (List.mem_cons_of_mem _ htop)
    have hitem := h item List.mem_cons_self
    rw [List.filterMap_cons, ofItems, List.map_append, ← ih]
    -- functions and values are on the surface, and other items say nothing as what is inside is silent
    cases item with
    | function exported name =>
      show ofFunction exported name ++ _ = _
      rw [ofItem, map_bare_ofFunction]
    | value exported name initializer =>
      show ofValue exported name initializer.bare ++ _ = _
      rw [ofItem, ofValue_bare]
    | other inner =>
      rw [ofItem_other_eq_nil hitem]
      rfl
    | closed inside => rfl

/-- The schemas that `ofItems` declares for `m` are `schemaOf?` of the items, when those inside are silent. -/
theorem filterMap_schemaOf?_ofItems (m : Method) {items : List Item}
    (h : ∀ item ∈ items, ∀ i ∈ item.inside, ofItem i = []) :
    (ofItems items).filterMap (schemaOf? m) = items.filterMap (Item.schemaOf? m) := by
  induction items with
  | nil => rfl
  | cons item rest ih =>
    have ih := ih fun top htop => h top (List.mem_cons_of_mem _ htop)
    have hitem := h item List.mem_cons_self
    rw [List.filterMap_cons, ofItems, List.filterMap_append, ih]
    cases item with
    | function exported name =>
      rw [ofItem, filterMap_ofFunction]
      rfl
    | value exported name initializer =>
      rw [ofItem, filterMap_ofValue, List.filterMap_cons, List.filterMap_nil, schemaInitializer?, Item.schemaOf?]
      by_cases hname : schemaMethod? name = some m
      · cases hbuilds : initializer.buildsObject <;> simp [hname, hbuilds]
      · simp [hname]
    -- the items inside are looked through too, and they say nothing
    | other inner =>
      rw [ofItem_other_eq_nil hitem]
      rfl
    | closed inside => rfl

end Declaration

/-! ## Contracts of bare expressions -/

/-- `contractOfSchema` of `e.bare` is that of `e`: neither the tokens nor the items inside of it count. -/
theorem contractOfSchema_bare (source : Path) (m : Method) (params : Option Descriptor) (e : Option Expr) :
    contractOfSchema source m params (e.map Expr.bare) = contractOfSchema source m params e := by
  cases e with
  | none => rfl
  | some e =>
    rw [Option.map_some, contractOfSchema, contractOfSchema]
    -- the reason why a schema is not resolved is not told
    rcases e.objectFields_bare.eq_or_error with heq | ⟨why, other, notices, hbare, hfields⟩
    · rw [heq]
    · rw [hbare, hfields]

namespace Declarations

variable (ds : Declarations) (m : Method) (source : Path) (params : Option Descriptor)

theorem exported_map_bare : exported (ds.map Declaration.bare) m = ds.exported m := by
  rw [exported, exported, List.any_map]
  refine congrArg ds.any (funext fun d => ?_)
  cases d <;> rfl

theorem schema?_map_bare : schema? (ds.map Declaration.bare) m = (ds.schema? m).map Expr.bare := by
  have hschema : Declaration.schemaOf? m ∘ Declaration.bare = fun d => (Declaration.schemaOf? m d).map Expr.bare := by
    funext d
    cases d with
    | exports n => rfl
    | schema n e =>
      show (if n = m then some e.bare else none) = (if n = m then some e else none).map Expr.bare
      split <;> rfl
  rw [schema?, schema?, List.filterMap_map, hschema, ← List.map_filterMap, List.getLast?_map]

theorem contract_map_bare : contract source params (ds.map Declaration.bare) m = ds.contract source params m := by
  rw [contract, contract, schema?_map_bare, contractOfSchema_bare]

/-- **`contracts` of bare declarations** are the same, with the same notices. -/
theorem contracts_map_bare : contracts source params (ds.map Declaration.bare) = ds.contracts source params := by
  refine PerMethod.ext fun m => ?_
  show (if _ then some _ else none) = if _ then some _ else none
  rw [exported_map_bare, contract_map_bare]

theorem notices_map_bare : notices source params (ds.map Declaration.bare) = ds.notices source params := by
  have hexported : exported (ds.map Declaration.bare) = ds.exported := funext (exported_map_bare ds)
  have hcontract : contract source params (ds.map Declaration.bare) = ds.contract source params :=
    funext fun m => contract_map_bare ds m source params
  rw [notices, notices, idleSchemas, idleSchemas, hexported, hcontract]
  simp only [schema?_map_bare, Option.isSome_map]

end Declarations

/-! ## Analysis -/

/-- `Analysis.ofSource?` of a `Silent` file is that of its `surface`. -/
theorem Analysis.ofSource?_eq_of_silent (routeId : String) (source : Path) (params : Option Descriptor) {code : String}
    {file : File} (hfile : File.ofText? code = some file) (hsilent : file.Silent) :
    Analysis.ofSource? routeId source params code =
      some (⟨routeId, source, Declarations.contracts source params (Declaration.ofItems file.surface)⟩,
        Declarations.notices source params (Declaration.ofItems file.surface)) := by
  have hsurface : Declaration.ofItems file.surface = file.declarations.map Declaration.bare :=
    Declaration.ofItems_surface fun item hitem i hi => hsilent i (List.mem_flatMap.mpr ⟨item, hitem, hi⟩)
  rw [Analysis.ofSource?, hfile, hsurface, Declarations.contracts_map_bare, Declarations.notices_map_bare]
  rfl

/-- **The analysis of a file, as far as it is one of its top-level items.** `Analysis.ofSource?` has `m` exactly if a
top-level item `IsExportOf m`, or one that is `nested`. In a `Silent` file it is a top-level item; `m` has the contract
of `topSchema? m`; and every other `Silent` file with the same `surface` is analyzed alike, whatever is nested in
either. -/
theorem Analysis.ofSource?_surface (routeId : String) (source : Path) (params : Option Descriptor) {code : String}
    {file : File} (hfile : File.ofText? code = some file) :
    ∃ analysis notices, Analysis.ofSource? routeId source params code = some (analysis, notices) ∧
      (∀ m, (analysis.methods.get? m).isSome = true ↔
        (∃ item ∈ file.items, item.IsExportOf m) ∨ ∃ item ∈ file.nested, item.IsExportOf m) ∧
      (file.Silent →
        (∀ m, (analysis.methods.get? m).isSome = true ↔ ∃ item ∈ file.items, item.IsExportOf m) ∧
        (∀ m, (∃ item ∈ file.items, item.IsExportOf m) →
          analysis.methods.get? m = some (contractOfSchema source m params (file.topSchema? m)).1) ∧
        ∀ code' file', File.ofText? code' = some file' → file'.Silent → file'.surface = file.surface →
          Analysis.ofSource? routeId source params code' = some (analysis, notices)) := by
  have hanalysis : Analysis.ofSource? routeId source params code =
      some (⟨routeId, source, file.declarations.contracts source params⟩, file.declarations.notices source params) := by
    rw [Analysis.ofSource?, hfile]
    rfl
  have hget (m : Method) : (file.declarations.contracts source params).get? m =
      if file.declarations.exported m then some (file.declarations.contract source params m).1 else none := rfl
  have hmethods (m : Method) : ((file.declarations.contracts source params).get? m).isSome = true ↔
      (∃ item ∈ file.items, item.IsExportOf m) ∨ ∃ item ∈ file.nested, item.IsExportOf m := by
    rw [hget, ← file.exported_iff]
    cases file.declarations.exported m <;> simp
  refine ⟨_, _, hanalysis, hmethods, fun hsilent => ⟨fun m => ?_, fun m htop => ?_, ?_⟩⟩
  · -- in a silent file no item inside another one is an export
    have hnone : ¬∃ item ∈ file.nested, item.IsExportOf m := by
      rintro ⟨item, hitem, hm⟩
      have hexports := (Declaration.any_ofItem m item).mpr ⟨item, by simp [hm.found_eq], hm⟩
      rw [hsilent item hitem] at hexports
      cases hexports
    rw [hmethods, or_iff_left hnone]
  · have hschema : file.declarations.schema? m = file.topSchema? m :=
      congrArg List.getLast? (Declaration.filterMap_schemaOf?_ofItems m fun item hitem i hi =>
        hsilent i (List.mem_flatMap.mpr ⟨item, hitem, hi⟩))
    rw [hget, if_pos ((file.exported_iff m).mpr (.inl htop)), Declarations.contract, hschema]
  · intro code' file' hfile' hsilent' hsurface
    rw [Analysis.ofSource?_eq_of_silent routeId source params hfile' hsilent', hsurface,
      ← Analysis.ofSource?_eq_of_silent routeId source params hfile hsilent, hanalysis]

/-! ## Files of functions -/

namespace Source.Item

mutual

/-- Whether two items are the same and have no values inside. -/
def isSame : Item → Item → Bool
  | .function exported name, .function exported' name' => exported = exported' && name = name'
  | .other inner, .other inner' => areSame inner inner'
  | .closed inside, .closed inside' => areSame inside inside'
  | _, _ => false

/-- Whether items are the same, one by one, and have no values inside. -/
def areSame : List Item → List Item → Bool
  | [], [] => true
  | item :: rest, item' :: rest' => isSame item item' && areSame rest rest'
  | _, _ => false

end

mutual

theorem eq_of_isSame : ∀ {item item' : Item}, isSame item item' = true → item = item'
  | .function .., .function .., h => by
    simp only [isSame, Bool.and_eq_true, decide_eq_true_eq] at h
    rw [h.1, h.2]
  | .other _, .other _, h => by rw [eq_of_areSame h]
  | .closed _, .closed _, h => by rw [eq_of_areSame h]
  | .function .., .value .., h | .function .., .other _, h | .function .., .closed _, h | .value .., _, h
  | .other _, .function .., h | .other _, .value .., h | .other _, .closed _, h
  | .closed _, .function .., h | .closed _, .value .., h | .closed _, .other _, h => nomatch h

theorem eq_of_areSame : ∀ {items items' : List Item}, areSame items items' = true → items = items'
  | [], [], _ => rfl
  | _ :: _, _ :: _, h => by
    rw [areSame, Bool.and_eq_true] at h
    rw [eq_of_isSame h.1, eq_of_areSame h.2]
  | [], _ :: _, h | _ :: _, [], h => nomatch h

end

end Source.Item

/-- `File.ofText?` reads a text as the file of items for which `areSame` holds. -/
theorem Source.File.ofText?_of_areSame {code : String} {items : List Item}
    (h : (File.ofText? code).any (fun file => Item.areSame file.items items) = true) :
    File.ofText? code = some ⟨items⟩ := by
  cases hfile : File.ofText? code with
  | none =>
    rw [hfile] at h
    cases h
  | some file =>
    rw [hfile, Option.any_some] at h
    rw [← Item.eq_of_areSame h]

/-- A file with items in a function, in a module and in the discriminant of an enumeration, the last without a say. -/
def handlerFile : String :=
  "pub fn GET() { pub fn PUT() {} } mod a { pub fn POST() {} } enum E { A = { fn one() {} 1 } }"

/-- The items of `handlerFile`. -/
def handlerItems : List Item :=
  [.function true "GET", .closed [.function true "PUT"], .closed [.function true "POST"],
    .other [.function false "one"]]

/-- `handlerFile` is analyzed like its only top-level function. -/
theorem Analysis.ofSource?_handler : ∃ file analysis notices,
    File.ofText? handlerFile = some file ∧ file.Silent ∧
      Analysis.ofSource? "/" ⟨"server.rs"⟩ none handlerFile = some (analysis, notices) ∧
      (∀ m, (analysis.methods.get? m).isSome = true ↔ m = .get) ∧
      Analysis.ofSource? "/" ⟨"server.rs"⟩ none "pub fn GET() {}" = some (analysis, notices) := by
  have hfile : File.ofText? handlerFile = some ⟨handlerItems⟩ := File.ofText?_of_areSame (by decide +kernel)
  have hplain : File.ofText? "pub fn GET() {}" = some ⟨[.function true "GET"]⟩ :=
    File.ofText?_of_areSame (by decide +kernel)
  have hsilent : File.Silent ⟨handlerItems⟩ := by
    intro item hitem
    obtain rfl := List.mem_singleton.mp hitem
    rfl
  obtain ⟨analysis, notices, hanalysis, -, hsurface⟩ := Analysis.ofSource?_surface "/" ⟨"server.rs"⟩ none hfile
  obtain ⟨hmethods, -, hothers⟩ := hsurface hsilent
  refine ⟨_, analysis, notices, hfile, hsilent, hanalysis, fun m => (hmethods m).trans ?_, ?_⟩
  · have hget : "GET" = m.token ↔ m = .get := by cases m <;> decide
    simp [handlerItems, Item.IsExportOf, hget]
  · exact hothers _ _ hplain (fun item hitem => nomatch hitem) rfl

/-- A file with a function in the discriminant of an enumeration. -/
def discriminantFile : String := "enum E { A = { pub fn GET() {} 0 } }"

/-- **A method that no top-level item exports**: its function stands in the discriminant of an enumeration. -/
theorem Analysis.ofSource?_discriminant : ∃ file analysis notices,
    File.ofText? discriminantFile = some file ∧
      Analysis.ofSource? "/" ⟨"server.rs"⟩ none discriminantFile = some (analysis, notices) ∧
      (analysis.methods.get? .get).isSome = true ∧ ¬∃ item ∈ file.items, item.IsExportOf .get := by
  have hfile : File.ofText? discriminantFile = some ⟨[.other [.function true "GET"]]⟩ :=
    File.ofText?_of_areSame (by decide +kernel)
  refine ⟨_, _, _, hfile, by rw [Analysis.ofSource?, hfile]; rfl, rfl, ?_⟩
  rintro ⟨item, hitem, hexport⟩
  obtain rfl := List.mem_singleton.mp hitem
  exact hexport

end RouteContracts
