import RouteContracts.Proofs.Artifact.CodeTrees
import RouteContracts.Proofs.Source.ItemRules

/-! # The items of the code of artifacts
Where no record and no field has a reserved word for its name, the trees of the code of an artifact are items except
for those of an endpoint that has one.

* `run_typeOf_of_typeTrees`: `typeOf` reads `TypeTrees`, by induction on the type.
* `Unreserved`, `Accepted`: items whose records and fields, and items whose endpoints have identifiers for names.
* `decides_record`, `decides_endpoint`, `decides_item`, `decides_module`: **each part is an item exactly if all in it
  is `Accepted`.**
* `isSome_ofText?_code`: **the code is read as a file exactly if all names in it are words and all items in it are
  `Accepted`.** -/

namespace RouteContracts.Artifact

open Source Source.Parser Source.Rule

variable {module ts rest : List Tree}

/-! ## Lists of trees -/

/-- `Tree.sizes` of a member of `tss` is at most that of `tss.flatten`. -/
theorem sizes_le_of_mem {tss : List (List Tree)} (h : ts ∈ tss) : Tree.sizes ts ≤ Tree.sizes tss.flatten := by
  obtain ⟨before, after, rfl⟩ := List.append_of_mem h
  rw [List.flatten_append, List.flatten_cons, Tree.sizes_append, Tree.sizes_append]
  omega

theorem exists_of_mem_forall₂ {α β : Type} {R : α → β → Prop} {xs : List α} {ys : List β} (h : List.Forall₂ R xs ys)
    {y : β} (hy : y ∈ ys) : ∃ x ∈ xs, R x y := by
  induction h with
  | nil => cases hy
  | @cons x _ xs _ hxy _ ih =>
    rcases List.mem_cons.mp hy with rfl | hy
    · exact ⟨x, List.mem_cons_self .., hxy⟩
    · obtain ⟨x', hx', hR⟩ := ih hy
      exact ⟨x', List.mem_cons_of_mem x hx', hR⟩

theorem forall₂_imp_of_mem {α β : Type} {R S : α → β → Prop} {xs : List α} {ys : List β}
    (hRS : ∀ x ∈ xs, ∀ y ∈ ys, R x y → S x y) (h : List.Forall₂ R xs ys) : List.Forall₂ S xs ys := by
  rw [List.forall₂_iff_zip] at h ⊢
  exact ⟨h.1, fun hmem => hRS _ (List.of_mem_zip hmem).1 _ (List.of_mem_zip hmem).2 (h.2 hmem)⟩

/-! ## Types -/

/-- `PathTrees` behind others. -/
theorem PathTrees.append {us : List Tree} (h : PathTrees ts) (hus : PathTrees us) :
    PathTrees (ts ++ .mark ':' true :: .mark ':' false :: us) := by
  induction h with
  | last hpart htry => exact .more hpart htry hus
  | more hpart htry _ ih => exact .more hpart htry ih

theorem ModuleTrees.append {us : List Tree} (h : ModuleTrees ts) (hus : PathTrees us) :
    ModuleTrees (ts ++ .mark ':' true :: .mark ':' false :: us) := by
  cases h with
  | relative h => exact .relative (h.append hus)
  | absolute h => exact .absolute (h.append hus)

theorem pathTrees_word {w : String} (hw : IsIdentifier w) : PathTrees [.word w] :=
  .last (isPart_of_isIdentifier hw) (hw.ne _ (by decide))

/-- `TypeTrees` begin with a `TypeFront`. -/
theorem TypeTrees.front {t : FieldType} (h : TypeTrees module t ts) (hmodule : ModuleTrees module)
    (hrecords : ∀ n ∈ t.records, IsIdentifier n) (us : List Tree) : TypeFront (ts ++ us) := by
  have hword : ∀ {w : String} (vs : List Tree), IsIdentifier w → TypeFront (.word w :: vs) := fun vs hw =>
    .path (.word (isPart_of_isIdentifier hw) (hw.ne _ (by decide)) vs)
  cases h with
  | text | number | truth | list | option => exact hword _ (by decide)
  | unit => exact .unit [] us
  | anyJson =>
    rw [List.append_assoc]
    exact .path (.of_moduleTrees hmodule _)
  | record n => exact hword _ (hrecords n (List.mem_singleton.mpr rfl))

theorem TypeTrees.ne_nil {t : FieldType} (h : TypeTrees module t ts) : ts ≠ [] := by
  cases h with
  | anyJson => exact List.append_ne_nil_of_right_ne_nil _ (List.cons_ne_nil _ _)
  | text | number | truth | unit | record | list | option => exact List.cons_ne_nil _ _

/-- **`typeOf` reads `TypeTrees`**, by induction on the type, where the records in it have identifiers for names. -/
theorem run_typeOf_of_typeTrees {t : FieldType} (h : TypeTrees module t ts) (hmodule : ModuleTrees module)
    (hrecords : ∀ n ∈ t.records, IsIdentifier n) {n : Nat} (hn : ts.length ≤ n) (hrest : EndsType rest)
    (plus : Bool) : ∃ items, run (Rule.typeOf (Grammar.upTo n) plus) (ts ++ rest) = some (items, rest) := by
  induction h generalizing n rest plus with
  | text => exact run_typeOf_word (w := "String") (by decide) hrest plus
  | number => exact run_typeOf_word (w := "f64") (by decide) hrest plus
  | truth => exact run_typeOf_word (w := "bool") (by decide) hrest plus
  | unit => exact run_typeOf_unit hrest plus
  | anyJson =>
    have hmore := hmodule.append (.more (w := "serde_json") (by decide) (by decide)
      (pathTrees_word (w := "Value") (by decide)))
    exact run_typeOf_of_moduleTrees hmore hrest plus
  | record n => exact run_typeOf_word (hrecords _ (List.mem_singleton.mpr rfl)) hrest plus
  | @list t ts i j h ih | @option t ts i j h ih =>
    simp only [List.length_cons, List.length_append, List.length_nil] at hn
    obtain ⟨n, rfl⟩ : ∃ m, n = m + 1 := ⟨n - 1, by omega⟩
    have hinner : ts.length ≤ n := by omega
    obtain ⟨items, hitems⟩ := ih hrecords hinner (endsType_mark (c := '>') (by decide) j rest) true
    have hlength : (Tree.mark '>' j :: rest).length < (ts ++ Tree.mark '>' j :: rest).length := by
      have hpos : 0 < ts.length := List.length_pos_iff.mpr h.ne_nil
      rw [List.length_append]
      omega
    rw [List.cons_append, List.cons_append, List.append_assoc, List.singleton_append]
    exact run_typeOf_generic (by decide) (h.front hmodule hrecords (.mark '>' j :: rest)) hitems hlength hrest plus

/-- `typeOf` reads `ContractTrees`. -/
theorem run_typeOf_of_contractTrees {t : Option FieldType} (h : ContractTrees module t ts)
    (hmodule : ModuleTrees module) (hrecords : ∀ n ∈ pieceRecords t, IsIdentifier n) {n : Nat} (hn : ts.length ≤ n)
    (hrest : EndsType rest) (plus : Bool) :
    ∃ items, run (Rule.typeOf (Grammar.upTo n) plus) (ts ++ rest) = some (items, rest) := by
  cases h with
  | none => exact run_typeOf_word (by decide) hrest plus
  | some h =>
    refine run_typeOf_of_typeTrees h hmodule (fun n hn => hrecords n ?_) hn hrest plus
    rwa [pieceRecords, Option.toList_some, List.flatMap_singleton]

/-! ## Records -/

/-- `namedField` reads `FieldTrees` up to the comma. -/
theorem run_namedField_of_fieldTrees {f : Field} (h : FieldTrees module f ts) (hmodule : ModuleTrees module)
    (hident : IsIdentifier f.ident) (hrecords : ∀ n ∈ f.type.records, IsIdentifier n) {n : Nat} (hn : ts.length ≤ n) :
    ts ≠ [] ∧ ∀ rest, ∃ items, run (namedField (Grammar.upTo (n + 1))) (ts ++ rest) =
      some (items, .mark ',' false :: rest) := by
  have htype : ∀ {us : List Tree}, TypeTrees module f.type us → us.length ≤ n → ∀ rest, ∃ items,
      run ((Grammar.upTo (n + 1)).type true) (us ++ .mark ',' false :: rest) =
        some (items, .mark ',' false :: rest) := fun hus hlength rest =>
    run_typeOf_of_typeTrees hus hmodule hrecords hlength (endsType_mark (by decide) false rest) true
  cases h with
  | @plain us h =>
    simp only [List.length_cons, List.length_append, List.length_nil] at hn
    have hlength : us.length ≤ n := by omega
    refine ⟨List.cons_ne_nil _ _, fun rest => ?_⟩
    have hread := run_namedField forall_attributeBody_nil hident false (htype h hlength rest)
    simpa using hread
  | @attributed arguments us h =>
    simp only [List.length_cons, List.length_append, List.length_nil] at hn
    have hlength : us.length ≤ n := by omega
    refine ⟨List.cons_ne_nil _ _, fun rest => ?_⟩
    have hbodies : ∀ body ∈ [[Tree.word "serde", .group .parenthesis arguments]], AttributeBody body :=
      List.forall_mem_singleton.mpr (.arguments (by decide) arguments)
    have hread := run_namedField hbodies hident false (htype h hlength rest)
    simpa using hread

/-- **`itemOf` reads `RecordTrees`** where all names in the record are `IsIdentifier`. -/
theorem decides_record {r : Record} (h : RecordTrees module r ts) (hmodule : ModuleTrees module)
    (hname : IsIdentifier r.name)
    (hfields : ∀ f ∈ r.fields, IsIdentifier f.ident ∧ ∀ n ∈ f.type.records, IsIdentifier n) {n : Nat}
    (hn : Tree.sizes ts ≤ n) : Decides (itemOf (Grammar.upTo (n + 1))) True ts := by
  cases h with
  | @mk derived arguments tss h =>
    have hread : ∀ us ∈ tss, us ≠ [] ∧ ∀ rest, ∃ items, run (namedField (Grammar.upTo (n + 1))) (us ++ rest) =
        some (items, .mark ',' false :: rest) := by
      intro us hus
      obtain ⟨f, hf, htrees⟩ := exists_of_mem_forall₂ h hus
      have hlength : us.length ≤ n := by
        have hsizes := Nat.le_trans (Tree.length_le_sizes us) (sizes_le_of_mem hus)
        simp only [Tree.sizes_append, Tree.sizes, Tree.size] at hn
        omega
      exact run_namedField_of_fieldTrees htrees hmodule (hfields f hf).1 (hfields f hf).2 hlength
    refine .always (List.cons_ne_nil _ _) fun us => ?_
    have hbodies : ∀ body ∈ [[Tree.word "derive", .group .parenthesis derived],
        [.word "serde", .group .parenthesis arguments]], AttributeBody body := by
      rw [List.forall_mem_cons, List.forall_mem_singleton]
      exact ⟨.arguments (by decide) derived, .arguments (by decide) arguments⟩
    obtain ⟨attrs, hitem⟩ := run_itemOf_pub (g := Grammar.upTo (n + 1)) hbodies "struct"
      (.word r.name :: .group .brace tss.flatten :: us)
    obtain ⟨items, hstruct⟩ := run_structItem hname hread us
    refine ⟨_, Eq.trans ?_ (hitem.trans ((run_itemRest_struct attrs _).trans (run_openItem hstruct attrs)))⟩
    rfl

/-! ## Endpoints -/

theorem isIdentifier_variantName (m : Method) : IsIdentifier m.variantName := by cases m <;> decide

/-- `memberItem` reads a type with `ContractTrees`. -/
theorem decides_type {w : String} (hw : IsIdentifier w) {t : Option FieldType} (h : ContractTrees module t ts)
    (hmodule : ModuleTrees module) (hrecords : ∀ n ∈ pieceRecords t, IsIdentifier n) {n : Nat} (hn : ts.length ≤ n) :
    Decides (memberItem (Grammar.upTo (n + 1))) True (memberTrees [.word "type", .word w] ts) := by
  refine .always (List.cons_ne_nil _ _) fun us => ?_
  obtain ⟨items, htype⟩ := run_typeOf_of_contractTrees h hmodule hrecords hn
    (endsType_mark (c := ';') (by decide) false us) true
  have hcode : memberTrees [.word "type", .word w] ts ++ us =
      .word "type" :: .word w :: .mark '=' false :: (ts ++ .mark ';' false :: us) := by simp [memberTrees]
  rw [hcode]
  exact run_memberItem_type hw htype

/-- `memberItem` reads the constant `METHOD`. -/
theorem decides_method (m : Method) (n : Nat) : Decides (memberItem (Grammar.upTo (n + 1))) True
    (memberTrees [.word "const", .word "METHOD", .mark ':' false, .word "Method"] (methodTrees m)) := by
  refine .always (List.cons_ne_nil _ _) fun us => ?_
  obtain ⟨items, htype⟩ := run_typeOf_word (g := Grammar.upTo n) (w := "Method") (by decide)
    (endsType_mark (c := '=') (by decide) false (methodTrees m ++ .mark ';' false :: us)) true
  obtain ⟨e, hexpr⟩ := run_expression_path (g := Grammar.upTo n) (w := "Method") (by decide)
    (isIdentifier_variantName m) true (.mark (.inr rfl) false us)
  exact run_memberItem_const (g := Grammar.upTo (n + 1)) (by decide) htype hexpr

/-- `memberItem` reads the constant `PATTERN`. -/
theorem decides_pattern (pattern : String) (n : Nat) : Decides (memberItem (Grammar.upTo (n + 2))) True
    (memberTrees [.word "const", .word "PATTERN", .mark ':' false, .mark '&' true, .mark '\'' true, .word "static",
      .word "str"] [.literal (Text.quoted pattern)]) := by
  refine .always (List.cons_ne_nil _ _) fun us => ?_
  obtain ⟨items, hname⟩ := run_typeOf_word (g := Grammar.upTo n) (w := "str") (by decide)
    (endsType_mark (c := '=') (by decide) false (.literal (Text.quoted pattern) :: .mark ';' false :: us)) false
  have htype := run_typeOf_static (g := Grammar.upTo (n + 1)) true true hname rfl
  obtain ⟨e, hexpr⟩ := run_expression_literal (g := Grammar.upTo (n + 1)) (Text.quoted pattern) true
    (.mark (.inr rfl) false us)
  exact run_memberItem_const (g := Grammar.upTo (n + 2)) (by decide) htype hexpr

/-- `memberItem` reads `MemberTrees`. -/
theorem decides_members {m : Method} {e : EndpointItem} (h : MemberTrees module m e ts) (hmodule : ModuleTrees module)
    (hrecords : ∀ n ∈ pieceRecords e.body ++ (pieceRecords e.routeParams ++ pieceRecords e.searchParams),
      IsIdentifier n) {n : Nat} (hn : Tree.sizes ts ≤ n) :
    Decides (memberItem (Grammar.upTo (n + 2))) True ts ∧ Peek.op "#" ts = false := by
  rw [List.forall_mem_append, List.forall_mem_append] at hrecords
  cases h with
  | @mk body routeParams searchParams hbody hrouteParams hsearchParams =>
    have hlength : body.length ≤ n + 1 ∧ routeParams.length ≤ n + 1 ∧ searchParams.length ≤ n + 1 := by
      have hb := Tree.length_le_sizes body
      have hr := Tree.length_le_sizes routeParams
      have hs := Tree.length_le_sizes searchParams
      simp only [memberTrees, Tree.sizes_append, Tree.sizes, Tree.size] at hn
      omega
    refine ⟨?_, rfl⟩
    have hall := (decides_method m (n + 1)).append fun _ => (decides_pattern e.pattern n).append fun _ =>
      (decides_type (w := "Body") (by decide) hbody hmodule hrecords.1 hlength.1).append fun _ =>
      (decides_type (w := "RouteParams") (by decide) hrouteParams hmodule hrecords.2.1 hlength.2.1).append fun _ =>
      decides_type (w := "SearchParams") (by decide) hsearchParams hmodule hrecords.2.2 hlength.2.2
    exact hall.congr (by simp)

/-- **`itemOf` reads `endpointTrees` behind a comment exactly if the name of the endpoint `IsIdentifier`**, where the
names of the records in its types are. -/
theorem decides_endpoint {m : Method} {e : EndpointItem} (h : MemberTrees module m e ts) (hmodule : ModuleTrees module)
    (hrecords : ∀ n ∈ pieceRecords e.body ++ (pieceRecords e.routeParams ++ pieceRecords e.searchParams),
      IsIdentifier n) {n : Nat} (hn : Tree.sizes ts ≤ n) (text : String) :
    Decides (itemOf (Grammar.upTo (n + 2))) (IsIdentifier e.name) (commentTrees text ++ endpointTrees e ts) := by
  obtain ⟨hmembers, hattribute⟩ := decides_members h hmodule hrecords hn
  have hbodies : ∀ body ∈ [[Tree.word "doc", .mark '=' false, .literal text]], AttributeBody body :=
    List.forall_mem_singleton.mpr (.assigned (by decide) false text)
  have hstruct : Decides (itemOf (Grammar.upTo (n + 2))) (IsIdentifier e.name)
      (commentTrees text ++ [.word "pub", .word "struct", .word e.name, .mark ';' false]) := by
    refine .one (List.cons_ne_nil _ _) (fun hname us => ?_) fun hname us => ?_
    · obtain ⟨attrs, hitem⟩ := run_itemOf_pub (g := Grammar.upTo (n + 2)) hbodies "struct"
        (.word e.name :: .mark ';' false :: us)
      obtain ⟨items, hstruct⟩ := run_structItem_unit (g := Grammar.upTo (n + 2)) hname false us
      exact ⟨_, hitem.trans ((run_itemRest_struct attrs _).trans (run_openItem hstruct attrs))⟩
    · obtain ⟨attrs, hitem⟩ := run_itemOf_pub (g := Grammar.upTo (n + 2)) hbodies "struct"
        (.word e.name :: .mark ';' false :: us)
      exact hitem.trans ((run_itemRest_struct attrs _).trans (run_bind_none (run_structItem_none hname) _))
  have himpl : IsIdentifier e.name → Decides (itemOf (Grammar.upTo (n + 2))) True
      [.word "impl", .word "Endpoint", .word "for", .word e.name, .group .brace ts] := by
    intro hname
    refine .always (List.cons_ne_nil _ _) fun us => ?_
    obtain ⟨attrs, hitem⟩ := run_itemOf_own (g := Grammar.upTo (n + 2)) forall_attributeBody_nil (k := "impl")
      (by decide) (.word "Endpoint" :: .word "for" :: .word e.name :: .group .brace ts :: us)
    obtain ⟨items, himpl⟩ := run_implItem (v := "Endpoint") (by decide) hname hmembers hattribute us
    exact ⟨_, hitem.trans ((run_itemRest_impl attrs _).trans (run_closedItem himpl attrs))⟩
  exact (hstruct.append himpl).congr (and_iff_left_of_imp fun _ => trivial)

/-! ## Modules -/

/-- The names of records and fields in an item are `IsIdentifier`. -/
def ModuleItem.Unreserved : ModuleItem → Prop
  | .record r => IsIdentifier r.name ∧
      ∀ f ∈ r.fields, IsIdentifier f.ident ∧ ∀ n ∈ f.type.records, IsIdentifier n
  | .endpoint e => ∀ n ∈ pieceRecords e.body ++ (pieceRecords e.routeParams ++ pieceRecords e.searchParams),
      IsIdentifier n

/-- The name of an endpoint `IsIdentifier`. -/
def ModuleItem.Accepted : ModuleItem → Prop
  | .record _ => True
  | .endpoint e => IsIdentifier e.name

/-- `itemOf` reads `ItemTrees` exactly if the item is `Accepted`. -/
theorem decides_item {m : Method} {i : ModuleItem} (h : ItemTrees module m i ts) (hmodule : ModuleTrees module)
    (hnames : i.Unreserved) {n : Nat} (hn : Tree.sizes ts ≤ n) :
    Decides (itemOf (Grammar.upTo (n + 3))) i.Accepted ts := by
  cases h with
  | record h => exact decides_record h hmodule hnames.1 hnames.2 (Nat.le_trans hn (Nat.le_add_right n 2))
  | @endpoint e text us h =>
    have hsizes : Tree.sizes us ≤ n + 1 := by
      simp only [Tree.sizes_append, endpointTrees, Tree.sizes, Tree.size] at hn
      omega
    exact decides_endpoint h hmodule hnames hsizes text

/-- `itemOf` reads `frontTrees`. -/
theorem decides_front (n : Nat) : Decides (itemOf (Grammar.upTo (n + 3))) True frontTrees := by
  refine .always (List.cons_ne_nil _ _) fun us => ?_
  have hsuper : ModuleTrees [.word "super"] := .relative (.last (by decide) (by decide))
  obtain ⟨attrs, hitem⟩ := run_itemOf_own (g := Grammar.upTo (n + 3)) forall_attributeBody_nil (k := "use")
    (by decide) (.word "super" :: .mark ':' true :: .mark ':' true :: .mark '*' true :: .mark ';' false :: us)
  obtain ⟨items, huse⟩ := run_useItem hsuper (i := false) (j := true)
    (fun k => ⟨false, run_importsOf_star (g := Grammar.upTo (k + 1)) true false (.mark ';' false :: us)⟩) n attrs
  exact ⟨items, hitem.trans ((run_itemRest_use attrs _).trans huse)⟩

/-- **`itemOf` reads `MethodModuleTrees` exactly if all items in the module are `Accepted`.** -/
theorem decides_module {mm : MethodModule} (h : MethodModuleTrees module mm ts) (hmodule : ModuleTrees module)
    (hnames : ∀ i ∈ mm.items, i.Unreserved) {n : Nat} (hn : Tree.sizes ts ≤ n) :
    Decides (itemOf (Grammar.upTo (n + 4))) (∀ i ∈ mm.items, i.Accepted) ts := by
  cases h with
  | @mk tss h =>
    have hitems : Decides (itemOf (Grammar.upTo (n + 3))) (∀ i ∈ mm.items, i.Accepted) (frontTrees ++ tss.flatten) := by
      have hall : List.Forall₂ (fun i us => Decides (itemOf (Grammar.upTo (n + 3))) (ModuleItem.Accepted i) us)
          mm.items tss := by
        refine forall₂_imp_of_mem (fun i hi us hus htrees => decides_item htrees hmodule (hnames i hi) ?_) h
        have hsizes := sizes_le_of_mem hus
        simp only [Tree.sizes_append, Tree.sizes, Tree.size] at hn
        omega
      exact ((decides_front n).append fun _ => Decides.flatten hall).congr (and_iff_right trivial)
    have hname : IsIdentifier mm.method.moduleName := by cases mm.method <;> decide
    have hmod := run_modItem (g := Grammar.upTo (n + 4)) hname hitems rfl
    refine .one (List.cons_ne_nil _ _) (fun hok us => ?_) fun hok us => ?_
    · obtain ⟨attrs, hitem⟩ := run_itemOf_pub (g := Grammar.upTo (n + 4)) forall_attributeBody_nil "mod"
        (.word mm.method.moduleName :: .group .brace (frontTrees ++ tss.flatten) :: us)
      obtain ⟨items, hread⟩ := hmod.1 hok us
      exact ⟨_, hitem.trans ((run_itemRest_mod attrs _).trans (run_closedItem hread attrs))⟩
    · obtain ⟨attrs, hitem⟩ := run_itemOf_pub (g := Grammar.upTo (n + 4)) forall_attributeBody_nil "mod"
        (.word mm.method.moduleName :: .group .brace (frontTrees ++ tss.flatten) :: us)
      exact hitem.trans ((run_itemRest_mod attrs _).trans (run_bind_none (hmod.2 hok us) _))

/-! ## Artifacts -/

/-- `itemOf` reads `importTrees`. -/
theorem decides_import (hmodule : ModuleTrees module) (n : Nat) :
    Decides (itemOf (Grammar.upTo (n + module.length + 2))) True (importTrees module) := by
  refine .always (List.cons_ne_nil _ _) fun us => ?_
  have hbodies : ∀ body ∈ [[Tree.word "allow", .group .parenthesis [.word "unused_imports"]]], AttributeBody body :=
    List.forall_mem_singleton.mpr (.arguments (by decide) _)
  have hnames : ∀ w ∈ ["Endpoint", "Method", "NoData"], IsIdentifier w := by decide
  let names : List Tree := commaTrees (["Endpoint", "Method", "NoData"].map fun w => [.word w])
  obtain ⟨attrs, hitem⟩ := run_itemOf_own (g := Grammar.upTo (n + module.length + 2)) hbodies (k := "use") (by decide)
    (module ++ .mark ':' true :: .mark ':' false :: .group .brace names :: .mark ';' false :: us)
  obtain ⟨items, huse⟩ := run_useItem hmodule (i := false) (j := false)
    (fun k => run_importsOf_names hnames k (.mark ';' false :: us)) n attrs
  have hcode : importTrees module ++ us =
      ([[Tree.word "allow", .group .parenthesis [.word "unused_imports"]]].map attributeTrees).flatten ++
        .word "use" :: (module ++ .mark ':' true :: .mark ':' false :: .group .brace names ::
          .mark ';' false :: us) := by
    simp [importTrees, attributeTrees, names, commaTrees]
  rw [hcode]
  exact ⟨items, hitem.trans ((run_itemRest_use attrs _).trans huse)⟩

/-- `rowTrees` are a `ReadsPart` of `expression`. -/
theorem readsPart_row (n : Nat) (row : Method × String) :
    ReadsPart ((Grammar.upTo (n + 2)).expr true) (rowTrees row) := by
  refine ⟨List.cons_ne_nil _ _, fun rest hrest => ?_⟩
  have hmethod : ReadsPart ((Grammar.upTo (n + 1)).expr true) (methodTrees row.1) := by
    refine ⟨List.cons_ne_nil _ _, fun rest hrest => ?_⟩
    exact run_expression_path (g := Grammar.upTo n) (w := "Method") (by decide) (isIdentifier_variantName row.1) true
      (endsExpr_of_endsPart hrest)
  have hpattern : ReadsPart ((Grammar.upTo (n + 1)).expr true) [.literal (Text.quoted row.2)] := by
    refine ⟨List.cons_ne_nil _ _, fun rest hrest => ?_⟩
    exact run_expression_literal (g := Grammar.upTo n) _ true (endsExpr_of_endsPart hrest)
  exact run_expression_pair (g := Grammar.upTo (n + 1)) hmethod hpattern true (endsExpr_of_endsPart hrest)

/-- `typeOf` reads the type of the table. -/
theorem run_typeOf_table (n : Nat) (rest : List Tree) :
    ∃ items, run (Rule.typeOf (Grammar.upTo (n + 4)) true) (.mark '&' false :: .group .bracket
      [.group .parenthesis [.word "Method", .mark ',' false, .mark '&' false, .word "str"]] :: rest) =
        some (items, rest) := by
  have hmethod : ReadsPart ((Grammar.upTo (n + 2)).type true) [.word "Method"] := by
    refine ⟨List.cons_ne_nil _ _, fun rest hrest => ?_⟩
    exact run_typeOf_word (g := Grammar.upTo (n + 1)) (by decide) (endsType_of_endsPart hrest) true
  have htext : ReadsPart ((Grammar.upTo (n + 2)).type true) [.mark '&' false, .word "str"] := by
    refine ⟨List.cons_ne_nil _ _, fun rest hrest => ?_⟩
    obtain ⟨items, hname⟩ := run_typeOf_word (g := Grammar.upTo n) (w := "str") (by decide)
      (endsType_of_endsPart hrest) false
    exact ⟨items, run_typeOf_reference (g := Grammar.upTo (n + 1)) hname rfl rfl⟩
  obtain ⟨items, hpair⟩ := run_typeOf_pair (g := Grammar.upTo (n + 2)) hmethod htext true [] rfl
  have hslice : run (Rule.typeOf (Grammar.upTo (n + 3)) false) _ = _ :=
    run_typeOf_slice (g := Grammar.upTo (n + 3)) hpair rest
  exact ⟨items, run_typeOf_reference (g := Grammar.upTo (n + 4)) hslice rfl rfl⟩

/-- `expression` reads a reference to the rows of the table. -/
theorem run_expression_table (table : List (Method × String)) (n : Nat) (hrest : EndsExpr rest) :
    ∃ e, run (expression (Grammar.upTo (n + 4)) true)
      (.mark '&' false :: .group .bracket (commaTrees (table.map rowTrees)) :: rest) = some (e, rest) := by
  have hrows : ∀ ts ∈ table.map rowTrees, ReadsPart ((Grammar.upTo (n + 3)).expr true) ts := by
    rw [List.forall_mem_map]
    exact fun row _ => readsPart_row (n + 1) row
  obtain ⟨list, hlist⟩ := run_unary_list hrows true hrest
  obtain ⟨e, hreference⟩ := run_unary_reference (g := Grammar.upTo (n + 4)) (j := false) hlist rfl rfl
  exact run_expression hreference hrest

/-- `itemOf` reads `tableTrees`. -/
theorem decides_table (text : String) (table : List (Method × String)) (n : Nat) :
    Decides (itemOf (Grammar.upTo (n + 5))) True (tableTrees text table) := by
  refine .always (List.cons_ne_nil _ _) fun us => ?_
  have hbodies : ∀ body ∈ [[Tree.word "doc", .mark '=' false, .literal text]], AttributeBody body :=
    List.forall_mem_singleton.mpr (.assigned (by decide) false text)
  obtain ⟨items, htype⟩ := run_typeOf_table n (.mark '=' false :: .mark '&' false ::
    .group .bracket (commaTrees (table.map rowTrees)) :: .mark ';' false :: us)
  obtain ⟨e, hexpr⟩ := run_expression_table table n (.mark (.inr rfl) false us)
  obtain ⟨attrs, hitem⟩ := run_itemOf_pub (g := Grammar.upTo (n + 5)) hbodies "const"
    (.word "ROUTES" :: .mark ':' false :: .mark '&' false :: .group .bracket
      [.group .parenthesis [.word "Method", .mark ',' false, .mark '&' false, .word "str"]] :: .mark '=' false ::
      .mark '&' false :: .group .bracket (commaTrees (table.map rowTrees)) :: .mark ';' false :: us)
  obtain ⟨items, hconst⟩ := run_constItem (g := Grammar.upTo (n + 5)) (w := "ROUTES") (i := false) (by decide) htype
    hexpr attrs .everywhere
  exact ⟨items, hitem.trans ((run_itemRest_const (by decide) attrs _).trans hconst)⟩

/-- **`fileItems` reads `CodeTrees` exactly if all items of the artifact are `Accepted`.** -/
theorem isSome_fileItems_iff {a : Artifact} (h : CodeTrees module a ts) (hmodule : ModuleTrees module)
    (hnames : ∀ mm ∈ a.modules, ∀ i ∈ mm.items, i.Unreserved) :
    (whole (fileItems (Grammar.forTrees ts)) ts).isSome = true ↔ ∀ mm ∈ a.modules, ∀ i ∈ mm.items, i.Accepted := by
  cases h with
  | @mk tss text h =>
    let n := Tree.sizes (importTrees module ++ (tss.flatten ++ tableTrees text a.table))
    have hsizes : Tree.sizes tss.flatten ≤ n ∧ module.length + 2 ≤ n ∧ 1 ≤ n := by
      have hlength := Tree.length_le_sizes module
      simp only [n, Tree.sizes_append, importTrees, attributeTrees, Tree.sizes, Tree.size]
      omega
    obtain ⟨k, hk⟩ : ∃ k, n + 4 = k + module.length + 2 := ⟨n + 2 - module.length, by omega⟩
    obtain ⟨l, hl⟩ : ∃ l, n + 4 = l + 5 := ⟨n - 1, by omega⟩
    have himport := decides_import hmodule k
    have htable := decides_table text a.table l
    rw [← hk] at himport
    rw [← hl] at htable
    have hmodules : List.Forall₂ (fun mm us => Decides (itemOf (Grammar.upTo (n + 4)))
        (∀ i ∈ MethodModule.items mm, i.Accepted) us) a.modules tss := by
      refine forall₂_imp_of_mem (fun mm hmm us hus htrees => ?_) h
      exact decides_module htrees hmodule (hnames mm hmm) (Nat.le_trans (sizes_le_of_mem hus) hsizes.1)
    have hall := himport.append fun _ => (Decides.flatten hmodules).append fun _ => htable
    refine (isSome_whole_fileItems hall rfl).trans ?_
    simp

/-- **`File.ofText?` accepts `a.code`** exactly if all that is `spelled` in it `isWord` and all items are `Accepted`. -/
theorem isSome_ofText?_code {given : String} (hpath : IsModulePath given) (a : Artifact)
    (hlines : ∀ mm ∈ a.modules, ∀ i ∈ mm.items, i.OneLine)
    (hlike : ∀ n ∈ a.spelled, Lexer.Scannable n)
    (hnames : ∀ mm ∈ a.modules, ∀ i ∈ mm.items, i.Unreserved) :
    (File.ofText? (String.ofList (a.code given))).isSome = true ↔
      (∀ n ∈ a.spelled, Lexer.isWord n = true) ∧ ∀ mm ∈ a.modules, ∀ i ∈ mm.items, i.Accepted := by
  obtain ⟨module, hreading⟩ := hpath.exists_reading
  obtain ⟨hread, hstuck⟩ := trees?_code hreading a hlines hlike
  have hfront : File.withoutShebang (Lexer.withoutByteOrderMark (String.ofList (a.code given)).toList) =
      a.code given := by
    rw [String.toList_ofList]
    rfl
  have hfile : (File.ofText? (String.ofList (a.code given))).isSome =
      ((Lexer.trees? (a.code given)).bind fun ts => whole (fileItems (Grammar.forTrees ts)) ts).isSome := by
    unfold File.ofText?
    rw [hfront]
    dsimp only
    cases Lexer.trees? (a.code given) with
    | none => rfl
    | some ts =>
      show (whole (fileItems (Grammar.forTrees ts)) ts >>= fun items => some (File.mk items)).isSome = _
      cases h : whole (fileItems (Grammar.forTrees ts)) ts <;> simp [h]
  rw [hfile]
  by_cases hall : ∀ n ∈ a.spelled, Lexer.isWord n = true
  · obtain ⟨ts, htrees, hts⟩ := hread hall
    rw [hts]
    exact (isSome_fileItems_iff htrees hreading.trees hnames).trans (and_iff_right hall).symm
  · have hnone : ∃ n ∈ a.spelled, Lexer.isWord n = false := by simpa using hall
    rw [hstuck hnone]
    exact iff_of_false Bool.false_ne_true fun h => hall h.1

end RouteContracts.Artifact
