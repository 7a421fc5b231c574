import RouteContracts.Proofs.Source.ExpressionRules

/-! # What the rules of items read
The items of generated code are read whatever comes behind them: records with their fields, implementations with their
constants and types, modules, imports and constants.

* `run_structItem`, `run_implItem`, `run_useItem`, `run_constItem`: an item by its shape.
* `run_structItem_none`: no record has a reserved word for its name.
* `run_content`: the content of a module, a file or an implementation is read exactly if its items are.
* `run_modItem`, `isSome_whole_fileItems`: **a module and a file are read exactly if their content is.** -/

namespace RouteContracts.Source

namespace Rule

open RouteContracts.Source.Parser

variable {g : Grammar} {ts rest : List Tree}

/-! ## Visibility -/

/-- `visibility` reads `pub` in front of a word. -/
theorem run_visibility (w : String) :
    run visibility (.word "pub" :: .word w :: rest) = some (.everywhere, .word w :: rest) := by
  unfold visibility
  simp [restriction]

/-- `visibility` reads nothing where `pub` does not come. -/
theorem run_visibility_nil (ts : List Tree) (h : Peek.keyword "pub" ts = false) :
    run visibility ts = some (.inherited, ts) := by
  unfold visibility
  simp [h]

/-! ## Records -/

/-- `namedField` from `g.type`, behind attributes, `pub` and an `IsIdentifier`. -/
theorem run_namedField {bodies : List (List Tree)} (hbodies : ∀ body ∈ bodies, AttributeBody body) {w : String}
    (hw : IsIdentifier w) (j : Bool)
    (htype : ∃ items, run (g.type true) (ts ++ rest) = some (items, rest)) :
    ∃ items, run (namedField g)
      ((bodies.map attributeTrees).flatten ++ .word "pub" :: .word w :: .mark ':' j :: (ts ++ rest)) =
        some (items, rest) := by
  have hreserved : Peek.reserved.contains w = false := hw
  obtain ⟨attrs, hattrs⟩ := run_attributes (g := g) hbodies
    (.word "pub" :: .word w :: .mark ':' j :: (ts ++ rest)) rfl
  obtain ⟨items, htype⟩ := htype
  refine ⟨attrs ++ items, ?_⟩
  unfold namedField
  rw [run_bind_of hattrs, run_bind_of (run_visibility w), run_bind_identifierOrBlank _ hreserved]
  simp [Peek.op, Peek.operator, run_bind_of htype]

/-- `structItem` reads a record without fields. -/
theorem run_structItem_unit {w : String} (hw : IsIdentifier w) (j : Bool) (rest : List Tree) :
    ∃ items, run (structItem g) (.word "struct" :: .word w :: .mark ';' j :: rest) = some (items, rest) := by
  have hreserved : Peek.reserved.contains w = false := hw
  have hgenerics := run_generics (g := g) (.mark ';' j :: rest) rfl
  have hwhere := run_whereClause (g := g) (.mark ';' j :: rest) rfl
  refine ⟨[], ?_⟩
  unfold structItem
  simp [hreserved, run_bind_of hgenerics, run_bind_of hwhere, Peek.op, Peek.operator, -List.contains_eq_mem]

/-- `structItem` fails at a name that is no `IsIdentifier`. -/
theorem run_structItem_none {w : String} (hw : ¬IsIdentifier w) :
    run (structItem g) (.word "struct" :: .word w :: rest) = none := by
  have hreserved : Peek.reserved.contains w = true := by rwa [IsIdentifier, Bool.not_eq_false] at hw
  unfold structItem
  simp [hreserved, -List.contains_eq_mem]

/-- `structItem` reads a record whose fields `namedField` reads up to a comma each. -/
theorem run_structItem {w : String} (hw : IsIdentifier w) {tss : List (List Tree)}
    (hfields : ∀ ts ∈ tss, ts ≠ [] ∧
      ∀ rest, ∃ items, run (namedField g) (ts ++ rest) = some (items, .mark ',' false :: rest)) (rest : List Tree) :
    ∃ items, run (structItem g) (.word "struct" :: .word w :: .group .brace tss.flatten :: rest) =
      some (items, rest) := by
  have hreserved : Peek.reserved.contains w = false := hw
  obtain ⟨found, hfound⟩ := run_commaSeparated hfields
  have hgenerics := run_generics (g := g) (.group .brace tss.flatten :: rest) rfl
  have hwhere := run_whereClause (g := g) (.group .brace tss.flatten :: rest) rfl
  have hnamed : run (namedFields g) (.group .brace tss.flatten :: rest) = some (found.flatten, rest) := by
    unfold namedFields
    rw [run_bind_of (run_group_of hfound .brace rest)]
    rfl
  refine ⟨found.flatten, ?_⟩
  unfold structItem
  simp [hreserved, run_bind_of hgenerics, run_bind_of hwhere, run_bind_of hnamed, -List.contains_eq_mem]

/-! ## Members -/

/-- The words at which `signatureNext` looks further. -/
def signatureWords : List String := ["const", "async", "unsafe", "extern", "fn"]

theorem signatureNext_word {w : String} (hw : w ∉ signatureWords) : signatureNext (.word w :: ts) = false := by
  simp only [signatureWords, List.mem_cons, List.not_mem_nil, or_false, not_or] at hw
  obtain ⟨hconst, hasync, hsafe, hforeign, hfn⟩ := hw
  unfold signatureNext
  simp [isSome_run, callingConvention, hconst, hasync, hsafe, hforeign, hfn]

theorem signatureNext_const {w : String} (hw : IsIdentifier w) :
    signatureNext (.word "const" :: .word w :: ts) = false := by
  have hasync := hw.ne "async" (by decide)
  have hsafe := hw.ne "unsafe" (by decide)
  have hforeign := hw.ne "extern" (by decide)
  have hfn := hw.ne "fn" (by decide)
  unfold signatureNext
  simp [isSome_run, callingConvention, hasync, hsafe, hforeign, hfn]

/-- `constantFront` from `g.type`. -/
theorem run_constantFront {i : Bool} {items : List Item}
    (htype : run (g.type true) ts = some (items, rest)) :
    run (constantFront g) (.mark ':' i :: ts) = some ((false, items), rest) := by
  have hgenerics := run_generics (g := g) (.mark ':' i :: ts) (by simp [Peek.op, Peek.operator])
  have hangle : Peek.op "<" (.mark ':' i :: ts) = false := by simp [Peek.op, Peek.operator]
  unfold constantFront
  simp only [run_bind_looking, hangle]
  rw [run_bind_of hgenerics]
  simp [Peek.op, Peek.operator, run_bind_of htype]

/-- `memberItem` reads a constant with an `IsIdentifier` for its name, from `g.type` and `g.expr`. -/
theorem run_memberItem_const {w : String} (hw : IsIdentifier w) {us : List Tree} {i j k : Bool} {items : List Item}
    {e : Expr} (htype : run (g.type true) ts = some (items, .mark '=' j :: us))
    (hexpr : run (g.expr true) us = some (e, .mark ';' k :: rest)) :
    ∃ items, run (memberItem g) (.word "const" :: .word w :: .mark ':' i :: ts) = some (items, rest) := by
  have hreserved : Peek.reserved.contains w = false := hw
  obtain ⟨attrs, hattrs⟩ := run_attributes_nil (g := g) (.word "const" :: .word w :: .mark ':' i :: ts) rfl
  have hvisibility := run_visibility_nil (.word "const" :: .word w :: .mark ':' i :: ts) rfl
  have hwhere := run_whereClause (g := g) (.mark ';' k :: rest) rfl
  have hconst : ∃ items, run (memberConstant g .inherited) (.word "const" :: .word w :: .mark ':' i :: ts) =
      some (items, rest) := by
    refine ⟨[.value false w e] ++ apart items, ?_⟩
    unfold memberConstant
    rw [run_bind_keyword, if_pos rfl, run_bind_identifierOrBlank _ hreserved, run_bind_of (run_constantFront htype)]
    simp [Peek.op, Peek.operator, run_bind_of hexpr, run_bind_of hwhere]
  obtain ⟨items, hconst⟩ := hconst
  refine ⟨items ++ apart attrs, ?_⟩
  unfold memberItem
  rw [run_bind_of hattrs, run_bind_of hvisibility]
  simp [Peek.butNot, signatureNext_const hw, run_bind_of hconst]

/-- `memberItem` reads a type with an `IsIdentifier` for its name, from `g.type`. -/
theorem run_memberItem_type {w : String} (hw : IsIdentifier w) {j k : Bool} {items : List Item}
    (htype : run (g.type true) ts = some (items, .mark ';' k :: rest)) :
    ∃ items, run (memberItem g) (.word "type" :: .word w :: .mark '=' j :: ts) = some (items, rest) := by
  have hreserved : Peek.reserved.contains w = false := hw
  obtain ⟨attrs, hattrs⟩ := run_attributes_nil (g := g) (.word "type" :: .word w :: .mark '=' j :: ts) rfl
  have hvisibility := run_visibility_nil (.word "type" :: .word w :: .mark '=' j :: ts) rfl
  have hgenerics := run_generics (g := g) (.mark '=' j :: ts) (by simp [Peek.op, Peek.operator])
  have hwhere := run_whereClause (g := g) (.mark '=' j :: ts) rfl
  have hlater := run_whereClause (g := g) (.mark ';' k :: rest) rfl
  have htypeItem : ∃ t, run (typeItem g true) (.word "type" :: .word w :: .mark '=' j :: ts) = some (t, rest) := by
    refine ⟨⟨false, true, items⟩, ?_⟩
    unfold typeItem colonBounds
    simp [hreserved, run_bind_of hgenerics, run_bind_of hwhere, run_bind_of htype, run_bind_of hlater, Peek.op,
      Peek.operator, -List.contains_eq_mem]
  obtain ⟨t, htypeItem⟩ := htypeItem
  refine ⟨attrs ++ t.items, ?_⟩
  unfold memberItem
  rw [run_bind_of hattrs, run_bind_of hvisibility]
  simp [Peek.butNot, signatureNext_word (w := "type") (by decide), run_bind_of htypeItem]

/-! ## Content -/

/-- The content of a module or an implementation: its own attributes, and what `p` reads to the end. -/
def content (g : Grammar) (p : Parser (List Item)) : Parser (List Item) := do
  let attrs ← innerAttributes g
  let items ← toEnd p
  return attrs ++ items

/-- **`content g p` reads `ts` exactly if `ok`** where `p` `Decides` so. -/
theorem run_content {p : Parser (List Item)} {ok : Prop} (hts : Decides p ok ts)
    (hattribute : (Peek.op "#" ts && Peek.second (Peek.op "!") ts) = false) :
    (ok → ∃ items, run (content g p) ts = some (items, [])) ∧ (¬ok → run (content g p) ts = none) := by
  obtain ⟨attrs, hattrs⟩ := run_innerAttributes (g := g) ts hattribute
  obtain ⟨hreads, hrefuses⟩ := hts.run_toEnd
  unfold content
  rw [run_bind_of hattrs]
  constructor
  · intro hok
    obtain ⟨items, hitems⟩ := hreads hok
    exact ⟨attrs ++ items, run_bind_of hitems _⟩
  · exact fun hok => run_bind_none (hrefuses hok) _

/-- `implItem` reads `impl v for w` with members that `memberItem` reads. -/
theorem run_implItem {v w : String} (hv : IsIdentifier v) (hw : IsIdentifier w) {n : Nat}
    (hts : Decides (memberItem (Grammar.upTo (n + 1))) True ts) (hattribute : Peek.op "#" ts = false)
    (rest : List Tree) : ∃ items, run (implItem (Grammar.upTo (n + 1)))
      (.word "impl" :: .word v :: .word "for" :: .word w :: .group .brace ts :: rest) = some (items, rest) := by
  obtain ⟨first, hfirst⟩ := run_typeOf_word (g := Grammar.upTo n) hv
    (endsType_word "for" (.word w :: .group .brace ts :: rest)) true
  obtain ⟨second, hsecond⟩ := run_typeOf_word (g := Grammar.upTo n) hw (endsType_brace ts rest) true
  have hwhere := run_whereClause (g := Grammar.upTo (n + 1)) (.group .brace ts :: rest) rfl
  obtain ⟨items, hitems⟩ := (run_content (g := Grammar.upTo (n + 1)) hts (by rw [hattribute, Bool.false_and])).1 trivial
  have hbody : run (memberItems (Grammar.upTo (n + 1))) (.group .brace ts :: rest) = some (items, rest) :=
    run_group_of hitems .brace rest
  have htype : ∀ b, (Grammar.upTo (n + 1)).type b = typeOf (Grammar.upTo n) b := fun _ => rfl
  have hconst : v ≠ "const" := hv.ne _ (by decide)
  refine ⟨first ++ second ++ items, ?_⟩
  unfold implItem
  simp [parametersNext, Peek.op, Peek.operator, Peek.butNot, hconst, htype, run_bind_of hfirst, run_bind_of hsecond,
    run_bind_of hwhere, run_bind_of hbody]

/-! ## Imports -/

/-- `importWordNext` holds at a word with `RuntimePath.isPart`. -/
theorem importWordNext_of_isPart {w : String} (hw : Artifact.RuntimePath.isPart w = true) :
    importWordNext (.word w :: ts) = true := by
  rw [Artifact.RuntimePath.isPart, Bool.or_eq_true, Bool.not_eq_true'] at hw
  rcases hw with h | h
  · simp only [Artifact.RuntimePath.pathWords, List.contains_iff_mem, List.mem_cons, List.not_mem_nil, or_false] at h
    rcases h with rfl | rfl | rfl | rfl <;> simp [importWordNext, Peek.any]
  · simp [importWordNext, Peek.any, h, -List.contains_eq_mem]

/-- `importsOf` from `g.imports`, behind a word with `RuntimePath.isPart`. -/
theorem run_importsOf_path {w : String} (hw : Artifact.RuntimePath.isPart w = true) {j : Bool} {b : Bool}
    (h : run (g.imports false) ts = some (b, rest)) (root : Bool) :
    run (importsOf g root) (.word w :: .mark ':' true :: .mark ':' j :: ts) = some (b, rest) := by
  unfold importsOf
  simp [importWordNext_of_isPart hw, Peek.op, Peek.operator, h]

/-- `importsOf` reads an `IsIdentifier` where neither `::` nor `as` follows. -/
theorem run_importsOf_word {w : String} (hw : IsIdentifier w) (hcolons : Peek.op "::" rest = false)
    (has : Peek.keyword "as" rest = false) (root : Bool) :
    run (importsOf g root) (.word w :: rest) = some (false, rest) := by
  unfold importsOf
  simp [importWordNext_of_isPart (isPart_of_isIdentifier hw), hcolons, has]

/-- `importsOf` reads `*`. -/
theorem run_importsOf_star (j : Bool) (root : Bool) (rest : List Tree) :
    run (importsOf g root) (.mark '*' j :: rest) = some (false, rest) := by
  unfold importsOf
  simp [importWordNext, Peek.any, Peek.op, Peek.operator]

/-- `importsOf` reads names between commas in braces. -/
theorem run_importsOf_names {ws : List String} (hws : ∀ w ∈ ws, IsIdentifier w) (n : Nat) (rest : List Tree) :
    ∃ b, run (importsOf (Grammar.upTo (n + 1)) false) (.group .brace (commaTrees (ws.map fun w => [.word w])) :: rest) =
      some (b, rest) := by
  have himports : ∀ b, (Grammar.upTo (n + 1)).imports b = importsOf (Grammar.upTo n) b := fun _ => rfl
  have hword : ∀ w ∈ ws, ∀ rest, EndsPart rest →
      run (importsOf (Grammar.upTo n) false) (.word w :: rest) = some (false, rest) := by
    intro w hw rest hrest
    refine run_importsOf_word (hws w hw) ?_ ?_ false
    · cases hrest <;> rfl
    · cases hrest <;> rfl
  have hnames : ∀ ts ∈ ws.map fun w => [Tree.word w], ReadsPart (do
      let fromRoot ← Pure.pure false
      let inside ← (Grammar.upTo (n + 1)).imports false
      return fromRoot || inside) ts := by
    rw [List.forall_mem_map]
    intro w hw
    refine ⟨List.cons_ne_nil _ _, fun rest hrest => ⟨false, ?_⟩⟩
    have h := hword w hw rest hrest
    simp [himports, run_bind_of h]
  obtain ⟨found, hfound⟩ := run_commaSeparated_commaTrees hnames
  refine ⟨found.any id, ?_⟩
  unfold importsOf
  simp [importWordNext, Peek.any, Peek.op, run_bind_of (run_group_of hfound .brace rest)]

/-- `importsOf` reads `PathTrees` in front of what it reads. -/
theorem run_importsOf (h : Artifact.PathTrees ts) {us : List Tree} {j : Bool}
    (hend : ∀ n, ∃ b, run (importsOf (Grammar.upTo (n + 1)) false) us = some (b, rest)) (root : Bool) (n : Nat) :
    ∃ b, run (importsOf (Grammar.upTo (n + ts.length + 1)) root) (ts ++ .mark ':' true :: .mark ':' j :: us) =
      some (b, rest) := by
  induction h generalizing root n with
  | @last w hpart _ =>
    obtain ⟨b, hb⟩ := hend n
    exact ⟨b, run_importsOf_path (g := Grammar.upTo (n + 1 + 1)) hpart hb root⟩
  | @more w hpart _ ts hts ih =>
    obtain ⟨b, hb⟩ := ih false (n + 2)
    have hdepth : n + 2 + ts.length + 1 = n + (ts.length + 2) + 1 := by omega
    rw [hdepth] at hb
    exact ⟨b, run_importsOf_path (g := Grammar.upTo (n + (ts.length + 3) + 1)) hpart hb root⟩

/-- `useItem` reads `ModuleTrees` in front of what `importsOf` reads. -/
theorem run_useItem {us : List Tree} (h : Artifact.ModuleTrees ts) {i j : Bool}
    (hend : ∀ n, ∃ b, run (importsOf (Grammar.upTo (n + 1)) false) us = some (b, .mark ';' i :: rest)) (n : Nat)
    (attrs : List Item) :
    ∃ items, run (useItem (Grammar.upTo (n + ts.length + 2)) attrs)
      (.word "use" :: (ts ++ .mark ':' true :: .mark ':' j :: us)) = some (items, rest) := by
  have himports : ∀ b n, (Grammar.upTo (n + 1)).imports b = importsOf (Grammar.upTo n) b := fun _ _ => rfl
  cases h with
  | relative h =>
    obtain ⟨b, hb⟩ := run_importsOf h (j := j) hend true n
    have hcolons : Peek.op "::" (ts ++ .mark ':' true :: .mark ':' j :: us) = false := by cases h <;> rfl
    refine ⟨if b then apart attrs else [.other attrs], ?_⟩
    unfold useItem
    simp only [run_bind_keyword, if_true, run_bind_markIf, hcolons, Bool.false_eq_true, if_false, Bool.not_false,
      himports]
    simp [run_bind_of hb, Peek.op, Peek.operator]
  | @absolute ts h =>
    obtain ⟨b, hb⟩ := run_importsOf h (j := j) hend false (n + 2)
    refine ⟨if b then apart attrs else [.other attrs], ?_⟩
    have hdepth : n + (ts.length + 2) + 2 = n + 2 + ts.length + 1 + 1 := by omega
    unfold useItem
    simp [himports, run_bind_of hb, Peek.op, Peek.operator, hdepth]

/-! ## Dispatch -/

/-- `itemOf` is `itemRest` behind attributes and `pub`. -/
theorem run_itemOf_pub {bodies : List (List Tree)} (hbodies : ∀ body ∈ bodies, AttributeBody body) (k : String)
    (ts : List Tree) : ∃ attrs, run (itemOf g) ((bodies.map attributeTrees).flatten ++ .word "pub" :: .word k :: ts) =
      run (itemRest g attrs .everywhere) (.word k :: ts) := by
  obtain ⟨attrs, hattrs⟩ := run_attributes (g := g) hbodies (.word "pub" :: .word k :: ts) rfl
  refine ⟨attrs, ?_⟩
  unfold itemOf
  rw [run_bind_of hattrs, run_bind_of (run_visibility k)]

/-- `itemOf` is `itemRest` behind attributes, where no `pub` comes. -/
theorem run_itemOf_own {bodies : List (List Tree)} (hbodies : ∀ body ∈ bodies, AttributeBody body) {k : String}
    (hk : (k == "pub") = false) (ts : List Tree) :
    ∃ attrs, run (itemOf g) ((bodies.map attributeTrees).flatten ++ .word k :: ts) =
      run (itemRest g attrs .inherited) (.word k :: ts) := by
  obtain ⟨attrs, hattrs⟩ := run_attributes (g := g) hbodies (.word k :: ts) rfl
  refine ⟨attrs, ?_⟩
  unfold itemOf
  rw [run_bind_of hattrs, run_bind_of (run_visibility_nil (.word k :: ts) hk)]

theorem run_openItem {p : Parser (List Item)} {items : List Item} (h : run p ts = some (items, rest))
    (attrs : List Item) : run (openItem attrs p) ts = some ([.other (attrs ++ items)], rest) := run_bind_of h _

theorem run_closedItem {p : Parser (List Item)} {items : List Item} (h : run p ts = some (items, rest))
    (attrs : List Item) : run (closedItem attrs p) ts = some (apart (attrs ++ items), rest) := run_bind_of h _

/-- `itemRest` goes by the first word. -/
theorem run_itemRest_struct (attrs : List Item) (v : Visibility) :
    run (itemRest g attrs v) (.word "struct" :: ts) = run (openItem attrs (structItem g)) (.word "struct" :: ts) := by
  unfold itemRest
  simp [signatureNext_word (w := "struct") (by decide)]

theorem run_itemRest_impl (attrs : List Item) (v : Visibility) :
    run (itemRest g attrs v) (.word "impl" :: ts) = run (closedItem attrs (implItem g)) (.word "impl" :: ts) := by
  unfold itemRest
  simp [signatureNext_word (w := "impl") (by decide)]

theorem run_itemRest_mod (attrs : List Item) (v : Visibility) :
    run (itemRest g attrs v) (.word "mod" :: ts) = run (closedItem attrs (modItem g)) (.word "mod" :: ts) := by
  unfold itemRest
  simp [signatureNext_word (w := "mod") (by decide)]

theorem run_itemRest_use (attrs : List Item) (v : Visibility) :
    run (itemRest g attrs v) (.word "use" :: ts) = run (useItem g attrs) (.word "use" :: ts) := by
  unfold itemRest
  simp [signatureNext_word (w := "use") (by decide)]

theorem run_itemRest_const {w : String} (hw : IsIdentifier w) (attrs : List Item) (v : Visibility) :
    run (itemRest g attrs v) (.word "const" :: .word w :: ts) =
      run (constItem g attrs v) (.word "const" :: .word w :: ts) := by
  unfold itemRest
  simp [signatureNext_const hw]

/-! ## Constants, modules, files -/

/-- `constItem` reads a constant with an `IsIdentifier` for its name, from `g.type` and `g.expr`. -/
theorem run_constItem {w : String} (hw : IsIdentifier w) {us : List Tree} {i j k : Bool} {items : List Item} {e : Expr}
    (htype : run (g.type true) ts = some (items, .mark '=' j :: us))
    (hexpr : run (g.expr true) us = some (e, .mark ';' k :: rest)) (attrs : List Item) (v : Visibility) :
    ∃ items, run (constItem g attrs v) (.word "const" :: .word w :: .mark ':' i :: ts) = some (items, rest) := by
  have hreserved : Peek.reserved.contains w = false := hw
  have hwhere := run_whereClause (g := g) (.mark ';' k :: rest) rfl
  refine ⟨.value (v == .everywhere) w e :: apart (attrs ++ items), ?_⟩
  unfold constItem
  rw [run_bind_keyword, if_pos rfl, run_bind_identifierOrBlank _ hreserved, run_bind_of (run_constantFront htype)]
  simp [Peek.op, Peek.operator, run_bind_of hexpr, run_bind_of hwhere]

/-- **`modItem` reads a module exactly if `ok`** where `g.item` `Decides` so of its content. -/
theorem run_modItem {w : String} (hw : IsIdentifier w) {ok : Prop} (hts : Decides g.item ok ts)
    (hattribute : (Peek.op "#" ts && Peek.second (Peek.op "!") ts) = false) :
    (ok → ∀ rest, ∃ items, run (modItem g) (.word "mod" :: .word w :: .group .brace ts :: rest) = some (items, rest)) ∧
      (¬ok → ∀ rest, run (modItem g) (.word "mod" :: .word w :: .group .brace ts :: rest) = none) := by
  have hreserved : Peek.reserved.contains w = false := hw
  have htry : (w == "try") = false := beq_false_of_ne (hw.ne _ (by decide))
  have hmod : ∀ rest, run (modItem g) (.word "mod" :: .word w :: .group .brace ts :: rest) =
      run (group .brace (content g g.item)) (.group .brace ts :: rest) := by
    intro rest
    unfold modItem content
    simp [htry, hreserved, Peek.op, -List.contains_eq_mem]
  obtain ⟨hreads, hrefuses⟩ := run_content (g := g) hts hattribute
  constructor
  · intro hok rest
    obtain ⟨items, hitems⟩ := hreads hok
    exact ⟨items, (hmod rest).trans (run_group_of hitems .brace rest)⟩
  · intro hok rest
    rw [hmod, run_group, if_pos rfl, hrefuses hok]
    rfl

/-- **`fileItems` reads a whole file exactly if `ok`** where `itemOf` `Decides` so. -/
theorem isSome_whole_fileItems {ok : Prop} (hts : Decides (itemOf g) ok ts)
    (hattribute : (Peek.op "#" ts && Peek.second (Peek.op "!") ts) = false) :
    (whole (fileItems g) ts).isSome = true ↔ ok := by
  have hwhole : (whole (fileItems g) ts).isSome =
      ((run (fileItems g) ts).bind fun r => if r.2.isEmpty then some r.1 else none).isSome := by
    unfold whole run
    cases fileItems g ts <;> rfl
  obtain ⟨attrs, hattrs⟩ := run_innerAttributes (g := g) ts hattribute
  obtain ⟨hreads, hrefuses⟩ := hts.run_toEnd
  rw [hwhole]
  unfold fileItems
  rw [run_bind_of hattrs]
  by_cases hok : ok
  · obtain ⟨items, hitems⟩ := hreads hok
    rw [run_bind_of hitems]
    exact iff_of_true rfl hok
  · rw [run_bind_none (hrefuses hok)]
    exact iff_of_false Bool.false_ne_true hok

end Rule

end RouteContracts.Source
