import RouteContracts.Proofs.Source.TypeRules

/-! # What the rules of expressions read
Attributes are read whatever stands in their parentheses or behind their signs. The expressions of generated code are
read up to what `EndsExpr`: literals, paths of two names, pairs, lists, and references to lists.

* `run_attributes`: **`attributes` reads attributes** up to something that is none.
* `run_trailers`, `run_climb`: nothing goes on behind an operand where `EndsExpr` holds.
* `run_expression_literal`, `run_expression_path`, `run_expression_pair`, `run_unary_list`: **`expression` and
  `unary` by the shape of what they read.** -/

namespace RouteContracts.Source

namespace Rule

open RouteContracts.Source.Parser

variable {g : Grammar} {ts rest : List Tree}

/-! ## Attributes -/

/-- The content of the brackets of an attribute: an `IsIdentifier` with any parentheses behind it, or with `=` and a
literal. -/
inductive AttributeBody : List Tree → Prop where
  | arguments {w : String} (hw : IsIdentifier w) (us : List Tree) : AttributeBody [.word w, .group .parenthesis us]
  | assigned {w : String} (hw : IsIdentifier w) (j : Bool) (l : String) :
      AttributeBody [.word w, .mark '=' j, .literal l]

/-- `modulePath` reads an `IsIdentifier`. -/
theorem run_modulePath {w : String} (hw : IsIdentifier w) (rest : List Tree) (h : Peek.op "::" rest = false) :
    run modulePath (.word w :: rest) = some ([w], rest) := by
  have hreserved : Peek.reserved.contains w = false := hw
  have hword : Peek.op "::" (.word w :: rest) = false := rfl
  unfold modulePath
  simp only [run_bind_markIf, hword, run_bind_ahead]
  rw [if_neg Bool.false_ne_true]
  unfold moduleWordList
  simp [moduleWordNext, Peek.any, hreserved, h, -List.contains_eq_mem]

theorem AttributeBody.run {body : List Tree} (h : AttributeBody body) :
    run (attributeBody g) body = some ([], []) := by
  unfold attributeBody
  cases h with
  | @arguments w hw us =>
    have hsafe : (w == "unsafe") = false := beq_false_of_ne (hw.ne _ (by decide))
    have hpath := run_modulePath hw [.group .parenthesis us] rfl
    simp [hsafe, run_bind_of hpath, Peek.anyGroup]
  | @assigned w hw j l =>
    have hsafe : (w == "unsafe") = false := beq_false_of_ne (hw.ne _ (by decide))
    have hpath := run_modulePath hw [.mark '=' j, .literal l] rfl
    have hlonely : lonelyLiteral [.literal l] = true := rfl
    have hliteral : Parser.run literal [.literal l] = some ((), []) := rfl
    simp [hsafe, run_bind_of hpath, hlonely, run_bind_of hliteral, Peek.anyGroup, Peek.butNot, Peek.any, Peek.op,
      Peek.operator]

/-- **`attributes` reads `attributeTrees`** up to something that is no attribute. -/
theorem run_attributes {bodies : List (List Tree)} (hbodies : ∀ body ∈ bodies, AttributeBody body)
    (rest : List Tree) (hrest : Peek.op "#" rest = false) :
    ∃ items, run (attributes g) ((bodies.map attributeTrees).flatten ++ rest) = some (items, rest) := by
  have hfound : ∃ found, run (many do
      if ← looking (Peek.op "#") then
        mark "#"
        let items ← group .bracket (attributeBody g)
        return some items
      return none) ((bodies.map attributeTrees).flatten ++ rest) = some (found, rest) := by
    refine Repeats.exists_run (.flatten ?_ ?_ _ (.stop (by simp [hrest])))
    · rw [List.forall_mem_map]
      exact fun body _ => List.cons_ne_nil _ _
    · rw [List.forall_mem_map]
      intro body hbody rest
      have hgroup : run (group .bracket (attributeBody g)) (.group .bracket body :: rest) = some ([], rest) := by
        rw [run_group, if_pos rfl, (hbodies body hbody).run]
        rfl
      exact ⟨[], by simp [attributeTrees, Peek.op, Peek.operator, run_bind_of hgroup]⟩
  obtain ⟨found, hfound⟩ := hfound
  refine ⟨found.flatten, ?_⟩
  unfold attributes
  rw [run_bind_of hfound]
  rfl

theorem forall_attributeBody_nil : ∀ body ∈ ([] : List (List Tree)), AttributeBody body :=
  fun _ hbody => absurd hbody List.not_mem_nil

theorem run_attributes_nil (ts : List Tree) (h : Peek.op "#" ts = false) :
    ∃ items, run (attributes g) ts = some (items, ts) := run_attributes forall_attributeBody_nil ts h

theorem run_innerAttributes (ts : List Tree) (h : (Peek.op "#" ts && Peek.second (Peek.op "!") ts) = false) :
    ∃ items, run (innerAttributes g) ts = some (items, ts) := by
  obtain ⟨found, hfound⟩ : ∃ found, run (many do
      if ← looking (fun ts => Peek.op "#" ts && Peek.second (Peek.op "!") ts) then
        mark "#"
        mark "!"
        let items ← group .bracket (attributeBody g)
        return some items
      return none) ts = some (found, ts) := Repeats.exists_run (.stop (by simp [h]))
  refine ⟨found.flatten, ?_⟩
  unfold innerAttributes
  rw [run_bind_of hfound]
  rfl

/-! ## Operands -/

/-- Nothing comes with which an expression could go on: the end, a comma or a semicolon. -/
inductive EndsExpr : List Tree → Prop where
  | nil : EndsExpr []
  | mark {c : Char} (hc : c = ',' ∨ c = ';') (j : Bool) (ts : List Tree) : EndsExpr (.mark c j :: ts)

/-- No operator comes where a mark does that is not its first character. -/
theorem op_eq_false_of_ne {c : Char} {op : String} (hop : op.toList.head? ≠ some c) (hne : op.toList ≠ []) (j : Bool) :
    Peek.op op (.mark c j :: ts) = false := by
  unfold Peek.op
  generalize op.toList = cs at hop hne
  match cs with
  | [] => exact absurd rfl hne
  | [d] => simpa [Peek.operator] using hop
  | d :: e :: cs =>
    have hd : (d == c) = false := by simpa using hop
    simp [Peek.operator, hd]

theorem EndsExpr.op (h : EndsExpr ts) {s : String} (hne : s.toList ≠ []) (hcomma : s.toList.head? ≠ some ',')
    (hsemicolon : s.toList.head? ≠ some ';') : Peek.op s ts = false := by
  cases h with
  | nil =>
    unfold Peek.op
    generalize s.toList = cs at hne
    match cs with
    | [] => exact absurd rfl hne
    | [_] | _ :: _ :: _ => rfl
  | mark hc j ts =>
    rcases hc with rfl | rfl
    · exact op_eq_false_of_ne hcomma hne j
    · exact op_eq_false_of_ne hsemicolon hne j

theorem EndsExpr.group (h : EndsExpr ts) (d : Delimiter) : Peek.group d ts = false := by
  cases h <;> rfl

theorem EndsExpr.keyword (h : EndsExpr ts) (k : String) : Peek.keyword k ts = false := by
  cases h <;> rfl

theorem EndsExpr.operatorNext (h : EndsExpr ts) : operatorNext ts = none := by
  rw [Rule.operatorNext, List.find?_eq_none]
  have hall : ∀ o ∈ operators, o.1.toList ≠ [] ∧ o.1.toList.head? ≠ some ',' ∧ o.1.toList.head? ≠ some ';' := by
    decide
  intro o ho
  obtain ⟨hne, hcomma, hsemicolon⟩ := hall o ho
  rw [h.op hne hcomma hsemicolon]
  exact Bool.false_ne_true

/-- `trailers` reads nothing where `EndsExpr` holds. -/
theorem run_trailers (h : EndsExpr ts) (e : Operand) : run (trailers g e) ts = some (e, ts) := by
  refine run_fold_of ?_
  have hpoint := h.op (s := ".") (by decide) (by decide) (by decide)
  have hquestion := h.op (s := "?") (by decide) (by decide) (by decide)
  unfold trailer
  simp [h.group, Peek.butNot, hpoint, hquestion]

/-- `climb` reads nothing where `EndsExpr` holds. -/
theorem run_climb (h : EndsExpr ts) (strength : Nat) (braces : Bool) (e : Operand) :
    run (climb g strength braces e) ts = some (e, ts) := by
  refine run_fold_of ?_
  have hequals := h.op (s := "=") (by decide) (by decide) (by decide)
  have hrange := h.op (s := "..") (by decide) (by decide) (by decide)
  unfold climbStep
  simp [h.operatorNext, hequals, hrange, h.keyword]

/-- `atom` reads a literal. -/
theorem run_atom_literal (l : String) (braces : Bool) :
    run (atom g braces) (.literal l :: rest) = some (⟨.literal [.literal l] l, .plain⟩, rest) := by
  have htree : run (tree fun _ => true) (.literal l :: rest) = some (.literal l, rest) := rfl
  unfold atom
  simp [run_bind_of htree]

/-- `atom` from `path`, at an `IsIdentifier`. -/
theorem run_atom_path {w : String} (hw : IsIdentifier w) {p : PathRead} (hrest : EndsExpr rest) (braces : Bool)
    (hpath : run (path g true) (.word w :: ts) = some (p, rest)) :
    ∃ a, run (atom g braces) (.word w :: ts) = some (a, rest) ∧ a.shape = .plain := by
  have hne := IsIdentifier.ne hw
  have hangle : Peek.op "<" (.word w :: ts) = false := rfl
  have hqualified : run (qualifiedPath g true) (.word w :: ts) = some (p, rest) := by
    unfold qualifiedPath
    simp [hpath, hangle]
  obtain ⟨read, hshown⟩ := exists_run_shown hqualified
  have hbang := hrest.op (s := "!") (by decide) (by decide) (by decide)
  have hoperand : run (pathOperand g braces) (.word w :: ts) = some (⟨.path read p.last p.items, .plain⟩, rest) := by
    unfold pathOperand
    simp [run_bind_of hshown, hbang, Peek.butNot, hrest.group]
  have hreserved : Peek.reserved.contains w = false := hw
  have htruth : ["true", "false"].contains w = false := by
    simp [hne "true" (by decide), hne "false" (by decide)]
  have hasync := hne "async" (by decide)
  have htry := hne "try" (by decide)
  have hclosure : closureNext (.word w :: ts) = false := by
    simp [closureNext, Peek.any, Peek.op, hne "move" (by decide), hne "for" (by decide), hne "const" (by decide),
      hne "static" (by decide), hasync]
  have hnext : operandPathNext (.word w :: ts) = true := by
    simp [operandPathNext, Peek.any, Peek.pathStart, hreserved, -List.contains_eq_mem]
  refine ⟨⟨.path read p.last p.items, .plain⟩, ?_, rfl⟩
  unfold atom
  simp [htruth, asyncNext, hasync, htry, hclosure, hnext, hoperand, -List.contains_eq_mem]

/-- `unary` from `atom`, with nothing in front of the operand. -/
theorem run_unary_atom {e : Operand} (ts : List Tree) (hattribute : Peek.op "#" ts = false)
    (hreference : Peek.op "&" ts = false) (hother : Peek.any [Peek.op "*", Peek.op "!", Peek.op "-"] ts = false)
    {braces : Bool} (hatom : run (atom g braces) ts = some (e, rest)) (he : e.shape = .plain) (hrest : EndsExpr rest) :
    ∃ e, run (unary g braces) ts = some (e, rest) := by
  obtain ⟨attrs, hattrs⟩ := run_attributes_nil (g := g) ts hattribute
  obtain ⟨front, hshown⟩ := exists_run_shown hattrs
  unfold unary
  rw [run_bind_of hshown]
  simp only [run_bind_looking, hreference, hother, Bool.false_eq_true, if_false]
  rw [run_bind_of hatom, run_bind_of (run_trailers hrest e)]
  by_cases hfront : front.isEmpty
  · exact ⟨e, by simp [hfront]⟩
  · cases e.expr <;> simp [hfront, he]

/-- `unary` reads `&` and what `g.unary` reads. -/
theorem run_unary_reference {e : Operand} {j : Bool} {braces : Bool}
    (h : run (g.unary braces) ts = some (e, rest)) (hmut : Peek.keyword "mut" ts = false)
    (hraw : Peek.keyword "raw" ts = false) :
    ∃ e, run (unary g braces) (.mark '&' j :: ts) = some (e, rest) := by
  obtain ⟨attrs, hattrs⟩ := run_attributes_nil (g := g) (.mark '&' j :: ts) rfl
  obtain ⟨front, hshown⟩ := exists_run_shown hattrs
  have hreference : ∃ e, run (referenceOperand g braces) (.mark '&' j :: ts) = some (e, rest) ∧ e.shape = .plain := by
    have hinner : run (do
        mark "&"
        let isRaw ← looking fun ts => Peek.keyword "raw" ts && Peek.second (Peek.keywords ["mut", "const"]) ts
        if isRaw then
          keyword "raw"
          let _ ← anyWord
        else
          let _ ← keywordIf "mut"
        let inner ← g.unary braces
        return (isRaw, inner.expr)) (.mark '&' j :: ts) = some ((false, e.expr), rest) := by
      simp [Peek.op, Peek.operator, hraw, hmut, run_bind_of h]
    obtain ⟨read, hread⟩ := exists_run_shown hinner
    exact ⟨_, run_bind_of hread _, rfl⟩
  obtain ⟨e, hreference, he⟩ := hreference
  unfold unary
  rw [run_bind_of hshown]
  have hop : Peek.op "&" (.mark '&' j :: ts) = true := rfl
  simp only [run_bind_looking, hop, if_true]
  rw [run_bind_of hreference]
  by_cases hfront : front.isEmpty
  · exact ⟨e, by simp [hfront]⟩
  · cases e.expr <;> simp [hfront, he]

/-- `expression` from `unary`, where `EndsExpr` holds behind it. -/
theorem run_expression {braces : Bool} {e : Operand} (h : run (unary g braces) ts = some (e, rest))
    (hrest : EndsExpr rest) : ∃ e, run (expression g braces) ts = some (e, rest) := by
  refine ⟨e.expr, ?_⟩
  unfold expression
  rw [run_bind_of h, run_bind_of (run_climb hrest 0 braces e)]
  rfl

/-! ## Texts, paths, lists -/

theorem endsExpr_of_endsPart (h : EndsPart ts) : EndsExpr ts := by
  cases h with
  | nil => exact .nil
  | comma ts => exact .mark (.inl rfl) false ts

/-- `expression` reads a literal. -/
theorem run_expression_literal (l : String) (braces : Bool) (hrest : EndsExpr rest) :
    ∃ e, run (expression g braces) (.literal l :: rest) = some (e, rest) := by
  obtain ⟨e, he⟩ := run_unary_atom (.literal l :: rest) rfl rfl rfl (run_atom_literal l braces) rfl hrest
  exact run_expression he hrest

/-- `expression` reads `w::v`. -/
theorem run_expression_path {w v : String} (hw : IsIdentifier w) (hv : IsIdentifier v) (braces : Bool)
    (hrest : EndsExpr rest) :
    ∃ e, run (expression g braces) (.word w :: .mark ':' true :: .mark ':' false :: .word v :: rest) =
      some (e, rest) := by
  have hmodule : Artifact.ModuleTrees [.word w, .mark ':' true, .mark ':' false, .word v] :=
    .relative (.more (isPart_of_isIdentifier hw) (hw.ne _ (by decide))
      (.last (isPart_of_isIdentifier hv) (hv.ne _ (by decide))))
  obtain ⟨p, hpath, -⟩ := run_path_of_moduleTrees (g := g) hmodule
    (hrest.op (s := "<") (by decide) (by decide) (by decide))
    (hrest.op (s := "::") (by decide) (by decide) (by decide)) true
  obtain ⟨a, hatom, ha⟩ := run_atom_path hw hrest braces hpath
  obtain ⟨e, he⟩ := run_unary_atom _ rfl rfl rfl hatom ha hrest
  exact run_expression he hrest

/-- `expression` reads a pair of `ReadsPart`s of `g.expr true`. -/
theorem run_expression_pair {us vs : List Tree} (hus : ReadsPart (g.expr true) us) (hvs : ReadsPart (g.expr true) vs)
    (braces : Bool) (hrest : EndsExpr rest) :
    ∃ e, run (expression g braces) (.group .parenthesis (us ++ .mark ',' false :: vs) :: rest) = some (e, rest) := by
  have hboth : ∀ ts ∈ [us, vs], ReadsPart (g.expr true) ts := by simp [hus, hvs]
  obtain ⟨elements, helements⟩ := run_commaSeparated_commaTrees hboth
  rw [commaTrees_pair] at helements
  obtain ⟨read, hread⟩ := exists_run_shown (run_group_of helements .parenthesis rest)
  have hoperand : ∃ a, run (parenOperand g) (.group .parenthesis (us ++ .mark ',' false :: vs) :: rest) =
      some (a, rest) ∧ a.shape = .plain := by
    unfold parenOperand
    rw [run_bind_of hread]
    dsimp only
    split <;> exact ⟨_, run_pure _ _, rfl⟩
  obtain ⟨a, hoperand, ha⟩ := hoperand
  have hatom : run (atom g braces) (.group .parenthesis (us ++ .mark ',' false :: vs) :: rest) = some (a, rest) := by
    unfold atom
    simp [asyncNext, closureNext, operandPathNext, Peek.any, Peek.pathStart, Peek.op, hoperand]
  obtain ⟨e, he⟩ := run_unary_atom _ rfl rfl rfl hatom ha hrest
  exact run_expression he hrest

/-- `bracketed` reads `commaTrees` of `ReadsPart`s of `g.expr true`. -/
theorem run_bracketed {tss : List (List Tree)} (htss : ∀ ts ∈ tss, ReadsPart (g.expr true) ts) :
    ∃ es, run (bracketed g) (commaTrees tss) = some ((es, none), []) := by
  cases tss with
  | nil => exact ⟨[], by unfold bracketed; simp [commaTrees, Peek.nothing]⟩
  | cons ts tss =>
    rw [List.forall_mem_cons] at htss
    obtain ⟨⟨hne, hts⟩, htss⟩ := htss
    have hnothing : ∀ rest, Peek.nothing (ts ++ rest) = false := Peek.nothing_append hne
    unfold bracketed
    cases tss with
    | nil =>
      obtain ⟨e, he⟩ := hts [] .nil
      refine ⟨[e], ?_⟩
      rw [commaTrees_singleton, ← List.append_nil ts]
      simp only [run_bind_looking, hnothing]
      rw [if_neg Bool.false_ne_true, run_bind_of he]
      simp [Peek.nothing, Peek.op, Peek.operator]
    | cons us uss =>
      obtain ⟨e, he⟩ := hts _ (.comma (commaTrees (us :: uss)))
      obtain ⟨es, hes⟩ := run_commaSeparated_commaTrees htss
      refine ⟨e :: es, ?_⟩
      rw [commaTrees_cons_cons]
      simp only [run_bind_looking, hnothing]
      rw [if_neg Bool.false_ne_true, run_bind_of he]
      simp [Peek.nothing, Peek.op, Peek.operator, run_bind_of hes]

/-- `unary` reads a list of `ReadsPart`s of `g.expr true`. -/
theorem run_unary_list {tss : List (List Tree)} (htss : ∀ ts ∈ tss, ReadsPart (g.expr true) ts)
    (braces : Bool) (hrest : EndsExpr rest) :
    ∃ e, run (unary g braces) (.group .bracket (commaTrees tss) :: rest) = some (e, rest) := by
  obtain ⟨es, hes⟩ := run_bracketed htss
  obtain ⟨read, hread⟩ := exists_run_shown (run_group_of hes .bracket rest)
  have hoperand : run (arrayOperand g) (.group .bracket (commaTrees tss) :: rest) =
      some (⟨.array read es, .plain⟩, rest) := by
    unfold arrayOperand
    rw [run_bind_of hread]
    rfl
  have hatom : run (atom g braces) (.group .bracket (commaTrees tss) :: rest) =
      some (⟨.array read es, .plain⟩, rest) := by
    unfold atom
    simp [asyncNext, closureNext, operandPathNext, Peek.any, Peek.pathStart, Peek.op, hoperand]
  exact run_unary_atom _ rfl rfl rfl hatom rfl hrest

end Rule

end RouteContracts.Source
