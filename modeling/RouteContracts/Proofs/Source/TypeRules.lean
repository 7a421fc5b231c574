import RouteContracts.Proofs.Artifact.ModulePaths
import RouteContracts.Proofs.Source.Parsing

/-! # What the rules of types read
The paths and types that generated code is made of are read up to what `EndsType`: paths of modules, names with one
type as a parameter, references, and types in brackets and parentheses.

* `IsIdentifier`: a word that may be a name.
* `run_moreSegments`, `run_path_of_moduleTrees`: `path` reads `ModuleTrees`, by induction on `PathTrees`.
* `run_typeOf_of_moduleTrees`: **`typeOf` reads `ModuleTrees`**, and with `run_typeOf_generic`, `run_typeOf_unit`,
  `run_typeOf_static`, `run_typeOf_slice` and `run_typeOf_pair` the other types. -/

namespace RouteContracts.Source

/-! ## What comes -/

namespace Peek

variable {ts : List Tree}

@[simp] theorem keyword_word (k w : String) : keyword k (.word w :: ts) = (w == k) := rfl
@[simp] theorem keyword_mark (k : String) (c : Char) (j : Bool) : keyword k (.mark c j :: ts) = false := rfl
@[simp] theorem keyword_group (k : String) (d : Delimiter) (us : List Tree) :
    keyword k (.group d us :: ts) = false := rfl
@[simp] theorem keywords_word (ks : List String) (w : String) : keywords ks (.word w :: ts) = ks.contains w := rfl
@[simp] theorem keywords_mark (ks : List String) (c : Char) (j : Bool) : keywords ks (.mark c j :: ts) = false := rfl
@[simp] theorem keywords_group (ks : List String) (d : Delimiter) (us : List Tree) :
    keywords ks (.group d us :: ts) = false := rfl
@[simp] theorem group_word (d : Delimiter) (w : String) : group d (.word w :: ts) = false := rfl
@[simp] theorem group_mark (d : Delimiter) (c : Char) (j : Bool) : group d (.mark c j :: ts) = false := rfl
@[simp] theorem group_group (d e : Delimiter) (us : List Tree) : group d (.group e us :: ts) = (d == e) := rfl
@[simp] theorem identifier_word (w : String) : identifier (.word w :: ts) = !reserved.contains w := rfl
@[simp] theorem identifier_mark (c : Char) (j : Bool) : identifier (.mark c j :: ts) = false := rfl
@[simp] theorem identifier_group (d : Delimiter) (us : List Tree) : identifier (.group d us :: ts) = false := rfl
@[simp] theorem lifetime_word (w : String) : lifetime (.word w :: ts) = false := rfl

@[simp] theorem op_word (c : Char) (cs : List Char) (w : String) : operator (c :: cs) (.word w :: ts) = false := by
  cases cs <;> rfl

@[simp] theorem op_group (c : Char) (cs : List Char) (d : Delimiter) (us : List Tree) :
    operator (c :: cs) (.group d us :: ts) = false := by
  cases cs <;> rfl

end Peek

/-- A word that is none of `Peek.reserved`. -/
def IsIdentifier (w : String) : Prop := Peek.reserved.contains w = false

instance (w : String) : Decidable (IsIdentifier w) := inferInstanceAs (Decidable (_ = false))

theorem isIdentifier_iff {w : String} : IsIdentifier w ↔ w ∉ Peek.reserved := by
  rw [IsIdentifier, ← Bool.not_eq_true, List.contains_iff_mem]

theorem IsIdentifier.ne {w : String} (hw : IsIdentifier w) : ∀ k ∈ Peek.reserved, w ≠ k := by
  rintro k hk rfl
  exact isIdentifier_iff.mp hw hk

namespace Rule

open RouteContracts.Source.Parser

variable {g : Grammar} {ts rest : List Tree}

/-! ## Nothing to read -/

theorem run_generics (ts : List Tree) (h : Peek.op "<" ts = false) : run (generics g) ts = some ([], ts) := by
  simp [generics, h]

theorem run_whereClause (ts : List Tree) (h : Peek.keyword "where" ts = false) :
    run (whereClause g) ts = some ([], ts) := by
  simp [whereClause, h]

/-! ## Paths -/

/-- Nothing comes with which a path or a type could go on: no `<`, `::`, `!` or `+`, and no parentheses. -/
structure EndsType (ts : List Tree) : Prop where
  angle : Peek.op "<" ts = false
  colons : Peek.op "::" ts = false
  group : Peek.group .parenthesis ts = false
  bang : Peek.op "!" ts = false
  plus : Peek.op "+" ts = false

theorem endsType_nil : EndsType [] := ⟨rfl, rfl, rfl, rfl, rfl⟩

theorem endsType_word (w : String) (ts : List Tree) : EndsType (.word w :: ts) := ⟨rfl, rfl, rfl, rfl, rfl⟩

theorem endsType_brace (us ts : List Tree) : EndsType (.group .brace us :: ts) := ⟨rfl, rfl, rfl, rfl, rfl⟩

theorem endsType_mark {c : Char} (hc : c ∈ [',', ';', '>', '=']) (j : Bool) (ts : List Tree) :
    EndsType (.mark c j :: ts) := by
  simp only [List.mem_cons, List.not_mem_nil, or_false] at hc
  rcases hc with rfl | rfl | rfl | rfl <;> exact ⟨rfl, rfl, rfl, rfl, rfl⟩

theorem endsType_of_endsPart (h : EndsPart ts) : EndsType ts := by
  cases h with
  | nil => exact endsType_nil
  | comma ts => exact endsType_mark (by decide) false ts

/-- `segment` reads a word with `RuntimePath.isPart`. -/
theorem run_segment {w : String} (hw : Artifact.RuntimePath.isPart w = true) (inExpr : Bool) (fuel : Nat)
    (hangle : Peek.op "<" rest = false) (hcolons : (Peek.op "::" rest && Peek.third (Peek.op "<") rest) = false) :
    run (segment g inExpr (fuel + 1)) (.word w :: rest) = some ((w, false, []), rest) := by
  unfold segment
  rw [Artifact.RuntimePath.isPart, Bool.or_eq_true, Bool.not_eq_true'] at hw
  by_cases hword : Artifact.RuntimePath.pathWords.contains w
  · have hwords : ["super", "self", "crate", "try"].contains w = true := by
      simp only [Artifact.RuntimePath.pathWords, List.contains_iff_mem, List.mem_cons, List.not_mem_nil, or_false]
        at hword ⊢
      rcases hword with h | h | h | h <;> simp [h]
    simp [hwords, -List.contains_eq_mem]
  · have hself : w ≠ "Self" := IsIdentifier.ne (hw.resolve_left hword) _ (by decide)
    simp [hangle, hcolons, hself, hw.resolve_left hword, -List.contains_eq_mem]

/-- `moreSegments` ends where no double colon comes. -/
theorem run_moreSegments_nil (inExpr : Bool) (fuel : Nat) (h : Peek.op "::" ts = false) :
    run (moreSegments g inExpr (fuel + 1)) ts = some ([], ts) := by
  unfold moreSegments
  simp [Peek.butNot, h]

/-- `moreSegments` goes on behind a double colon. -/
theorem run_moreSegments_cons {w : String} {s : String × Bool × List Item} {ss : List (String × Bool × List Item)}
    {us : List Tree} {inExpr : Bool} {fuel : Nat}
    (hsegment : run (segment g inExpr fuel) (.word w :: ts) = some (s, us))
    (hmore : run (moreSegments g inExpr fuel) us = some (ss, rest)) (j : Bool) :
    run (moreSegments g inExpr (fuel + 1)) (.mark ':' true :: .mark ':' j :: .word w :: ts) =
      some (s :: ss, rest) := by
  unfold moreSegments
  simp [Peek.butNot, Peek.op, Peek.operator, Peek.third, Peek.skip, run_bind_of hsegment, run_bind_of hmore]

/-- `path` from `segment` and `moreSegments`. -/
theorem run_path {s : String × Bool × List Item} {ss : List (String × Bool × List Item)} {us : List Tree}
    {inExpr : Bool} (hcolons : Peek.op "::" ts = false)
    (hsegment : run (sized (segment g inExpr)) ts = some (s, us))
    (hmore : run (sized (moreSegments g inExpr)) us = some (ss, rest)) :
    run (path g inExpr) ts = some (.ofSegments false false [] (s :: ss), rest) := by
  unfold path
  simp only [run_bind_markIf, hcolons]
  rw [if_neg Bool.false_ne_true, run_bind_of hsegment, run_bind_of hmore]
  rfl

/-- `path` from `segment` and `moreSegments`, behind a double colon. -/
theorem run_path_root {s : String × Bool × List Item} {ss : List (String × Bool × List Item)} {us : List Tree}
    {inExpr : Bool} (j : Bool)
    (hsegment : run (sized (segment g inExpr)) ts = some (s, us))
    (hmore : run (sized (moreSegments g inExpr)) us = some (ss, rest)) :
    run (path g inExpr) (.mark ':' true :: .mark ':' j :: ts) = some (.ofSegments false true [] (s :: ss), rest) := by
  unfold path
  rw [run_bind_markIf, if_pos (by rfl)]
  show run (sized (segment g inExpr) >>= _) ts = _
  rw [run_bind_of hsegment, run_bind_of hmore]
  rfl

/-- `pathType` from `path`, where the path is not `qualified`. -/
theorem run_pathType {p : PathRead} (hpath : run (path g false) ts = some (p, rest)) (hp : p.qualified = false)
    (hangle : Peek.op "<" ts = false) (hrest : EndsType rest) (plus : Bool) :
    ∃ items, run (pathType g plus false) ts = some (items, rest) := by
  have hqualified : run (qualifiedPath g false) ts = some (p, rest) := by
    unfold qualifiedPath
    simp [hangle, hpath]
  have hfunction : run (functionPath g (rest.length + 1) p) rest = some (p, rest) := by
    unfold functionPath
    simp [hrest.group, hrest.colons]
  unfold pathType
  rw [run_bind_of hqualified, run_bind_ahead, run_bind_of hfunction]
  simp [hp, Peek.butNot, hrest.bang, hrest.plus]

/-- Trees with which the path of a type begins: a word with `isPart`, or a double colon. -/
inductive PathFront : List Tree → Prop where
  | word {w : String} (hpart : Artifact.RuntimePath.isPart w = true) (htry : w ≠ "try") (ts : List Tree) :
      PathFront (.word w :: ts)
  | root (j : Bool) (ts : List Tree) : PathFront (.mark ':' true :: .mark ':' j :: ts)

/-- `typeOf` from `path`, behind a `PathFront`. -/
theorem run_typeOf_path (hfront : PathFront ts) {p : PathRead} (hpath : run (path g false) ts = some (p, rest))
    (hp : p.qualified = false) (hrest : EndsType rest) (plus : Bool) :
    ∃ items, run (typeOf g plus) ts = some (items, rest) := by
  have hangle : Peek.op "<" ts = false := by cases hfront <;> rfl
  obtain ⟨items, hitems⟩ := run_pathType hpath hp hangle hrest plus
  refine ⟨items, ?_⟩
  unfold typeOf
  cases hfront with
  | root j ts =>
    simp [boundLifetimesIf, Peek.pathStart, Peek.any, Peek.op, Peek.operator, run_bind_of hitems]
  | @word w hpart htry ts =>
    rw [Artifact.RuntimePath.isPart, Bool.or_eq_true, Bool.not_eq_true'] at hpart
    by_cases hw : Peek.reserved.contains w
    · -- one of the words with which paths begin
      have hword := hpart.resolve_right (by rw [hw]; decide)
      simp only [Artifact.RuntimePath.pathWords, List.contains_iff_mem, List.mem_cons, List.not_mem_nil, or_false]
        at hword
      rcases hword with rfl | rfl | rfl | rfl
      · simp [boundLifetimesIf, Peek.pathStart, Peek.any, run_bind_of hitems]
      · simp [boundLifetimesIf, Peek.pathStart, Peek.any, run_bind_of hitems]
      · simp [boundLifetimesIf, Peek.pathStart, Peek.any, run_bind_of hitems]
      · exact absurd rfl htry
    · rw [Bool.not_eq_true] at hw
      have hne := IsIdentifier.ne hw
      have hfor : (w == "for") = false := beq_false_of_ne (hne "for" (by decide))
      have hfn := hne "fn" (by decide)
      have hsafe := hne "unsafe" (by decide)
      have hforeign := hne "extern" (by decide)
      simp [boundLifetimesIf, Peek.pathStart, Peek.any, hw, hfor, hfn, hsafe, hforeign, run_bind_of hitems,
        -List.contains_eq_mem]

/-! ## Types with a parameter -/

/-- Trees with which a type begins that can be an argument: a `PathFront`, or parentheses. -/
inductive TypeFront : List Tree → Prop where
  | path {ts : List Tree} (h : PathFront ts) : TypeFront ts
  | unit (us ts : List Tree) : TypeFront (.group .parenthesis us :: ts)

theorem TypeFront.not_angle (h : TypeFront ts) : Peek.op ">" ts = false := by
  cases h with
  | path h => cases h <;> rfl
  | unit => rfl

theorem TypeFront.not_lifetime (h : TypeFront ts) : Peek.lifetime ts = false := by
  cases h with
  | path h => cases h <;> rfl
  | unit => rfl

theorem TypeFront.not_constant (h : TypeFront ts) : constantNext ts = false := by
  cases h with
  | path h =>
    cases h with
    | root => rfl
    | @word w hpart _ ts =>
      rw [Artifact.RuntimePath.isPart, Bool.or_eq_true, Bool.not_eq_true'] at hpart
      have hne : w ≠ "true" ∧ w ≠ "false" := by
        rcases hpart with h | h
        · simp only [Artifact.RuntimePath.pathWords, List.contains_iff_mem, List.mem_cons, List.not_mem_nil, or_false]
            at h
          rcases h with rfl | rfl | rfl | rfl <;> decide
        · exact ⟨IsIdentifier.ne h _ (by decide), IsIdentifier.ne h _ (by decide)⟩
      simp [constantNext, Peek.any, Peek.literal, hne]
  | unit => rfl

/-- `pathArgument` from `g.type`, in front of `>`. -/
theorem run_pathArgument {items : List Item} {j : Bool} (hfront : TypeFront ts)
    (htype : run (g.type true) ts = some (items, .mark '>' j :: rest)) (fuel : Nat) :
    run (pathArgument g (fuel + 1)) ts = some (items, .mark '>' j :: rest) := by
  obtain ⟨read, hshown⟩ := exists_run_shown htype
  unfold pathArgument
  simp [Peek.butNot, Peek.op, Peek.operator, hfront.not_lifetime, hfront.not_constant, run_bind_of hshown]

/-- `untilAngle p` reads what `p` does once, in front of `>`. -/
theorem run_untilAngle {α : Type} {p : Parser α} {a : α} {j : Bool} (hangle : Peek.op ">" ts = false)
    (h : run p ts = some (a, .mark '>' j :: rest)) (hlength : (Tree.mark '>' j :: rest).length < ts.length) :
    ∃ as, run (untilAngle p) ts = some (as, .mark '>' j :: rest) := by
  unfold untilAngle
  refine Repeats.exists_run (.more a _ ?_ hlength (.stop ?_))
  · simp only [run_bind_looking, hangle]
    rw [if_neg Bool.false_ne_true, run_bind_of h]
    simp [Peek.op, Peek.operator]
  · simp [Peek.op, Peek.operator]

/-- `segment` reads an `IsIdentifier` with one type as its parameter. -/
theorem run_segment_generic {w : String} (hw : IsIdentifier w) {i j : Bool} {items : List Item}
    (hfront : TypeFront ts) (htype : run (g.type true) ts = some (items, .mark '>' j :: rest))
    (hlength : (Tree.mark '>' j :: rest).length < ts.length) (fuel : Nat) :
    ∃ s, run (segment g false (fuel + 3)) (.word w :: .mark '<' i :: ts) = some (s, rest) := by
  obtain ⟨found, hfound⟩ := run_untilAngle hfront.not_angle (run_pathArgument hfront htype fuel) hlength
  have hself : w ≠ "Self" := hw.ne _ (by decide)
  have hwords : w ≠ "super" ∧ w ≠ "self" ∧ w ≠ "crate" ∧ w ≠ "try" :=
    ⟨hw.ne _ (by decide), hw.ne _ (by decide), hw.ne _ (by decide), hw.ne _ (by decide)⟩
  have hequals : Peek.op "<=" (.mark '<' i :: ts) = false := by
    cases hfront with
    | path h => cases h <;> simp [Peek.op, Peek.operator]
    | unit => simp [Peek.op, Peek.operator]
  have hangle : run (angleArguments g (fuel + 2)) (.mark '<' i :: ts) = some (found.flatten, rest) := by
    unfold angleArguments
    simp [Peek.op, Peek.operator, run_bind_of hfound]
  have hreserved : Peek.reserved.contains w = false := hw
  have hopen : Peek.op "<" (.mark '<' i :: ts) = true := rfl
  refine ⟨(w, true, found.flatten), ?_⟩
  unfold segment
  simp [hself, hwords, hreserved, hopen, hequals, run_bind_of hangle, -List.contains_eq_mem]

/-! ## Paths of modules -/

/-- `moreSegments` reads `PathTrees` behind a double colon. -/
theorem run_moreSegments (h : Artifact.PathTrees ts) (hangle : Peek.op "<" rest = false)
    (hcolons : Peek.op "::" rest = false) (inExpr : Bool) {fuel : Nat} (hfuel : ts.length < fuel) (j : Bool) :
    ∃ ss, run (moreSegments g inExpr fuel) (.mark ':' true :: .mark ':' j :: (ts ++ rest)) = some (ss, rest) := by
  induction h generalizing fuel j with
  | @last w hpart _ =>
    simp only [List.length_singleton] at hfuel
    obtain ⟨fuel, rfl⟩ : ∃ n, fuel = n + 2 := ⟨fuel - 2, by omega⟩
    exact ⟨_, run_moreSegments_cons (run_segment hpart inExpr fuel hangle (by rw [hcolons, Bool.false_and]))
      (run_moreSegments_nil inExpr fuel hcolons) j⟩
  | @more w hpart _ us hus ih =>
    simp only [List.length_cons] at hfuel
    obtain ⟨fuel, rfl⟩ : ∃ n, fuel = n + 2 := ⟨fuel - 2, by omega⟩
    have hmore : us.length < fuel + 1 := by omega
    obtain ⟨ss, hss⟩ := ih hmore false
    refine ⟨_, run_moreSegments_cons (run_segment hpart inExpr fuel rfl ?_) hss j⟩
    cases hus <;> rfl

/-- `segment` and `moreSegments` read `PathTrees`. -/
theorem run_segments (h : Artifact.PathTrees ts) (hangle : Peek.op "<" rest = false)
    (hcolons : Peek.op "::" rest = false) (inExpr : Bool) :
    ∃ s ss us, run (sized (segment g inExpr)) (ts ++ rest) = some (s, us) ∧
      run (sized (moreSegments g inExpr)) us = some (ss, rest) := by
  cases h with
  | @last w hpart _ =>
    have hsegment : run (sized (segment g inExpr)) (.word w :: rest) = some ((w, false, []), rest) :=
      run_sized_of _ fun fuel => run_segment hpart inExpr (fuel + 7) hangle (by rw [hcolons, Bool.false_and])
    exact ⟨_, _, _, hsegment, run_sized_of _ fun fuel => run_moreSegments_nil inExpr (fuel + 7) hcolons⟩
  | @more w hpart _ us hus =>
    have hsegment : run (sized (segment g inExpr)) (.word w :: .mark ':' true :: .mark ':' false :: (us ++ rest)) =
        some ((w, false, []), .mark ':' true :: .mark ':' false :: (us ++ rest)) :=
      run_sized_of _ fun fuel => run_segment hpart inExpr (fuel + 7) rfl (by cases hus <;> rfl)
    have hfuel : us.length < 2 * Tree.sizes (.mark ':' true :: .mark ':' false :: (us ++ rest)) + 8 := by
      have hlength := Tree.length_le_sizes us
      rw [Tree.sizes, Tree.sizes, Tree.sizes_append]
      omega
    obtain ⟨ss, hmore⟩ := run_moreSegments (g := g) hus hangle hcolons inExpr hfuel false
    rw [← run_sized] at hmore
    exact ⟨_, ss, _, hsegment, hmore⟩

/-- `path` reads `ModuleTrees`. -/
theorem run_path_of_moduleTrees (h : Artifact.ModuleTrees ts) (hangle : Peek.op "<" rest = false)
    (hcolons : Peek.op "::" rest = false) (inExpr : Bool) :
    ∃ p, run (path g inExpr) (ts ++ rest) = some (p, rest) ∧ p.qualified = false := by
  cases h with
  | relative h =>
    obtain ⟨s, ss, us, hsegment, hmore⟩ := run_segments (g := g) h hangle hcolons inExpr
    exact ⟨_, run_path (by cases h <;> rfl) hsegment hmore, rfl⟩
  | absolute h =>
    obtain ⟨s, ss, us, hsegment, hmore⟩ := run_segments (g := g) h hangle hcolons inExpr
    exact ⟨_, run_path_root false hsegment hmore, rfl⟩

theorem PathFront.of_moduleTrees (h : Artifact.ModuleTrees ts) (us : List Tree) : PathFront (ts ++ us) := by
  cases h with
  | relative h =>
    cases h with
    | last hpart htry | more hpart htry _ => exact .word hpart htry _
  | absolute h => exact .root false _

/-- **`typeOf` reads `ModuleTrees`.** -/
theorem run_typeOf_of_moduleTrees (h : Artifact.ModuleTrees ts) (hrest : EndsType rest) (plus : Bool) :
    ∃ items, run (typeOf g plus) (ts ++ rest) = some (items, rest) := by
  obtain ⟨p, hpath, hp⟩ := run_path_of_moduleTrees (g := g) h hrest.angle hrest.colons false
  exact run_typeOf_path (.of_moduleTrees h rest) hpath hp hrest plus

theorem isPart_of_isIdentifier {w : String} (hw : IsIdentifier w) : Artifact.RuntimePath.isPart w = true := by
  rw [Artifact.RuntimePath.isPart, Bool.or_eq_true, Bool.not_eq_true']
  exact .inr hw

/-- `typeOf` reads an `IsIdentifier`. -/
theorem run_typeOf_word {w : String} (hw : IsIdentifier w) (hrest : EndsType rest) (plus : Bool) :
    ∃ items, run (typeOf g plus) (.word w :: rest) = some (items, rest) :=
  run_typeOf_of_moduleTrees (.relative (.last (isPart_of_isIdentifier hw) (hw.ne _ (by decide)))) hrest plus

/-- `typeOf` reads an `IsIdentifier` with one type as its parameter. -/
theorem run_typeOf_generic {w : String} (hw : IsIdentifier w) {i j : Bool} {items : List Item}
    (hfront : TypeFront ts) (htype : run (g.type true) ts = some (items, .mark '>' j :: rest))
    (hlength : (Tree.mark '>' j :: rest).length < ts.length) (hrest : EndsType rest) (plus : Bool) :
    ∃ items, run (typeOf g plus) (.word w :: .mark '<' i :: ts) = some (items, rest) := by
  have hsegment : ∃ s, run (sized (segment g false)) (.word w :: .mark '<' i :: ts) = some (s, rest) :=
    exists_run_sized _ fun fuel => run_segment_generic hw hfront htype hlength (fuel + 5)
  obtain ⟨s, hsegment⟩ := hsegment
  have hmore : run (sized (moreSegments g false)) rest = some ([], rest) :=
    run_sized_of _ fun fuel => run_moreSegments_nil false (fuel + 7) hrest.colons
  exact run_typeOf_path (.word (isPart_of_isIdentifier hw) (hw.ne _ (by decide)) _) (run_path rfl hsegment hmore) rfl
    hrest plus

/-- `typeOf` reads `()`. -/
theorem run_typeOf_unit (hrest : EndsType rest) (plus : Bool) :
    ∃ items, run (typeOf g plus) (.group .parenthesis [] :: rest) = some (items, rest) := by
  have hinside : run (group .parenthesis (parenthesizedTypes g)) (.group .parenthesis [] :: rest) =
      some ([], rest) := by
    rw [run_group, if_pos rfl]
    rfl
  obtain ⟨read, hshown⟩ := exists_run_shown hinside
  refine ⟨[], ?_⟩
  unfold typeOf
  simp [boundLifetimesIf, run_bind_of hshown, hrest.plus]

/-! ## References, brackets, pairs -/

/-- `typeOf` reads `&` and what `g.type false` reads. -/
theorem run_typeOf_reference {items : List Item} {j plus : Bool} (h : run (g.type false) ts = some (items, rest))
    (hlifetime : Peek.lifetime ts = false) (hmut : Peek.keyword "mut" ts = false) :
    run (typeOf g plus) (.mark '&' j :: ts) = some (items, rest) := by
  unfold typeOf boundLifetimesIf lifetimeIf
  simp [Peek.pathStart, Peek.any, Peek.op, Peek.operator, hlifetime, hmut, h]

/-- `typeOf` reads `&'static` and what `g.type false` reads. -/
theorem run_typeOf_static {items : List Item} (i plus : Bool) (h : run (g.type false) ts = some (items, rest))
    (hmut : Peek.keyword "mut" ts = false) :
    run (typeOf g plus) (.mark '&' i :: .mark '\'' true :: .word "static" :: ts) = some (items, rest) := by
  have hlifetime : run lifetime (.mark '\'' true :: .word "static" :: ts) = some ((), ts) := rfl
  unfold typeOf boundLifetimesIf lifetimeIf
  simp [Peek.pathStart, Peek.any, Peek.op, Peek.operator, Peek.lifetime, hmut, h, run_bind_of hlifetime]

/-- `typeOf` reads what `g.type true` reads to the end, in brackets. -/
theorem run_typeOf_slice {items : List Item} {plus : Bool} (h : run (g.type true) ts = some (items, []))
    (rest : List Tree) : run (typeOf g plus) (.group .bracket ts :: rest) = some (items, rest) := by
  have hinside : run (do
      let element ← g.type true
      if ← markIf ";" then
        let e ← g.expr true
        return element ++ e.items
      return element) ts = some (items, []) := by
    simp [run_bind_of h, Peek.op, Peek.operator]
  unfold typeOf boundLifetimesIf
  simp [Peek.pathStart, Peek.any, Peek.op, run_group_of hinside .bracket rest]

/-- `typeOf` reads a pair of a word and another `ReadsPart` of `g.type true`. -/
theorem run_typeOf_pair {w : String} {us : List Tree} (hw : ReadsPart (g.type true) [.word w])
    (hus : ReadsPart (g.type true) us) (plus : Bool) (rest : List Tree) (hplus : Peek.op "+" rest = false) :
    ∃ items, run (typeOf g plus) (.group .parenthesis (.word w :: .mark ',' false :: us) :: rest) =
      some (items, rest) := by
  have hboth : ∀ ts ∈ [[.word w], us], ReadsPart (g.type true) ts := by simp [hw, hus]
  obtain ⟨found, hfound⟩ := run_commaSeparated_commaTrees hboth
  rw [commaTrees_pair, List.singleton_append] at hfound
  have hinside : run (parenthesizedTypes g) (.word w :: .mark ',' false :: us) = some (found.flatten, []) := by
    unfold parenthesizedTypes
    simp [Peek.op, run_bind_of hfound]
  obtain ⟨read, hread⟩ := exists_run_shown (run_group_of hinside .parenthesis rest)
  refine ⟨found.flatten, ?_⟩
  unfold typeOf boundLifetimesIf
  simp [run_bind_of hread, hplus]

end Rule

end RouteContracts.Source
