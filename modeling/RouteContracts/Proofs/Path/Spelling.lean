import Mathlib.Data.List.TakeWhile
import RouteContracts.Proofs.Path.Steps

/-! # Ways to write a path
Without its dots a path is its root, if it has one, and then what its pieces say. What is written below a path goes on
where it ends, and what is above a file is all but its name.

* `Path.components_withoutDots_eq`: a path without its dots, piece by piece.
* `Path.components_withoutDots_join`: **a relative path goes on where the other one ends.**
* `Path.exists_parent?`: **a path that ends in a name is that name below the path above it.**
* `Path.components_of_within?`: what is found within a directory has the directory at its front. -/

namespace RouteContracts

namespace Path

variable {p q : Path} {name : String}

instance (name : String) : Decidable (IsName name) :=
  decidable_of_iff
    (name.toList ≠ [] ∧ name.toList ≠ ['.'] ∧ name.toList ≠ ['.', '.'] ∧ '/' ∉ name.toList)
    ⟨fun h => ⟨h.1, h.2.1, h.2.2.1, h.2.2.2⟩, fun h => ⟨h.ne_empty, h.ne_dot, h.ne_dots, h.no_slash⟩⟩

/-! ## Without dots -/

/-- What stands at the front of an absolute path, or of a relative one. -/
def front (absolute : Bool) : List Component := if absolute then [.root] else []

/-- `componentOf?` of a piece is neither `.root` nor `.current`. -/
theorem ne_of_componentOf? {piece : List Char} {c : Component} (h : componentOf? piece = some c) :
    c ≠ .root ∧ c ≠ .current := by
  unfold componentOf? at h
  split at h
  · cases h
  · split at h <;> cases h <;> exact ⟨nofun, nofun⟩

theorem filter_componentOf? (ps : List (List Char)) :
    (ps.filterMap componentOf?).filter (· ≠ .current) = ps.filterMap componentOf? := by
  refine List.filter_eq_self.mpr fun c hc => ?_
  obtain ⟨piece, -, hpiece⟩ := List.mem_filterMap.mp hc
  exact decide_eq_true (ne_of_componentOf? hpiece).2

/-- **The components of `p.withoutDots`**: its `front` and those of its pieces. -/
theorem components_withoutDots_eq (p : Path) :
    p.withoutDots.components = front p.isAbsolute ++ (pieces p.text.toList).filterMap componentOf? := by
  rw [components_withoutDots, components_eq]
  cases p.isAbsolute with
  | true =>
    rw [componentsOf_absolute, List.filter_cons_of_pos (by decide), filter_componentOf?]
    rfl
  | false =>
    by_cases hhead : (pieces p.text.toList).head? = some ['.']
    · -- the leading dot is the one that is left out
      obtain ⟨rest, hps⟩ := List.head?_eq_some_iff.mp hhead
      rw [hps]
      show (Component.current :: rest.filterMap componentOf?).filter _ = _
      rw [List.filter_cons_of_neg (by decide), filter_componentOf?]
      rfl
    · rw [componentsOf_relative hhead, filter_componentOf?]
      rfl

theorem mem_withoutDots {c : Component} : c ∈ p.withoutDots.components ↔ c ∈ p.components ∧ c ≠ .current := by
  rw [components_withoutDots, List.mem_filter, decide_eq_true_iff]

/-- `filterMap f` is the same with and without dots, where `f .current = none`. -/
theorem filterMap_withoutDots {α : Type} {f : Component → Option α} (hf : f .current = none) (p : Path) :
    p.withoutDots.components.filterMap f = p.components.filterMap f := by
  rw [components_withoutDots, List.filterMap_filter]
  refine List.filterMap_congr fun c _ => ?_
  by_cases hc : c = .current
  · rw [hc, hf]
    rfl
  · exact if_pos (decide_eq_true hc)

/-- **`p.isAbsolute` holds exactly if `.root ∈ p.components`.** -/
theorem isAbsolute_iff : p.isAbsolute = true ↔ .root ∈ p.components := by
  have hroot : .root ∈ p.components ↔ .root ∈ p.withoutDots.components := by simp [mem_withoutDots]
  rw [hroot, components_withoutDots_eq, List.mem_append]
  cases p.isAbsolute with
  | true => exact iff_of_true rfl (.inl (List.mem_singleton.mpr rfl))
  | false =>
    refine iff_of_false Bool.false_ne_true ?_
    rintro (h | h)
    · cases h
    · obtain ⟨piece, -, hpiece⟩ := List.mem_filterMap.mp h
      exact (ne_of_componentOf? hpiece).1 rfl

theorem isPlain_of_mem_pieces {s : List Char} {c : Component} (hc : c ∈ (pieces s).filterMap componentOf?) :
    IsPlain c := by
  obtain ⟨piece, hpiece, h⟩ := List.mem_filterMap.mp hc
  exact isPlain_of_componentOf? (not_mem_of_mem_pieces hpiece) h

/-- The components of `p.withoutDots` are `IsPlain`, but for `.root`. -/
theorem isPlain_of_mem_withoutDots {c : Component} (hc : c ∈ p.withoutDots.components) (hroot : c ≠ .root) :
    IsPlain c := by
  rw [components_withoutDots_eq, List.mem_append] at hc
  rcases hc with hc | hc
  · cases habsolute : p.isAbsolute <;> rw [habsolute] at hc
    · cases hc
    · exact absurd (List.mem_singleton.mp hc) hroot
  · exact isPlain_of_mem_pieces hc

/-- **`p.fileName? = some name`** exactly if `.normal name` is the last component of `p.withoutDots`. -/
theorem fileName?_eq_some_iff : p.fileName? = some name ↔ ∃ cs, p.withoutDots.components = cs ++ [.normal name] := by
  rw [components_withoutDots_eq]
  constructor
  · intro h
    obtain ⟨cs, hcs⟩ := List.getLast?_eq_some_iff.mp (getLast?_pieces h)
    exact ⟨front p.isAbsolute ++ cs, by rw [hcs, List.append_assoc]⟩
  · rintro ⟨cs, hcs⟩
    rcases ((pieces p.text.toList).filterMap componentOf?).eq_nil_or_concat with hnil | ⟨cs', c, hpieces⟩
    · -- a root is no name
      rw [hnil, List.append_nil] at hcs
      cases habsolute : p.isAbsolute <;> rw [habsolute] at hcs
      · cases cs <;> cases hcs
      · have hroot : [] ++ [Component.root] = cs ++ [.normal name] := hcs
        cases (List.append_inj' hroot rfl).2
    · rw [hpieces, List.concat_eq_append, ← List.append_assoc] at hcs
      obtain ⟨-, hlast⟩ := List.append_inj' hcs rfl
      obtain rfl := List.singleton_inj.mp hlast
      rw [fileName?, components_eq]
      rcases componentsOf_eq p.isAbsolute (pieces p.text.toList) with h | ⟨c, -, h⟩
      · rw [h, hpieces, List.concat_eq_append, List.getLast?_concat]
      · rw [h, hpieces, List.concat_eq_append, ← List.cons_append, List.getLast?_concat]

theorem fileName?_withoutDots (h : p.fileName? = some name) : p.withoutDots.fileName? = some name := by
  obtain ⟨cs, hcs⟩ := fileName?_eq_some_iff.mp h
  refine fileName?_eq_some_iff.mpr ⟨cs, ?_⟩
  rw [← hcs, components_withoutDots, components_withoutDots, List.filter_filter]
  simp only [Bool.and_self]

/-! ## Below a path -/

theorem isAbsolute_append (hp : p.text.isEmpty = false) (more : String) :
    (Path.mk (p.text ++ more)).isAbsolute = p.isAbsolute := by
  obtain ⟨c, s, hs⟩ := List.exists_cons_of_ne_nil fun hnil : p.text.toList = [] =>
    Bool.false_ne_true (hp.symm.trans (String.isEmpty_iff.mpr (String.toList_eq_nil_iff.mp hnil)))
  simp [isAbsolute, hs]

/-- **`join` of a relative path** appends its components, without dots. -/
theorem components_withoutDots_join (p : Path) (hq : q.isAbsolute = false) :
    (p.join q).withoutDots.components = p.withoutDots.components ++ q.withoutDots.components := by
  have hrelative : q.withoutDots.components = (pieces q.text.toList).filterMap componentOf? := by
    rw [components_withoutDots_eq, hq]
    rfl
  rw [join, if_neg (by rw [hq]; exact Bool.false_ne_true)]
  by_cases hempty : p.text.isEmpty = true
  · obtain ⟨text⟩ := p
    obtain rfl : text = "" := String.isEmpty_iff.mp hempty
    rfl
  rw [if_neg hempty, hrelative]
  have habsolute := isAbsolute_append (Bool.eq_false_iff.mpr hempty)
  split
  · next hslash =>
    -- the last piece of the path is empty, and what follows the slash replaces it
    obtain ⟨cs, hcs⟩ := List.getLast?_eq_some_iff.mp hslash
    have hold : pieces p.text.toList = pieces cs ++ [[]] := by
      rw [hcs, pieces_append_slash]
      rfl
    have hnew : pieces (p.text ++ q.text).toList = pieces cs ++ pieces q.text.toList := by
      rw [String.toList_append, hcs, List.append_assoc, List.singleton_append, pieces_append_slash]
    rw [components_withoutDots_eq, components_withoutDots_eq, habsolute, hnew, hold, List.filterMap_append,
      List.filterMap_append, List.filterMap_cons_none rfl, List.filterMap_nil, List.append_nil, List.append_assoc]
  · have hnew : pieces (p.text ++ ("/" ++ q.text)).toList = pieces p.text.toList ++ pieces q.text.toList := by
      rw [String.toList_append, String.toList_append]
      exact pieces_append_slash _ _
    rw [String.append_assoc, components_withoutDots_eq, components_withoutDots_eq, habsolute, hnew,
      List.filterMap_append, List.append_assoc]

/-! ## Above a path -/

/-- The first of `pieces s` is empty when there is nothing in front of the first slash. -/
theorem eq_nil_or_slash {s : List Char} {ps : List (List Char)} (h : pieces s = [] :: ps) :
    s = [] ∨ s.head? = some '/' := by
  cases s with
  | nil => exact .inl rfl
  | cons c s =>
    by_cases hc : c = '/'
    · rw [hc]
      exact .inr rfl
    · obtain ⟨q, qs, hqs⟩ := List.exists_cons_of_ne_nil (pieces_ne_nil s)
      rw [pieces_cons_of_ne hc hqs] at h
      cases h

theorem filterMap_dropWhile_isVoid (ps : List (List Char)) :
    (ps.dropWhile isVoid).filterMap componentOf? = ps.filterMap componentOf? := by
  induction ps with
  | nil => rfl
  | cons piece ps ih =>
    rw [List.dropWhile_cons]
    split
    · next hvoid => rw [ih, List.filterMap_cons_none (componentOf?_eq_none_iff.mpr hvoid)]
    · rfl

/-- `piecesBefore` drops one component, where some piece is not void. -/
theorem filterMap_piecesBefore {ps : List (List Char)} (h : ps.all isVoid = false) :
    ∃ c, ps.filterMap componentOf? = (piecesBefore ps).filterMap componentOf? ++ [c] := by
  -- from the back, the first piece that says something says the last component
  obtain ⟨piece, more, hmore⟩ : ∃ piece more, ps.reverse.dropWhile isVoid = piece :: more :=
    List.exists_cons_of_ne_nil fun hnil => by
      rw [List.dropWhile_eq_nil_iff] at hnil
      rw [List.all_eq_true.mpr fun piece hpiece => hnil piece (List.mem_reverse.mpr hpiece)] at h
      cases h
  have hsays : isVoid piece = false := by
    have hhead := List.head_dropWhile_not (p := isVoid) (l := ps.reverse) (by rw [hmore]; exact List.cons_ne_nil _ _)
    simpa only [hmore, List.head_cons] using hhead
  obtain ⟨c, hc⟩ : ∃ c, componentOf? piece = some c := by
    refine Option.ne_none_iff_exists'.mp fun hnone => ?_
    rw [componentOf?_eq_none_iff.mp hnone] at hsays
    cases hsays
  refine ⟨c, ?_⟩
  have hreverse : (ps.reverse).filterMap componentOf? = c :: more.filterMap componentOf? := by
    rw [← filterMap_dropWhile_isVoid, hmore, List.filterMap_cons_some hc]
  have hbefore : (piecesBefore ps).filterMap componentOf? = (more.filterMap componentOf?).reverse := by
    rw [piecesBefore, hmore, List.drop_succ_cons, List.drop_zero, List.filterMap_reverse, filterMap_dropWhile_isVoid]
  rw [hbefore, ← List.reverse_cons, ← hreverse, List.filterMap_reverse, List.reverse_reverse]

/-- `piecesBefore` drops the last of pieces that are not void. -/
theorem piecesBefore_concat {ps : List (List Char)} {piece : List Char} (h : ∀ q ∈ ps ++ [piece], isVoid q = false) :
    piecesBefore (ps ++ [piece]) = ps := by
  obtain ⟨hps, hpiece⟩ := List.forall_mem_append.mp h
  have hlast : isVoid piece = false := hpiece piece (List.mem_singleton.mpr rfl)
  have hfront : ps.reverse.dropWhile isVoid = ps.reverse := by
    refine List.dropWhile_eq_self_iff.mpr fun hlength => ?_
    rw [Bool.not_eq_true]
    exact hps _ (List.mem_reverse.mp (List.get_mem ..))
  rw [piecesBefore, List.reverse_append, List.reverse_singleton, List.singleton_append, List.dropWhile_cons, hlast,
    if_neg Bool.false_ne_true, List.drop_succ_cons, List.drop_zero, hfront, List.reverse_reverse]

/-- **A path that ends in a name is that name below `parent?`**, without dots. -/
theorem exists_parent? (h : p.fileName? = some name) :
    ∃ q, p.parent? = some q ∧ p.withoutDots.components = q.withoutDots.components ++ [.normal name] := by
  have hlast := getLast?_pieces h
  -- it is enough that the path above has the pieces in front of the last one that says something
  suffices hq : ∃ q, p.parent? = some q ∧ ∃ c, (pieces p.text.toList).filterMap componentOf? =
      (pieces q.text.toList).filterMap componentOf? ++ [c] by
    obtain ⟨q, hq, c, hc⟩ := hq
    rw [hc, List.getLast?_concat] at hlast
    obtain rfl := Option.some.inj hlast
    refine ⟨q, hq, ?_⟩
    rw [components_withoutDots_eq, components_withoutDots_eq, hc, (components_parent? hq).2, List.append_assoc]
  obtain ⟨first, rest, hpieces⟩ := List.exists_cons_of_ne_nil (pieces_ne_nil p.text.toList)
  have hbefore := piecesBefore_prefix rest
  have hslash : ∀ piece ∈ first :: piecesBefore rest, '/' ∉ piece := fun piece hpiece =>
    not_mem_of_mem_pieces (hpieces ▸ (List.cons_subset_cons first hbefore.subset) hpiece)
  rw [parent?, hpieces]
  dsimp only
  by_cases hvoid : rest.all isVoid = true
  · -- the name is the first piece, and the path is relative
    have hrest : rest.filterMap componentOf? = [] := List.filterMap_eq_nil_iff.mpr fun piece hpiece =>
      componentOf?_eq_none_iff.mpr (List.all_eq_true.mp hvoid piece hpiece)
    rw [hpieces, List.filterMap_cons] at hlast
    cases hfirst : componentOf? first with
    | none => rw [hfirst, hrest] at hlast; cases hlast
    | some c =>
      have hne : first ≠ [] := by
        rintro rfl
        cases hfirst
      have hrelative : p.isAbsolute = false :=
        not_isAbsolute_of_head? (by rw [hpieces, List.head?_cons]) hne
      refine ⟨⟨""⟩, ?_, c, ?_⟩
      · rw [hrelative, if_neg Bool.false_ne_true, if_neg hne, if_pos hvoid]
      · rw [List.filterMap_cons_some hfirst, hrest]
        rfl
  · rw [Bool.not_eq_true] at hvoid
    obtain ⟨c, hc⟩ := filterMap_piecesBefore hvoid
    rw [hvoid, if_neg Bool.false_ne_true, if_neg Bool.false_ne_true]
    cases habsolute : p.isAbsolute with
    | true =>
      -- the piece in front of the first slash is empty, and the path above gets the slash back
      obtain ⟨cs, hcs⟩ := List.head?_eq_some_iff.mp (beq_iff_eq.mp habsolute)
      rw [hcs, pieces] at hpieces
      obtain ⟨rfl, hrest⟩ := List.cons.inj hpieces
      have hq : (Path.mk ("/" ++ joinPieces (piecesBefore rest))).components =
          .root :: (piecesBefore rest).filterMap componentOf? :=
        components_behind_slash (List.forall_mem_cons.mp hslash).2
      have habsolute' := isAbsolute_iff.mpr (hq ▸ List.mem_cons_self)
      rw [components_eq, habsolute', componentsOf_absolute] at hq
      exact ⟨_, if_pos rfl, c, by rw [List.filterMap_cons_none rfl, hc, (List.cons.inj hq).2]⟩
    | false =>
      -- a text that begins with an empty piece is empty or begins with a slash
      have hne : first ≠ [] := by
        rintro rfl
        rcases eq_nil_or_slash hpieces with hnil | hhead
        · rw [hnil, pieces] at hpieces
          rw [← (List.cons.inj hpieces).2] at hvoid
          cases hvoid
        · rw [isAbsolute, hhead] at habsolute
          cases habsolute
      refine ⟨_, by rw [if_neg Bool.false_ne_true, if_neg hne], c, ?_⟩
      rw [pieces_joinPieces (List.cons_ne_nil _ _) hslash, ← List.singleton_append, List.filterMap_append, hc,
        ← List.append_assoc, ← List.filterMap_append]
      rfl

/-! ## Within a directory -/

theorem eq_append_of_afterComponents? {as bs cs : List Component} (h : afterComponents? as bs = some cs) :
    bs = as ++ cs := by
  induction as generalizing bs with
  | nil => exact Option.some.inj h
  | cons a as ih =>
    cases bs with
    | nil => cases h
    | cons b bs =>
      rw [afterComponents?] at h
      split at h
      · next heq => rw [heq, List.cons_append, ← ih h]
      · cases h

/-- **`p.within? dir = some r`** where the components of `p` are those of `dir` and of `r`. -/
theorem components_of_within? {dir r : Path} (h : p.within? dir = some r) :
    ∃ cs, p.components = dir.components ++ cs ∧ r = ofComponents cs := by
  obtain ⟨cs, hcs, rfl⟩ := Option.map_eq_some_iff.mp h
  exact ⟨cs, eq_append_of_afterComponents? hcs, rfl⟩

/-! ## Written components -/

/-- `ofComponents` of `IsPlain` components is a relative path without dots. -/
theorem withoutDots_ofComponents {cs : List Component} (h : ∀ c ∈ cs, IsPlain c) :
    (ofComponents cs).withoutDots.components = cs ∧ (ofComponents cs).isAbsolute = false := by
  have hcs := components_ofComponents h
  constructor
  · rw [components_withoutDots, hcs]
    refine List.filter_eq_self.mpr fun c hc => decide_eq_true ?_
    rintro rfl
    exact h _ hc
  · rw [Bool.eq_false_iff, Ne, isAbsolute_iff, hcs]
    exact fun hroot => h _ hroot

theorem map_normal_inj {names names' : List String} (h : names.map Component.normal = names'.map .normal) :
    names = names' :=
  List.map_injective_iff.mpr (fun _ _ => Component.normal.inj) h

/-- `Component.text` of `.normal name` is `name`. -/
theorem map_text_names (names : List String) : (names.map Component.normal).map Component.text = names := by
  rw [List.map_map]
  exact List.map_id names

/-- `IsPlain` components without `.parent` are `.normal` names. -/
theorem exists_names_of_plain {cs : List Component} (h : ∀ c ∈ cs, IsPlain c) (hforward : .parent ∉ cs) :
    ∃ names : List String, (∀ name ∈ names, IsName name) ∧ cs = names.map .normal := by
  induction cs with
  | nil => exact ⟨[], List.forall_mem_nil _, rfl⟩
  | cons c cs ih =>
    obtain ⟨hc, hrest⟩ := List.forall_mem_cons.mp h
    obtain ⟨names, hnames, rfl⟩ := ih hrest fun hparent => hforward (List.mem_cons_of_mem c hparent)
    cases c with
    | root | current => exact hc.elim
    | parent => exact absurd List.mem_cons_self hforward
    | normal name => exact ⟨name :: names, List.forall_mem_cons.mpr ⟨hc, hnames⟩, rfl⟩

theorem isPlain_names {names : List String} (h : ∀ name ∈ names, IsName name) :
    ∀ c ∈ names.map Component.normal, IsPlain c := by
  intro c hc
  obtain ⟨name, hname, rfl⟩ := List.mem_map.mp hc
  exact h name hname

end Path

end RouteContracts
