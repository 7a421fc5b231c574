import RouteContracts.Proofs.Files.Walks
import RouteContracts.Proofs.Path.Components

/-! # The names on a path
Where no `..` leads back, the way of a path is its names, one below the other.

* `Path.steps`: the names. `Path.IsStraight`: the paths whose way they are.
* `Path.components_parent?`: **the path without its last component is at the front of the path**, by
  components. -/

namespace RouteContracts

/-- The name in a component. -/
def Component.name? : Component → Option String
  | .normal name => some name
  | _ => none

namespace Path

/-! ## Names -/

/-- The names on the way of a path. -/
def steps (p : Path) : List String := p.components.filterMap Component.name?

/-- A path without `..` and without names that are too long. -/
structure IsStraight (p : Path) : Prop where
  forward : Component.parent ∉ p.components
  sizes : ∀ name ∈ p.steps, name.utf8ByteSize ≤ Files.maxNameBytes

variable {p q : Path} {name : String}

theorem steps_join (q : Path) (h : IsName name) : (q.join ⟨name⟩).steps = q.steps ++ [name] := by
  rw [steps, steps, components_join q h, List.filterMap_append]
  rfl

/-- `join` of a name keeps `isAbsolute`. -/
theorem isAbsolute_join_name (q : Path) (h : IsName name) : (q.join ⟨name⟩).isAbsolute = q.isAbsolute := by
  have habsolute := h.not_isAbsolute
  rw [join, if_neg (by rw [habsolute]; exact Bool.false_ne_true)]
  split
  · next hempty => rw [habsolute, isAbsolute, String.isEmpty_iff.mp hempty]; rfl
  · next hempty =>
    obtain ⟨c, s, hs⟩ := List.exists_cons_of_ne_nil fun hnil : q.text.toList = [] =>
      hempty (String.isEmpty_iff.mpr (String.toList_inj.mp hnil))
    split <;> simp [isAbsolute, hs]

theorem IsStraight.join (hq : q.IsStraight) (h : IsName name) (hsize : name.utf8ByteSize ≤ Files.maxNameBytes) :
    (q.join ⟨name⟩).IsStraight := by
  constructor
  · rw [components_join q h, List.mem_append, List.mem_singleton]
    rintro (hparent | hparent)
    · exact hq.forward hparent
    · cases hparent
  · rw [steps_join q h]
    exact List.forall_mem_append.mpr ⟨hq.sizes, List.forall_mem_singleton.mpr hsize⟩

/-- `fileName?` is the last of `steps`. -/
theorem getLast?_steps (h : p.fileName? = some name) : p.steps.getLast? = some name := by
  unfold fileName? at h
  split at h
  · next hlast =>
    obtain rfl := Option.some.inj h
    obtain ⟨front, hfront⟩ := List.getLast?_eq_some_iff.mp hlast
    rw [steps, hfront, List.filterMap_append, List.getLast?_append]
    rfl
  · cases h

/-- A path whose components are at the front of those of an `IsStraight` path `IsStraight`. -/
theorem IsStraight.of_prefix (hp : p.IsStraight) (h : q.components <+: p.components) : q.IsStraight :=
  ⟨fun hparent => hp.forward (h.subset hparent), fun name hname => hp.sizes name ((h.filterMap _).subset hname)⟩

/-! ## Pieces -/

/-- `componentsOf` gives the components of the pieces, behind a `.root` or a `.current` at the front, or nothing. -/
theorem componentsOf_eq (absolute : Bool) (ps : List (List Char)) :
    componentsOf absolute ps = ps.filterMap componentOf? ∨
      ∃ front, (front = .root ∨ front = .current) ∧ componentsOf absolute ps = front :: ps.filterMap componentOf? := by
  cases absolute with
  | true => exact .inr ⟨.root, .inl rfl, rfl⟩
  | false =>
    by_cases hhead : ps.head? = some ['.']
    · obtain ⟨rest, rfl⟩ := List.head?_eq_some_iff.mp hhead
      exact .inr ⟨.current, .inr rfl, rfl⟩
    · exact .inl (componentsOf_relative hhead)

theorem steps_eq (p : Path) :
    p.steps = ((pieces p.text.toList).filterMap componentOf?).filterMap Component.name? := by
  rw [steps, components_eq]
  rcases componentsOf_eq p.isAbsolute (pieces p.text.toList) with h | ⟨front, rfl | rfl, h⟩ <;> rw [h] <;> rfl

theorem mem_components_of_piece {piece : List Char} (hpiece : piece ∈ pieces p.text.toList) {c : Component}
    (h : componentOf? piece = some c) : c ∈ p.components := by
  have hmem : c ∈ (pieces p.text.toList).filterMap componentOf? := List.mem_filterMap.mpr ⟨piece, hpiece, h⟩
  rw [components_eq]
  rcases componentsOf_eq p.isAbsolute (pieces p.text.toList) with h | ⟨front, -, h⟩ <;> rw [h]
  · exact hmem
  · exact List.mem_cons_of_mem _ hmem

/-- **A piece of an `IsStraight` path** is `""` or `"."`, or a name for which `Files.LooksUp` holds. -/
theorem IsStraight.piece_cases (hp : p.IsStraight) {piece : List Char} (hpiece : piece ∈ pieces p.text.toList) :
    (piece = [] ∨ piece = ['.']) ∨
      componentOf? piece = some (.normal (String.ofList piece)) ∧ Files.LooksUp (String.ofList piece) := by
  by_cases hvoid : piece = [] ∨ piece = ['.']
  · exact .inl hvoid
  by_cases hup : piece = ['.', '.']
  · subst hup
    exact absurd (mem_components_of_piece hpiece rfl) hp.forward
  have hcomponent : componentOf? piece = some (.normal (String.ofList piece)) := by
    rw [componentOf?, if_neg hvoid, if_neg hup]
  have hstep : String.ofList piece ∈ p.steps := by
    rw [steps_eq]
    exact List.mem_filterMap.mpr ⟨_, List.mem_filterMap.mpr ⟨piece, hpiece, hcomponent⟩, rfl⟩
  have hchars : ∀ t : String, String.ofList piece = t → piece = t.toList :=
    fun t h => (String.toList_ofList ..).symm.trans (congrArg String.toList h)
  refine .inr ⟨hcomponent, ?_, ?_, ?_, hp.sizes _ hstep⟩
  · exact fun h => hvoid (.inl (hchars "" h))
  · exact fun h => hvoid (.inr (hchars "." h))
  · exact fun h => hup (hchars ".." h)

theorem IsStraight.looksUp (hp : p.IsStraight) (hname : name ∈ p.names) :
    (name = "" ∨ name = ".") ∨ Files.LooksUp name := by
  obtain ⟨piece, hpiece, rfl⟩ := List.mem_map.mp hname
  rcases hp.piece_cases hpiece with (rfl | rfl) | ⟨-, hlooks⟩
  · exact .inl (.inl rfl)
  · exact .inl (.inr rfl)
  · exact .inr hlooks

/-- The `names` of an `IsStraight` path but for `""` and `"."` are its `steps`. -/
theorem IsStraight.filter_names (hp : p.IsStraight) :
    p.names.filter (fun name => decide (name ≠ "" ∧ name ≠ ".")) = p.steps := by
  rw [steps_eq, names, List.filter_map, List.filterMap_filterMap, ← List.filterMap_eq_map,
    ← List.filterMap_eq_filter, List.filterMap_filterMap]
  refine List.filterMap_congr fun piece hpiece => ?_
  rcases hp.piece_cases hpiece with (rfl | rfl) | ⟨hcomponent, hlooks⟩
  · rfl
  · rfl
  · rw [hcomponent]
    simp [hlooks.ne_empty, hlooks.ne_dot, Component.name?, Option.guard]

/-! ## Above a path -/

/-- `componentOf? piece = none` exactly if `isVoid piece`. -/
theorem componentOf?_eq_none_iff {piece : List Char} : componentOf? piece = none ↔ isVoid piece = true := by
  rw [isVoid, Bool.or_eq_true, beq_iff_eq, beq_iff_eq, componentOf?]
  split
  · next h => exact iff_of_true rfl h
  · next h =>
    refine iff_of_false ?_ h
    split <;> exact Option.some_ne_none _

theorem piecesBefore_prefix (ps : List (List Char)) : piecesBefore ps <+: ps := by
  have hsuffix : ((ps.reverse.dropWhile isVoid).drop 1).dropWhile isVoid <:+ ps.reverse :=
    ((List.dropWhile_suffix _).trans (List.drop_suffix 1 _)).trans (List.dropWhile_suffix _)
  have h := List.reverse_prefix.mpr hsuffix
  rwa [List.reverse_reverse] at h

theorem pieces_joinPieces {ps : List (List Char)} (hne : ps ≠ []) (h : ∀ piece ∈ ps, '/' ∉ piece) :
    pieces (joinPieces ps).toList = ps := by
  rw [joinPieces, String.toList_ofList, pieces_intercalate hne h]

/-- The components of pieces behind a `/`: `.root` and those of the pieces. -/
theorem components_behind_slash {ps : List (List Char)} (h : ∀ piece ∈ ps, '/' ∉ piece) :
    (Path.mk ("/" ++ joinPieces ps)).components = .root :: ps.filterMap componentOf? := by
  have hchars : ("/" ++ joinPieces ps).toList = '/' :: (joinPieces ps).toList := by
    rw [String.toList_append]
    rfl
  have habsolute : (Path.mk ("/" ++ joinPieces ps)).isAbsolute = true := by
    rw [isAbsolute, hchars]
    rfl
  rw [components_eq, habsolute, componentsOf_absolute, hchars, pieces]
  by_cases hnil : ps = []
  · rw [hnil]
    rfl
  · rw [pieces_joinPieces hnil h]
    rfl

/-- `componentsOf false` is monotone for prefixes. -/
theorem componentsOf_prefix {ps qs : List (List Char)} (hne : ps ≠ []) (h : ps <+: qs) :
    componentsOf false ps <+: componentsOf false qs := by
  obtain ⟨more, rfl⟩ := h
  rw [componentsOf_append _ hne]
  exact List.prefix_append _ _

/-- **The components of `parent?` are at the front of those of the path**, and it starts where the path does. -/
theorem components_parent? (h : p.parent? = some q) :
    q.components <+: p.components ∧ q.isAbsolute = p.isAbsolute := by
  have hslash : ∀ piece ∈ pieces p.text.toList, '/' ∉ piece := fun _ h => not_mem_of_mem_pieces h
  unfold parent? at h
  split at h
  · cases h
  next first rest hpieces =>
  have hbefore := piecesBefore_prefix rest
  have hkept : ∀ piece ∈ piecesBefore rest, '/' ∉ piece := fun piece hpiece =>
    hslash piece (hpieces ▸ List.mem_cons_of_mem first (hbefore.subset hpiece))
  split at h
  · next habsolute =>
    split at h
    · cases h
    obtain rfl := Option.some.inj h
    have hfirst : first = [] := by
      obtain ⟨s, hs⟩ := List.head?_eq_some_iff.mp (beq_iff_eq.mp habsolute)
      rw [hs, pieces] at hpieces
      exact (List.cons.inj hpieces).1.symm
    refine ⟨?_, Eq.trans ?_ habsolute.symm⟩
    · rw [components_behind_slash hkept, components_eq, habsolute, componentsOf_absolute, hpieces, hfirst]
      exact List.cons_prefix_cons.mpr ⟨rfl, hbefore.filterMap _⟩
    · simp [isAbsolute]
  · next habsolute =>
    rw [Bool.not_eq_true] at habsolute
    split at h
    · cases h
    next hfirst =>
    split at h
    -- only `first` is there, which is the last component
    · obtain rfl := Option.some.inj h
      exact ⟨List.nil_prefix, habsolute.symm⟩
    obtain rfl := Option.some.inj h
    have hall : ∀ piece ∈ first :: piecesBefore rest, '/' ∉ piece :=
      List.forall_mem_cons.mpr ⟨hslash first (hpieces ▸ List.mem_cons_self), hkept⟩
    have hjoined := pieces_joinPieces (List.cons_ne_nil first _) hall
    have hq : (Path.mk (joinPieces (first :: piecesBefore rest))).isAbsolute = false :=
      not_isAbsolute_of_head? (congrArg List.head? hjoined) hfirst
    refine ⟨?_, hq.trans habsolute.symm⟩
    rw [components_eq, components_eq, hq, habsolute, hjoined, hpieces]
    exact componentsOf_prefix (List.cons_ne_nil _ _) (List.cons_prefix_cons.mpr ⟨rfl, hbefore⟩)

/-- A path with a name and without `parent?` is relative. -/
theorem not_isAbsolute_of_parent? (h : p.parent? = none) (hlooks : Files.LooksUp name) (hname : name ∈ p.names) :
    p.isAbsolute = false := by
  rw [Bool.eq_false_iff]
  intro habsolute
  obtain ⟨s, hs⟩ := List.head?_eq_some_iff.mp (beq_iff_eq.mp habsolute)
  have hpieces : pieces p.text.toList = [] :: pieces s := by
    rw [hs, pieces]
  rw [parent?, hpieces] at h
  dsimp only at h
  rw [if_pos habsolute] at h
  split at h
  · -- an absolute path has no parent only if it says nothing, and this one has a name
    next hvoid =>
    obtain ⟨piece, hpiece, rfl⟩ := List.mem_map.mp hname
    rw [hpieces] at hpiece
    rcases List.mem_cons.mp hpiece with rfl | hpiece
    · exact hlooks.ne_empty rfl
    · have hnone := List.all_eq_true.mp hvoid piece hpiece
      rw [isVoid, Bool.or_eq_true, beq_iff_eq, beq_iff_eq] at hnone
      rcases hnone with rfl | rfl
      · exact hlooks.ne_empty rfl
      · exact hlooks.ne_dot rfl
  · cases h

end Path

end RouteContracts
