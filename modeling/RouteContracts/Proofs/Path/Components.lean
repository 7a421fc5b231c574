import Mathlib.Data.List.Basic
import RouteContracts.Path

/-! # Components of paths
How the components of a path come about, and how the operations on paths act on them.

* `Path.IsName`: the texts that can name a file in a directory. A name is a component of its own.
* `Path.components_join`: **joining a name appends it to the components.** `Path.fileName?_join`: a path that ends in a
  name does so below any other.
* `Path.components_ofComponents`, `Path.components_withoutDots`: components survive being written.
* `Path.within?_eq_some`: a path is found within a directory by components. -/

namespace RouteContracts

namespace Path

/-- A text that can name a file in a directory. -/
structure IsName (name : String) : Prop where
  ne_empty : name.toList ≠ []
  ne_dot : name.toList ≠ ['.']
  ne_dots : name.toList ≠ ['.', '.']
  no_slash : '/' ∉ name.toList

/-! ## Pieces -/

theorem pieces_ne_nil (s : List Char) : pieces s ≠ [] := by
  fun_induction pieces s <;> simp_all

theorem pieces_cons_of_ne {c : Char} (hc : c ≠ '/') {s p : List Char} {ps : List (List Char)}
    (h : pieces s = p :: ps) : pieces (c :: s) = (c :: p) :: ps := by
  rw [pieces.eq_3 _ _ (by simpa using hc), h]

/-- `pieces (s ++ '/' :: t) = pieces s ++ pieces t`: a slash cuts a text. -/
theorem pieces_append_slash (s t : List Char) : pieces (s ++ '/' :: t) = pieces s ++ pieces t := by
  induction s with
  | nil => rfl
  | cons c s ih =>
    by_cases hc : c = '/'
    · subst hc
      simp only [List.cons_append, pieces, ih]
    · obtain ⟨p, ps, hps⟩ := List.exists_cons_of_ne_nil (pieces_ne_nil s)
      have happend : pieces (s ++ '/' :: t) = p :: (ps ++ pieces t) := by rw [ih, hps, List.cons_append]
      rw [List.cons_append, pieces_cons_of_ne hc happend, pieces_cons_of_ne hc hps, List.cons_append]

theorem pieces_of_not_mem {s : List Char} (h : '/' ∉ s) : pieces s = [s] := by
  induction s with
  | nil => rfl
  | cons c s ih =>
    rw [List.mem_cons, not_or] at h
    exact pieces_cons_of_ne (Ne.symm h.1) (ih h.2)

/-- `pieces` of pieces without slashes, with `'/'` between, are these. -/
theorem pieces_intercalate {ps : List (List Char)} (hne : ps ≠ []) (h : ∀ p ∈ ps, '/' ∉ p) :
    pieces (['/'].intercalate ps) = ps := by
  induction ps with
  | nil => exact absurd rfl hne
  | cons p ps ih =>
    have hp := pieces_of_not_mem (h p List.mem_cons_self)
    cases ps with
    | nil => rwa [List.intercalate_singleton]
    | cons q qs =>
      have hrest := ih (List.cons_ne_nil q qs) fun r hr => h r (List.mem_cons_of_mem p hr)
      rw [List.intercalate_cons_cons, List.append_assoc, List.singleton_append, pieces_append_slash, hp,
        hrest, List.singleton_append]

/-! ## Components of pieces -/

/-- The components of the pieces of a path, which is absolute or not. -/
def componentsOf (absolute : Bool) (ps : List (List Char)) : List Component :=
  if absolute then .root :: ps.filterMap componentOf?
  else match ps with
    | ['.'] :: rest => .current :: rest.filterMap componentOf?
    | _ => ps.filterMap componentOf?

theorem components_eq (p : Path) : p.components = componentsOf p.isAbsolute (pieces p.text.toList) := rfl

theorem componentsOf_absolute (ps : List (List Char)) :
    componentsOf true ps = .root :: ps.filterMap componentOf? := rfl

theorem componentsOf_relative {ps : List (List Char)} (h : ps.head? ≠ some ['.']) :
    componentsOf false ps = ps.filterMap componentOf? := by
  simp only [componentsOf, Bool.false_eq_true, if_false]
  split
  · exact absurd rfl h
  · rfl

/-- `componentsOf` of `ps ++ more` goes on with the components of `more`. -/
theorem componentsOf_append (absolute : Bool) {ps : List (List Char)} (hne : ps ≠ [])
    (more : List (List Char)) :
    componentsOf absolute (ps ++ more) = componentsOf absolute ps ++ more.filterMap componentOf? := by
  obtain ⟨p, ps, rfl⟩ := List.exists_cons_of_ne_nil hne
  cases absolute with
  | true => rw [componentsOf_absolute, componentsOf_absolute, List.filterMap_append, List.cons_append]
  | false =>
    by_cases hp : p = ['.']
    · subst hp
      simp [componentsOf]
    · have hhead : (p :: ps).head? ≠ some ['.'] := by simpa using hp
      have hmore : (p :: ps ++ more).head? ≠ some ['.'] := hhead
      rw [componentsOf_relative hhead, componentsOf_relative hmore, List.filterMap_append]

theorem IsName.filterMap_componentOf? {name : String} (h : IsName name) :
    [name.toList].filterMap componentOf? = [.normal name] := by
  simp [componentOf?, h.ne_empty, h.ne_dot, h.ne_dots]

theorem IsName.not_isAbsolute {name : String} (h : IsName name) : (Path.mk name).isAbsolute = false := by
  cases hs : name.toList with
  | nil => simp [isAbsolute, hs]
  | cons c s =>
    have hc : c ≠ '/' := fun hc => h.no_slash (by simp [hs, hc])
    simp [isAbsolute, hs, hc]

theorem IsName.components {name : String} (h : IsName name) :
    (Path.mk name).components = [.normal name] := by
  have hps : pieces name.toList = [name.toList] := pieces_of_not_mem h.no_slash
  rw [components_eq, h.not_isAbsolute, hps]
  simp [componentsOf, h.ne_dot, h.filterMap_componentOf?]

/-- **`join` of a name appends `.normal name` to the components.** -/
theorem components_join (q : Path) {name : String} (h : IsName name) :
    (q.join ⟨name⟩).components = q.components ++ [.normal name] := by
  rw [join, if_neg (by simp [h.not_isAbsolute])]
  have hpiece : pieces name.toList = [name.toList] := pieces_of_not_mem h.no_slash
  split
  · next hempty =>
    have hq : q = ⟨""⟩ := by
      rw [← String.isEmpty_iff.mp hempty]
    rw [h.components, hq]
    rfl
  · next hempty =>
    obtain ⟨c, s, hcs⟩ := List.exists_cons_of_ne_nil
      (fun hnil => hempty (String.isEmpty_iff.mpr (String.toList_eq_nil_iff.mp hnil)))
    have habsolute : ∀ more : String, (Path.mk (q.text ++ more)).isAbsolute = q.isAbsolute := by
      intro more
      simp [isAbsolute, hcs]
    split
    · next hslash =>
      -- The last piece of the directory is empty, so it is replaced.
      obtain ⟨front, hfront⟩ := List.getLast?_eq_some_iff.mp hslash
      have hold : pieces q.text.toList = pieces front ++ [[]] := by
        rw [hfront, pieces_append_slash]; rfl
      have hnew : pieces (q.text ++ name).toList = pieces front ++ [name.toList] := by
        rw [String.toList_append, hfront, List.append_assoc, List.singleton_append, pieces_append_slash,
          hpiece]
      rw [components_eq, components_eq, habsolute, hold, hnew, componentsOf_append _ (pieces_ne_nil front),
        componentsOf_append _ (pieces_ne_nil front), h.filterMap_componentOf?]
      simp [componentOf?]
    · have hnew : pieces (q.text ++ ("/" ++ name)).toList = pieces q.text.toList ++ [name.toList] := by
        rw [String.toList_append, String.toList_append, ← hpiece]
        exact pieces_append_slash _ _
      rw [String.append_assoc, components_eq, components_eq, habsolute, hnew,
        componentsOf_append _ (pieces_ne_nil _), h.filterMap_componentOf?]

/-- If `q.fileName? = some name`, the last component of its pieces is `.normal name`, whatever stands in front of
them. -/
theorem getLast?_pieces {q : Path} {name : String} (h : q.fileName? = some name) :
    ((pieces q.text.toList).filterMap componentOf?).getLast? = some (.normal name) := by
  have hlast : q.components.getLast? = some (.normal name) := by
    unfold fileName? at h
    split at h
    · next heq =>
      obtain rfl := Option.some.inj h
      exact heq
    · exact nomatch h
  -- a component in front that is no name is not the last one
  have hfront : ∀ (c : Component) (cs : List Component), c ≠ .normal name →
      (c :: cs).getLast? = some (.normal name) → cs.getLast? = some (.normal name) := by
    intro c cs hc hcs
    cases cs with
    | nil => exact absurd (Option.some.inj hcs) hc
    | cons d cs => exact hcs
  rw [components_eq] at hlast
  unfold componentsOf at hlast
  split at hlast
  · exact hfront _ _ (by simp) hlast
  · split at hlast
    · next hps =>
      rw [hps]
      exact hfront _ _ (by simp) hlast
    · exact hlast

/-- **`fileName?` of `p.join q` is that of `q`.** -/
theorem fileName?_join {q : Path} {name : String} (p : Path) (h : q.fileName? = some name) :
    (p.join q).fileName? = some name := by
  -- whatever is put in front, the last piece still gives the name
  have hpieces : ∀ (r : Path) {front : List (List Char)}, front ≠ [] →
      pieces r.text.toList = front ++ pieces q.text.toList → r.fileName? = some name := by
    intro r front hfront hr
    rw [fileName?, components_eq, hr, componentsOf_append _ hfront, List.getLast?_append, getLast?_pieces h]
    rfl
  unfold join
  split
  · exact h
  · split
    · exact h
    · split
      · next hslash =>
        obtain ⟨front, hfront⟩ := List.getLast?_eq_some_iff.mp hslash
        refine hpieces _ (pieces_ne_nil front) ?_
        rw [String.toList_append, hfront, List.append_assoc, List.singleton_append, pieces_append_slash]
      · refine hpieces _ (pieces_ne_nil p.text.toList) ?_
        rw [String.toList_append, String.toList_append, List.append_assoc]
        exact pieces_append_slash _ _

/-! ## Writing components -/

/-- A component that can stand anywhere but at the front. -/
def IsPlain : Component → Prop
  | .parent => True
  | .normal name => IsName name
  | .root | .current => False

theorem not_mem_of_mem_pieces {s p : List Char} (h : p ∈ pieces s) : '/' ∉ p := by
  induction s generalizing p with
  | nil => simp_all [pieces]
  | cons c s ih =>
    obtain ⟨q, qs, hqs⟩ := List.exists_cons_of_ne_nil (pieces_ne_nil s)
    by_cases hc : c = '/'
    · subst hc
      rcases List.mem_cons.mp h with rfl | h
      · exact List.not_mem_nil
      · exact ih h
    · rw [pieces_cons_of_ne hc hqs] at h
      rcases List.mem_cons.mp h with rfl | h
      · have hq : '/' ∉ q := ih (hqs ▸ List.mem_cons_self)
        simp [hq, Ne.symm hc]
      · exact ih (hqs ▸ List.mem_cons_of_mem q h)

theorem isPlain_of_componentOf? {piece : List Char} {c : Component} (hpiece : '/' ∉ piece)
    (h : componentOf? piece = some c) : IsPlain c := by
  unfold componentOf? at h
  split at h
  · exact nomatch h
  · next hvoid =>
    rw [not_or] at hvoid
    split at h
    · obtain rfl := Option.some.inj h
      trivial
    · next hdots =>
      obtain rfl := Option.some.inj h
      exact ⟨by simpa using hvoid.1, by simpa using hvoid.2, by simpa using hdots, by simpa using hpiece⟩

/-- The components of a path are `IsPlain`, apart from a `.root` or a `.current` at the front. -/
theorem exists_components (p : Path) : ∃ front tail, p.components = front ++ tail ∧
    (front = [] ∨ front = [.root] ∨ front = [.current]) ∧ ∀ c ∈ tail, IsPlain c := by
  have hplain : ∀ ps : List (List Char), (∀ piece ∈ ps, '/' ∉ piece) →
      ∀ c ∈ ps.filterMap componentOf?, IsPlain c := by
    intro ps hps c hc
    obtain ⟨piece, hpiece, h⟩ := List.mem_filterMap.mp hc
    exact isPlain_of_componentOf? (hps piece hpiece) h
  have hpieces : ∀ piece ∈ pieces p.text.toList, '/' ∉ piece := fun _ h => not_mem_of_mem_pieces h
  rw [components_eq]
  generalize pieces p.text.toList = ps at hpieces
  cases p.isAbsolute with
  | true => exact ⟨[.root], _, rfl, .inr (.inl rfl), hplain ps hpieces⟩
  | false =>
    -- only a dot at the very front is a component
    by_cases hhead : ps.head? = some ['.']
    · obtain ⟨rest, rfl⟩ := List.head?_eq_some_iff.mp hhead
      exact ⟨[.current], _, rfl, .inr (.inr rfl),
        hplain rest fun piece h => hpieces piece (List.mem_cons_of_mem _ h)⟩
    · exact ⟨[], _, componentsOf_relative hhead, .inl rfl, hplain ps hpieces⟩

theorem IsPlain.componentOf? {c : Component} (h : IsPlain c) : componentOf? c.text.toList = some c := by
  cases c with
  | root | current => exact h.elim
  | parent => rfl
  | normal name =>
    have hname : IsName name := h
    simp [Path.componentOf?, Component.text, hname.ne_empty, hname.ne_dot, hname.ne_dots]

theorem IsPlain.no_slash {c : Component} (h : IsPlain c) : '/' ∉ c.text.toList := by
  cases c with
  | root | current => exact h.elim
  | parent => decide
  | normal name =>
    have hname : IsName name := h
    exact hname.no_slash

theorem IsPlain.text_ne {c : Component} (h : IsPlain c) : c.text.toList ≠ [] ∧ c.text.toList ≠ ['.'] := by
  have hsome := h.componentOf?
  constructor <;> intro hvoid <;> rw [hvoid] at hsome <;> exact nomatch hsome

/-- A path whose first piece is not empty is not `isAbsolute`. -/
theorem not_isAbsolute_of_head? {p : Path} {piece : List Char} (h : (pieces p.text.toList).head? = some piece)
    (hne : piece ≠ []) : p.isAbsolute = false := by
  cases hs : p.text.toList with
  | nil => simp [isAbsolute, hs]
  | cons c s =>
    have hc : c ≠ '/' := by
      rintro rfl
      rw [hs] at h
      exact hne (Option.some.inj h).symm
    simp [isAbsolute, hs, hc]

theorem pieces_texts {cs : List Component} (hne : cs ≠ []) (h : ∀ c ∈ cs, IsPlain c) :
    pieces ("/".intercalate (cs.map Component.text)).toList = cs.map (·.text.toList) := by
  rw [String.toList_intercalate, List.map_map]
  refine pieces_intercalate (by simpa using hne) fun p hp => ?_
  obtain ⟨c, hc, rfl⟩ := List.mem_map.mp hp
  exact (h c hc).no_slash

theorem filterMap_texts {cs : List Component} (h : ∀ c ∈ cs, IsPlain c) :
    (cs.map (·.text.toList)).filterMap componentOf? = cs := by
  induction cs with
  | nil => rfl
  | cons c cs ih =>
    rw [List.map_cons, List.filterMap_cons_some (h c List.mem_cons_self).componentOf?,
      ih fun c' hc' => h c' (List.mem_cons_of_mem c hc')]

/-- **`IsPlain` components survive `ofComponents`.** -/
theorem components_ofComponents {cs : List Component} (h : ∀ c ∈ cs, IsPlain c) :
    (ofComponents cs).components = cs := by
  cases cs with
  | nil => rfl
  | cons c cs =>
    have hc := h c List.mem_cons_self
    have hwritten : ofComponents (c :: cs) = ⟨"/".intercalate ((c :: cs).map Component.text)⟩ := by
      cases c with
      | root => exact hc.elim
      | current | parent | normal => rfl
    have hps := pieces_texts (List.cons_ne_nil c cs) h
    have hhead : (pieces ("/".intercalate ((c :: cs).map Component.text)).toList).head? =
        some c.text.toList := by rw [hps]; rfl
    have hrelative : (Path.mk ("/".intercalate ((c :: cs).map Component.text))).isAbsolute = false :=
      not_isAbsolute_of_head? hhead hc.text_ne.1
    rw [hwritten, components_eq, hrelative,
      componentsOf_relative (by rw [hhead]; simpa using hc.text_ne.2), hps, filterMap_texts h]

/-- **`.root` and `IsPlain` components survive `ofComponents`.** -/
theorem components_ofComponents_root {cs : List Component} (h : ∀ c ∈ cs, IsPlain c) :
    (ofComponents (.root :: cs)).components = .root :: cs := by
  have hps : pieces ("/" ++ "/".intercalate (cs.map Component.text)).toList =
      [] :: pieces ("/".intercalate (cs.map Component.text)).toList := by
    rw [String.toList_append]
    exact pieces_append_slash [] _
  have habsolute : (ofComponents (.root :: cs)).isAbsolute = true := by
    simp [isAbsolute, ofComponents]
  rw [components_eq, habsolute, ofComponents, hps, componentsOf_absolute]
  by_cases hne : cs = []
  · subst hne; rfl
  · rw [pieces_texts hne h, List.filterMap_cons_none rfl, filterMap_texts h]

/-- `withoutDots` drops the components `.current`. -/
theorem components_withoutDots (p : Path) : p.withoutDots.components = p.components.filter (· ≠ .current) := by
  obtain ⟨front, tail, hp, hfront, htail⟩ := exists_components p
  have hkept : tail.filter (· ≠ .current) = tail := by
    refine List.filter_eq_self.mpr fun c hc => ?_
    cases c with
    | current => exact (htail _ hc).elim
    | root | parent | normal => rfl
  rw [withoutDots, hp, List.filter_append, hkept]
  rcases hfront with rfl | rfl | rfl
  · exact components_ofComponents htail
  · exact components_ofComponents_root htail
  · exact components_ofComponents htail

/-! ## Paths within directories -/

theorem same_iff {p q : Path} : p.same q = true ↔ p.components = q.components := beq_iff_eq

theorem afterComponents?_append (as bs : List Component) : afterComponents? as (as ++ bs) = some bs := by
  induction as with
  | nil => rfl
  | cons a as ih => rw [List.cons_append, afterComponents?, if_pos rfl, ih]

/-- `p.within? dir` is `some` where the components of `dir` are at the front of those of `p`. -/
theorem within?_eq_some {p dir : Path} {cs : List Component} (h : p.components = dir.components ++ cs) :
    p.within? dir = some (ofComponents cs) := by
  rw [within?, h, afterComponents?_append, Option.map_some]

end Path

end RouteContracts
