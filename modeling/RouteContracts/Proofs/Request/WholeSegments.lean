import RouteContracts.Proofs.Request.PathShape
import RouteContracts.Proofs.Request.QueryTexts

/-! # Paths of patterns by whole segments
Where each segment of a pattern is a text or one placeholder, of any of the three forms, the path can be read off the
segments one by one: a text stays, a placeholder turns into the text of its value, and one that may go without a value
and does is left out with its slash. The first segment that has no text, and needs one, is the one complained about.

* `Segment`: such a segment. `slashed`: a pattern or a path of segments.
* `Segment.isRefused`, `Segment.filled?`: what becomes of a segment.
* `renderSegments_whole`: the texts of the segments, or the first that is refused.
* `fill_slashed`: **the path of a pattern, segment by segment.** -/

namespace RouteContracts.Pattern

/-! ## Segments -/

/-- A segment of a pattern that is a text or one placeholder. -/
inductive Segment where
  /-- A text. -/
  | literal (text : List Char)
  /-- A placeholder that needs a value. -/
  | required (name : List Char)
  /-- A placeholder that needs a value, for the rest of a path. -/
  | rest (name : List Char)
  /-- A placeholder that may go without a value. -/
  | optional (name : List Char)
deriving DecidableEq, Repr

namespace Segment

/-- The text of a segment, or the name of its placeholder. -/
def chars : Segment → List Char
  | .literal text => text
  | .required name | .rest name | .optional name => name

/-- A segment as it stands in a pattern. -/
def spelled : Segment → List Char
  | .literal text => text
  | .required name => '[' :: (name ++ [']'])
  | .rest name => '[' :: ('.' :: '.' :: '.' :: name ++ [']'])
  | .optional name => '[' :: '[' :: (name ++ [']', ']'])

/-- Whether a segment is a text. -/
def isLiteral : Segment → Bool
  | .literal _ => true
  | _ => false

/-- **A whole segment**: not empty, without brackets and slashes of its own, and the name of a placeholder does not
start with a dot. -/
def IsWhole (s : Segment) : Prop :=
  s.chars ≠ [] ∧ (∀ c ∈ s.chars, isBracket c = false ∧ c ≠ '/') ∧ (s.isLiteral = true ∨ s.chars.head? ≠ some '.')

instance (s : Segment) : Decidable s.IsWhole :=
  decidable_of_iff (s.chars ≠ [] ∧ (s.chars.all fun c => isBracket c = false ∧ c ≠ '/') = true ∧
    (s.isLiteral = true ∨ s.chars.head? ≠ some '.')) <| by
    simp only [IsWhole, List.all_eq_true, decide_eq_true_eq]

/-- The value for a placeholder; `null` is none. -/
def value? (params : Members Json) (s : Segment) : Option Json :=
  (Members.get? (String.ofList s.chars) params).filter fun v => !v.isNull

/-- **Whether a segment is refused**: the value that it needs is missing, or its value is an array or an object. -/
def isRefused (params : Members Json) (s : Segment) : Bool :=
  match s with
  | .literal _ => false
  | .required _ | .rest _ => (s.value? params).elim true Json.isCompound
  | .optional _ => (s.value? params).any Json.isCompound

/-- **The text of a segment in a path**: its own, or that of the value for its placeholder, when there is one. -/
def filled? (params : Members Json) (s : Segment) : Option (List Char) :=
  match s with
  | .literal text => some text
  | .required _ | .rest _ | .optional _ => ((s.value? params).bind Json.scalarText?).map String.toList

/-- The pieces of a segment. -/
def pieces : Segment → List Piece
  | .literal text => text.map .literal
  | .required name | .rest name => [.required (String.ofList name)]
  | .optional name => [.optional (String.ofList name)]

theorem slash_notMem_spelled {s : Segment} (h : s.IsWhole) : '/' ∉ s.spelled := by
  have hchars : '/' ∉ s.chars := fun hmem => (h.2.1 _ hmem).2 rfl
  cases s with
  | literal text => exact hchars
  | required name | rest name | optional name =>
    have hname : '/' ∉ name := hchars
    simpa [spelled] using hname

end Segment

/-- **Segments, each behind a slash**; the root when there are none. -/
def slashed (texts : List (List Char)) : String := String.ofList ('/' :: ['/'].intercalate texts)

/-- `slashed` is `joined` for texts of which there is one at least. -/
theorem slashed_eq_joined {texts : List (List Char)} (hne : texts ≠ []) :
    slashed texts = String.ofList (joined texts) := by
  obtain ⟨t, rest, rfl⟩ := List.exists_cons_of_ne_nil hne
  rw [slashed, ← intercalate_nil_cons, List.intercalate_cons_cons]
  rfl

/-- `segments` of `slashed` `IsWhole` segments are these, behind an empty one. -/
theorem segments_slashed {segs : List Segment} (hne : segs ≠ []) (h : ∀ s ∈ segs, s.IsWhole) :
    segments (slashed (segs.map Segment.spelled)).toList = [] :: segs.map Segment.spelled := by
  rw [slashed_eq_joined (by simpa using hne), String.toList_ofList, ← intercalate_nil_cons, segments_eq_pieces]
  refine Path.pieces_intercalate (by simp) fun t ht => ?_
  rcases List.mem_cons.mp ht with rfl | ht
  · exact List.not_mem_nil
  · obtain ⟨s, hs, rfl⟩ := List.mem_map.mp ht
    exact Segment.slash_notMem_spelled (h s hs)

/-! ## Pieces of segments -/

/-- `placeholderName` drops three dots in front of a name. -/
theorem placeholderName_dots {name : List Char} (hne : name ≠ []) :
    placeholderName ('.' :: '.' :: '.' :: name) = name := by
  obtain ⟨c, rest, rfl⟩ := List.exists_cons_of_ne_nil hne
  rfl

/-- `placeholderName` keeps a name that does not start with a dot. -/
theorem placeholderName_of_head {name : List Char} (h : name.head? ≠ some '.') : placeholderName name = name := by
  unfold placeholderName
  split
  · exact absurd rfl h
  · rfl

/-- `pieces` of a name in double brackets are one `.optional` placeholder. -/
theorem pieces_of_double {name : List Char} (hne : name ≠ []) (h : ∀ c ∈ name, isBracket c = false) :
    pieces ('[' :: '[' :: (name ++ [']', ']'])) = [.optional (String.ofList name)] := by
  obtain ⟨htake, hdrop⟩ : (name ++ [']', ']']).takeWhile (!isBracket ·) = name ∧ _ := span_name h rfl
  obtain ⟨c, cs, rfl⟩ := List.exists_cons_of_ne_nil hne
  refine pieces_of_placeholder? ?_
  rw [placeholder?, double?, htake, hdrop]
  rfl

/-- **`Pattern.pieces` of an `IsWhole` segment**: one placeholder, or the characters of a text. -/
theorem Segment.pieces_spelled {s : Segment} (h : s.IsWhole) : Pattern.pieces s.spelled = s.pieces := by
  obtain ⟨hne, hchars, hdot⟩ := h
  cases s with
  | literal text => exact pieces_of_plain fun c hc => (hchars c hc).1
  | required name =>
    have hname : placeholderName name = name := placeholderName_of_head (hdot.resolve_left Bool.false_ne_true)
    have hpieces : Pattern.pieces ('[' :: (name ++ [']'])) = [.required (String.ofList (placeholderName name))] :=
      pieces_of_bracketed hne fun c hc => (hchars c hc).1
    rw [spelled, hpieces, hname]
    rfl
  | rest name =>
    -- the dots are no brackets either, so they are read with the name
    have hdots : ∀ c ∈ '.' :: '.' :: '.' :: name, isBracket c = false := by
      intro c hc
      simp only [List.mem_cons] at hc
      rcases hc with rfl | rfl | rfl | hc
      · rfl
      · rfl
      · rfl
      · exact (hchars c hc).1
    have hname : placeholderName ('.' :: '.' :: '.' :: name) = name := placeholderName_dots hne
    have hpieces : Pattern.pieces ('[' :: ('.' :: '.' :: '.' :: name ++ [']'])) =
        [.required (String.ofList (placeholderName ('.' :: '.' :: '.' :: name)))] :=
      pieces_of_bracketed (List.cons_ne_nil _ _) hdots
    rw [spelled, hpieces, hname]
    rfl
  | optional name => exact pieces_of_double hne fun c hc => (hchars c hc).1

/-! ## Texts of segments -/

section

variable (params : Members Json)

/-- `valueText` of a value that is there and not `null`: its `scalarText?`, or an error if it `isCompound`. -/
theorem valueText_eq (name : String) :
    valueText params name =
      match (Members.get? name params).filter fun v => !v.isNull with
      | none => .ok none
      | some v => if v.isCompound then .error (.invalid name) else .ok (v.scalarText?.map String.toList) := by
  rw [valueText]
  cases Members.get? name params with
  | none => rfl
  | some v => cases v <;> rfl

theorem render_required (name : String) :
    render params [.required name] =
      (valueText params name).bind fun t => t.elim (.error (.invalid name)) fun t => .ok (t, false) := by
  rw [render]
  cases valueText params name with
  | error e => rfl
  | ok t =>
    cases t with
    | none => rfl
    | some t => exact congrArg (fun text => Except.ok (text, false)) (List.append_nil t)

theorem render_optional (name : String) :
    render params [.optional name] = (valueText params name).map fun t => (t.getD [], t.isNone) := by
  rw [render]
  cases valueText params name with
  | error e => rfl
  | ok t =>
    cases t with
    | none => rfl
    | some t => exact congrArg (fun text => Except.ok (text, false)) (List.append_nil t)

/-- **`render` of a segment**: an error if it `isRefused`, else its `filled?` text, or nothing for want of one. -/
theorem render_segment (s : Segment) :
    render params s.pieces =
      if s.isRefused params then .error (.invalid (String.ofList s.chars))
      else .ok ((s.filled? params).getD [], (s.filled? params).isNone) := by
  cases s with
  | literal text => exact render_literals params text
  | required name | rest name =>
    rw [Segment.pieces, render_required, valueText_eq, Segment.isRefused, Segment.filled?, Segment.value?,
      Segment.chars]
    cases Members.get? (String.ofList name) params with
    | none => rfl
    | some v => cases v <;> rfl
  | optional name =>
    rw [Segment.pieces, render_optional, valueText_eq, Segment.isRefused, Segment.filled?, Segment.value?,
      Segment.chars]
    cases Members.get? (String.ofList name) params with
    | none => rfl
    | some v => cases v <;> rfl

/-- **`renderSegments` of `IsWhole` segments**: their `filled?` texts, those without one left out; or the first segment
that `isRefused`. -/
theorem renderSegments_whole {segs : List Segment} (h : ∀ s ∈ segs, s.IsWhole) :
    renderSegments params (segs.map Segment.spelled) =
      match segs.find? (Segment.isRefused params) with
      | some s => .error (.invalid (String.ofList s.chars))
      | none => .ok (segs.filterMap (Segment.filled? params)) := by
  induction segs with
  | nil => rfl
  | cons s segs ih =>
    have ih := ih fun t ht => h t (List.mem_cons_of_mem _ ht)
    rw [List.map_cons, renderSegments, Segment.pieces_spelled (h s List.mem_cons_self), render_segment, ih, List.find?_cons]
    cases s.isRefused params with
    | true => rfl
    | false =>
      cases segs.find? (Segment.isRefused params) with
      | some t => rfl
      | none =>
        rw [List.filterMap_cons]
        cases s.filled? params <;> rfl

end

/-! ## Paths -/

/-- `pathOf` is `slashed` for texts that are not empty and have no slashes of their own. -/
theorem pathOf_eq_slashed {texts : List (List Char)} (h : ∀ t ∈ texts, t ≠ [] ∧ '/' ∉ t) :
    pathOf texts = slashed texts := by
  cases hlast : texts.getLast? with
  | none =>
    obtain rfl := List.getLast?_eq_none_iff.mp hlast
    rfl
  | some t =>
    have ht : t ∈ texts := List.mem_of_getLast? hlast
    have hne : texts ≠ [] := List.ne_nil_of_mem ht
    obtain ⟨cut, hpath⟩ := exists_isPath hne
    -- the last text ends in no slash, so nothing is trimmed
    obtain rfl : cut = 0 := hpath.cut_eq_zero (fun t ht => (h t ht).2) (.inr ⟨t, hlast, (h t ht).1⟩)
    have hjoined : joined texts = (pathOf texts).toList := by
      rw [hpath.joined_eq, List.replicate_zero, List.append_nil]
    rw [slashed_eq_joined hne, hjoined, String.ofList_toList]

/-- `fill` of `IsWhole` segments: `pathOf` of their `filled?` texts, unless one of them `isRefused`. -/
theorem fill_slashed_eq (params : Members Json) {segs : List Segment} (h : ∀ s ∈ segs, s.IsWhole) :
    fill (slashed (segs.map Segment.spelled)) (some (.object params)) =
      match segs.find? (Segment.isRefused params) with
      | some s => .error (.invalid (String.ofList s.chars))
      | none => .ok (pathOf (segs.filterMap (Segment.filled? params))) := by
  cases segs with
  | nil =>
    -- the pattern is one slash, with nothing on either side
    have hroot : segments (slashed (([] : List Segment).map Segment.spelled)).toList = [[], []] := by decide
    rw [fill, fillChars, hroot, renderSegments, renderSegments, render_pieces_nil, renderSegments]
    rfl
  | cons s segs =>
    rw [fill, fillChars, segments_slashed (List.cons_ne_nil s segs) h, renderSegments, render_pieces_nil,
      renderSegments_whole params h]
    cases (s :: segs).find? (Segment.isRefused params) with
    | some t => rfl
    | none =>
      show Except.ok _ = Except.ok (pathOf _)
      rw [pathOf, ← intercalate_nil_cons]
      rfl

/-- **`fill` of `IsWhole` segments.** It is an error exactly if a segment `isRefused`, and names the first one.
Otherwise, when the texts of the values are not empty and have no slashes, it is `slashed` of the `filled?` texts in
their order: those of the pattern as they are, those of values for placeholders, and none for a placeholder that goes
without a value. -/
theorem fill_slashed {segs : List Segment} (hwhole : ∀ s ∈ segs, s.IsWhole) (params : Members Json) :
    let path := fill (slashed (segs.map Segment.spelled)) (some (.object params))
    ((∃ why, path = .error why) ↔ ∃ s ∈ segs, s.isRefused params = true) ∧
      (∀ why, path = .error why ↔
        ∃ s, segs.find? (Segment.isRefused params) = some s ∧ why = .invalid (String.ofList s.chars)) ∧
      ((∀ s ∈ segs, s.isRefused params = false) →
        (∀ s ∈ segs, s.isLiteral = false → ∀ t ∈ s.filled? params, t ≠ [] ∧ '/' ∉ t) →
        path = .ok (slashed (segs.filterMap (Segment.filled? params)))) := by
  intro path
  have hpath : path = _ := fill_slashed_eq params hwhole
  cases hfind : segs.find? (Segment.isRefused params) with
  | some s =>
    rw [hfind] at hpath
    have hs : s ∈ segs ∧ s.isRefused params = true := ⟨List.mem_of_find?_eq_some hfind, List.find?_some hfind⟩
    -- the path is an error, and the first segment that is refused is the only one it can be about
    refine ⟨⟨fun _ => ⟨s, hs⟩, fun _ => ⟨_, hpath⟩⟩, fun why => ⟨fun hwhy => ⟨s, rfl, ?_⟩, ?_⟩, fun hall _ => ?_⟩
    · exact Except.error.inj (hwhy.symm.trans hpath)
    · rintro ⟨t, ht, rfl⟩
      obtain rfl := Option.some.inj ht
      exact hpath
    · exact absurd hs.2 (Bool.eq_false_iff.mp (hall s hs.1))
  | none =>
    rw [hfind] at hpath
    have hnone : ∀ s ∈ segs, ¬s.isRefused params = true := List.find?_eq_none.mp hfind
    have hok : ∀ why, path ≠ .error why := fun why hwhy => by rw [hpath] at hwhy; cases hwhy
    refine ⟨⟨fun ⟨why, hwhy⟩ => absurd hwhy (hok why), fun ⟨s, hs, href⟩ => absurd href (hnone s hs)⟩,
      fun why => ⟨fun hwhy => absurd hwhy (hok why), fun ⟨_, hs, _⟩ => nomatch hs⟩, fun _ hfilled => ?_⟩
    rw [hpath]
    -- texts of the pattern have no slashes as segments are whole, those of values by assumption
    refine congrArg Except.ok (pathOf_eq_slashed fun t ht => ?_)
    obtain ⟨s, hs, hst⟩ := List.mem_filterMap.mp ht
    cases hliteral : s.isLiteral with
    | false => exact hfilled s hs hliteral t hst
    | true =>
      obtain ⟨hne, hchars, -⟩ := hwhole s hs
      cases s with
      | literal text =>
        obtain rfl : text = t := Option.some.inj hst
        exact ⟨hne, fun hmem => (hchars _ hmem).2 rfl⟩
      | required name | rest name | optional name => cases hliteral

/-- The segments of a pattern with a text and placeholders of the three forms. -/
def docsSegments : List Segment :=
  [.optional "lang".toList, .literal "docs".toList, .required "id".toList, .optional "tab".toList, .rest "path".toList]

/-- Values for the placeholders of `docsSegments`, but for the first one. -/
def docsValues : Members Json :=
  [("id", Json.ofNat 7), ("lang", .null), ("tab", .string "a b"), ("path", .bool true)]

/-- A placeholder that goes without a value leaves no segment behind, and a list is no value for the last one. -/
theorem fill_docs :
    (∀ s ∈ docsSegments, s.IsWhole) ∧
      fill "/[[lang]]/docs/[id]/[[tab]]/[...path]" (some (.object docsValues)) = .ok "/docs/7/a b/true" ∧
      fill "/[[lang]]/docs/[id]/[[tab]]/[...path]" (some (.object [("id", .string "7"), ("path", .array [])])) =
        .error (.invalid "path") := by
  have hwhole : ∀ s ∈ docsSegments, s.IsWhole := by decide
  have hpattern : "/[[lang]]/docs/[id]/[[tab]]/[...path]" = slashed (docsSegments.map Segment.spelled) := by decide
  have hpath : "/docs/7/a b/true" = slashed (docsSegments.filterMap (Segment.filled? docsValues)) := by
    decide +kernel
  rw [hpattern, hpath]
  refine ⟨hwhole, (fill_slashed hwhole docsValues).2.2 (by decide +kernel) (by decide +kernel), ?_⟩
  exact ((fill_slashed hwhole [("id", .string "7"), ("path", .array [])]).2.1 _).mpr
    ⟨.rest "path".toList, by decide +kernel, by decide +kernel⟩

end RouteContracts.Pattern
