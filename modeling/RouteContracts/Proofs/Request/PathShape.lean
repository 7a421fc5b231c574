import RouteContracts.Proofs.Path.Components
import RouteContracts.Request.Pattern

/-! # The shape of a path
Where each segment of a pattern is a text without brackets or a placeholder alone, each segment has one text in the
path: its own, or that of the value for its placeholder, just as it is. So a path has the segments of its pattern
exactly as long as no value brings a slash, and none is lost at the end.

* `Part`, `template`: the segments of such a pattern, and the pattern.
* `fill_template`: **the path of such a pattern, or why it has none.**
* `IsPath`: how a path comes from the texts of its segments.
* `segments_of_fill_template`: **the shape of the path.** `fill_verbatim`: values that change it. -/

namespace RouteContracts.Pattern

/-! ## Segments -/

/-- `segments` of patterns are `Path.pieces`. -/
theorem segments_eq_pieces (s : List Char) : segments s = Path.pieces s := by
  fun_induction Path.pieces s with
  | case1 => rfl
  | case2 rest ih => rw [segments, ih]
  | case3 c rest hc p ps hps ih =>
    rw [segments, ih, hps]
    exact hc
  | case4 c rest hc hps ih => exact absurd hps (Path.pieces_ne_nil rest)

/-- `segments s` has one segment more than `s` has slashes. -/
theorem length_segments (s : List Char) : (segments s).length = s.count '/' + 1 := by
  rw [segments_eq_pieces]
  induction s with
  | nil => rfl
  | cons c s ih =>
    by_cases hc : c = '/'
    · subst hc
      rw [Path.pieces, List.length_cons, ih, List.count_cons_self]
    · obtain ⟨p, ps, hps⟩ := List.exists_cons_of_ne_nil (Path.pieces_ne_nil s)
      rw [hps, List.length_cons] at ih
      rw [Path.pieces_cons_of_ne hc hps, List.length_cons, ih, List.count_cons_of_ne hc]

/-- Texts with a slash in front of each. -/
def joined (texts : List (List Char)) : List Char := texts.flatMap ('/' :: ·)

/-- `intercalate` of slashes behind an empty text is `joined`. -/
theorem intercalate_nil_cons (texts : List (List Char)) : ['/'].intercalate ([] :: texts) = joined texts := by
  induction texts with
  | nil => rfl
  | cons t texts ih =>
    rw [List.intercalate_cons_cons, List.nil_append, List.singleton_append, joined, List.flatMap_cons, List.cons_append,
      ← joined, ← ih]
    cases texts with
    | nil => simp
    | cons u texts => simp [List.intercalate_cons_cons]

/-- The slashes of `joined texts`: one for each text, and those in them. -/
theorem count_joined (texts : List (List Char)) :
    (joined texts).count '/' = texts.length + texts.flatten.count '/' := by
  induction texts with
  | nil => rfl
  | cons t texts ih =>
    rw [joined, List.flatMap_cons, ← joined, List.count_append, List.count_cons_self, ih, List.length_cons,
      List.flatten_cons, List.count_append]
    omega

theorem mem_joined_iff {c : Char} (hc : c ≠ '/') (texts : List (List Char)) :
    c ∈ joined texts ↔ ∃ t ∈ texts, c ∈ t := by
  rw [joined, List.mem_flatMap]
  simp only [List.mem_cons, hc, false_or]

/-! ## Parts of patterns -/

/-- A segment of a pattern with at most one placeholder, which is alone in it. -/
inductive Part where
  /-- A text. -/
  | literal (text : List Char)
  /-- A placeholder that needs a value. -/
  | placeholder (name : List Char)
deriving DecidableEq, Repr

namespace Part

/-- The characters of a part without the brackets of a placeholder. -/
def chars : Part → List Char
  | .literal text => text
  | .placeholder name => name

/-- A part as it stands in a pattern. -/
def spelled : Part → List Char
  | .literal text => text
  | .placeholder name => '[' :: (name ++ [']'])

/-- A part that is not empty, without brackets and slashes of its own. -/
def IsPlain (p : Part) : Prop := p.chars ≠ [] ∧ ∀ c ∈ p.chars, isBracket c = false ∧ c ≠ '/'

instance (p : Part) : Decidable p.IsPlain :=
  decidable_of_iff (p.chars ≠ [] ∧ (p.chars.all fun c => isBracket c = false ∧ c ≠ '/') = true) <| by
    simp only [IsPlain, List.all_eq_true, decide_eq_true_eq]

/-- **The text of a part in a path**: its own, or that of the value for its placeholder. -/
def filled (params : Members Json) : Part → Except FillError (List Char)
  | .literal text => .ok text
  | .placeholder name =>
    match valueText params (String.ofList (placeholderName name)) with
    | .ok (some t) => .ok t
    | .ok none => .error (.invalid (String.ofList (placeholderName name)))
    | .error e => .error e

theorem slash_notMem_spelled {p : Part} (h : p.IsPlain) : '/' ∉ p.spelled := by
  have hchars : '/' ∉ p.chars := fun hmem => (h.2 _ hmem).2 rfl
  cases p with
  | literal text => exact hchars
  | placeholder name =>
    have hname : '/' ∉ name := hchars
    simpa [spelled] using hname

end Part

/-- A pattern of some parts, each behind a slash. -/
def template (parts : List Part) : String := String.ofList (joined (parts.map Part.spelled))

/-- `segments` of `template parts` are the parts, behind an empty one. -/
theorem segments_template {parts : List Part} (hplain : ∀ p ∈ parts, p.IsPlain) :
    segments (template parts).toList = [] :: parts.map Part.spelled := by
  rw [template, String.toList_ofList, ← intercalate_nil_cons, segments_eq_pieces]
  refine Path.pieces_intercalate (by simp) fun s hs => ?_
  rcases List.mem_cons.mp hs with rfl | hs
  · exact List.not_mem_nil
  · obtain ⟨p, hp, rfl⟩ := List.mem_map.mp hs
    exact Part.slash_notMem_spelled (hplain p hp)

/-! ## Pieces of parts -/

/-- `pieces` of a text without brackets are its characters. -/
theorem pieces_of_plain {s : List Char} (h : ∀ c ∈ s, isBracket c = false) : pieces s = s.map Piece.literal := by
  induction s with
  | nil =>
    unfold pieces
    rfl
  | cons c s ih =>
    have hne : c ≠ '[' := by
      rintro rfl
      exact absurd (h _ (List.mem_cons_self ..)) (by decide)
    have hnone : placeholder? (c :: s) = none := by
      rw [placeholder?, double?, single?]
      · rfl
      · exact fun _ heq => hne (List.cons.inj heq).1
      · exact fun _ heq => hne (List.cons.inj heq).1
    rw [pieces, List.map_cons, ← ih fun c hc => h c (List.mem_cons_of_mem _ hc)]
    split
    · next heq =>
      rw [hnone] at heq
      cases heq
    · rfl

/-- `pieces` of a placeholder that nothing follows are that placeholder. -/
theorem pieces_of_placeholder? {s : List Char} {p : Piece} (h : placeholder? s = some (p, [])) : pieces s = [p] := by
  rw [pieces]
  split
  · next heq =>
    rw [h] at heq
    obtain ⟨rfl, rfl⟩ := Prod.mk.inj (Option.some.inj heq)
    rw [pieces_of_plain fun _ hc => absurd hc List.not_mem_nil]
    rfl
  · next heq =>
    rw [h] at heq
    cases heq

/-- `takeWhile` and `dropWhile` part a name from the bracket behind it. -/
theorem span_name {name : List Char} (h : ∀ c ∈ name, isBracket c = false) {behind : List Char}
    (hbehind : behind.head?.all isBracket = true) :
    (name ++ behind).takeWhile (!isBracket ·) = name ∧ (name ++ behind).dropWhile (!isBracket ·) = behind := by
  have hpos : ∀ c ∈ name, (!isBracket c) = true := fun c hc => by rw [h c hc]; rfl
  rw [List.takeWhile_append_of_pos hpos, List.dropWhile_append_of_pos hpos]
  cases behind with
  | nil => exact ⟨List.append_nil _, rfl⟩
  | cons b rest =>
    have hb : (!isBracket b) = false := by
      rw [Bool.not_eq_false']
      exact hbehind
    rw [List.takeWhile_cons, List.dropWhile_cons, hb]
    exact ⟨List.append_nil _, rfl⟩

/-- `pieces` of a name in brackets are one `.required` placeholder. -/
theorem pieces_of_bracketed {name : List Char} (hne : name ≠ []) (h : ∀ c ∈ name, isBracket c = false) :
    pieces ('[' :: (name ++ [']'])) = [.required (String.ofList (placeholderName name))] := by
  obtain ⟨htake, hdrop⟩ : (name ++ [']']).takeWhile (!isBracket ·) = name ∧ _ := span_name h rfl
  obtain ⟨c, cs, rfl⟩ := List.exists_cons_of_ne_nil hne
  -- no second bracket follows the first one, so these are no double brackets
  have hbracket : c ≠ '[' := by
    rintro rfl
    exact absurd (h _ (List.mem_cons_self ..)) (by decide)
  have hdouble : double? ('[' :: (c :: cs ++ [']'])) = none := by
    rw [double?]
    exact fun _ heq => hbracket (List.cons.inj (List.cons.inj heq).2).1
  have hsingle : single? ('[' :: (c :: cs ++ [']'])) =
      some (.required (String.ofList (placeholderName (c :: cs))), []) := by
    rw [single?, htake, hdrop]
    rfl
  refine pieces_of_placeholder? ?_
  rw [placeholder?, hdouble, hsingle]
  rfl

variable (params : Members Json)

theorem render_literals (s : List Char) : render params (s.map Piece.literal) = .ok (s, false) := by
  induction s with
  | nil => rfl
  | cons c s ih =>
    rw [List.map_cons, render, ih]
    rfl

/-- `render` of an empty segment is an empty text, from which nothing is dropped. -/
theorem render_pieces_nil : render params (pieces []) = .ok ([], false) := by
  rw [pieces_of_plain fun _ hc => absurd hc List.not_mem_nil]
  rfl

/-- `render` of an `IsPlain` part is `filled`, of which nothing is ever dropped. -/
theorem render_part {p : Part} (h : p.IsPlain) :
    render params (pieces p.spelled) = (p.filled params).map fun t => (t, false) := by
  cases p with
  | literal text =>
    have hpieces : pieces text = text.map Piece.literal := pieces_of_plain fun c hc => (h.2 c hc).1
    rw [Part.spelled, hpieces, render_literals]
    rfl
  | placeholder name =>
    have hname : pieces ('[' :: (name ++ [']'])) = [.required (String.ofList (placeholderName name))] :=
      pieces_of_bracketed h.1 fun c hc => (h.2 c hc).1
    rw [Part.spelled, hname, render, Part.filled]
    cases valueText params (String.ofList (placeholderName name)) with
    | error e => rfl
    | ok t =>
      cases t with
      | none => rfl
      | some t =>
        show Except.ok (t ++ [], false) = _
        rw [List.append_nil]
        rfl

/-- `renderSegments` of `IsPlain` parts is `filled` of each, in order. -/
theorem renderSegments_parts {parts : List Part} (hplain : ∀ p ∈ parts, p.IsPlain) :
    renderSegments params (parts.map Part.spelled) = parts.mapM (Part.filled params) := by
  induction parts with
  | nil => rfl
  | cons p parts ih =>
    rw [List.map_cons, renderSegments, render_part params (hplain p (List.mem_cons_self ..)),
      ih fun q hq => hplain q (List.mem_cons_of_mem _ hq), List.mapM_cons]
    cases p.filled params with
    | error e => rfl
    | ok t => rfl

theorem length_of_mapM {α β ε : Type} {f : α → Except ε β} {as : List α} {bs : List β} (h : as.mapM f = .ok bs) :
    bs.length = as.length := by
  induction as generalizing bs with
  | nil =>
    obtain rfl : [] = bs := Except.ok.inj h
    rfl
  | cons a as ih =>
    rw [List.mapM_cons] at h
    cases hb : f a with
    | error e =>
      rw [hb] at h
      cases h
    | ok b =>
      cases hbs : as.mapM f with
      | error e =>
        rw [hb, hbs] at h
        cases h
      | ok rest =>
        rw [hb, hbs] at h
        obtain rfl : b :: rest = bs := Except.ok.inj h
        rw [List.length_cons, List.length_cons, ih hbs]

/-! ## Paths -/

/-- The path of the texts of its segments. -/
def pathOf (texts : List (List Char)) : String :=
  if (trimSlashes (joined texts)).isEmpty then "/" else String.ofList (trimSlashes (joined texts))

/-- **`fill (template parts)`** is `pathOf` of the texts that are `filled`, or the first reason why a part has none. -/
theorem fill_template {parts : List Part} (hplain : ∀ p ∈ parts, p.IsPlain) :
    fill (template parts) (some (.object params)) = (parts.mapM (Part.filled params)).map pathOf := by
  -- the empty segment in front of the first slash is kept, for no placeholder is dropped from it
  rw [fill, fillChars, segments_template hplain, renderSegments, render_pieces_nil, renderSegments_parts params hplain]
  cases parts.mapM (Part.filled params) with
  | error e => rfl
  | ok texts =>
    show Except.ok _ = Except.ok (pathOf texts)
    rw [pathOf, ← intercalate_nil_cons]
    rfl

/-- `trimSlashes` drops the slashes at the end, and nothing else. -/
theorem exists_trimSlashes (s : List Char) :
    ∃ cut, s = trimSlashes s ++ List.replicate cut '/' ∧ (trimSlashes s).getLast? ≠ some '/' := by
  let slashes := s.reverse.takeWhile (· == '/')
  refine ⟨slashes.length, ?_, ?_⟩
  · have hslashes : slashes = List.replicate slashes.length '/' :=
      List.eq_replicate_iff.mpr ⟨rfl, fun c hc => by
        simpa using List.all_eq_true.mp List.all_takeWhile c hc⟩
    calc s = (slashes ++ s.reverse.dropWhile (· == '/')).reverse := by
            rw [List.takeWhile_append_dropWhile, List.reverse_reverse]
      _ = trimSlashes s ++ slashes.reverse := List.reverse_append
      _ = trimSlashes s ++ List.replicate slashes.length '/' := by
            rw [hslashes, List.reverse_replicate, List.length_replicate]
  · rw [trimSlashes, List.getLast?_reverse]
    intro h
    have hhead := List.head?_dropWhile_not (· == '/') s.reverse
    rw [h] at hhead
    cases hhead

/-- **How a path comes from the texts of its segments**: slashes at the end are cut off, but for that of the root. -/
structure IsPath (texts : List (List Char)) (path : String) (cut : Nat) : Prop where
  joined_eq : joined texts = path.toList ++ List.replicate cut '/'
  ne_nil : path.toList ≠ []
  trimmed : path = "/" ∨ path.toList.getLast? ≠ some '/'

/-- `pathOf texts` `IsPath` of some `cut`. -/
theorem exists_isPath {texts : List (List Char)} (hne : texts ≠ []) : ∃ cut, IsPath texts (pathOf texts) cut := by
  obtain ⟨cut, heq, hlast⟩ := exists_trimSlashes (joined texts)
  rw [pathOf]
  split
  · -- all is slashes, of which one is left
    next hempty =>
    rw [List.isEmpty_iff.mp hempty, List.nil_append] at heq
    obtain ⟨n, rfl⟩ : ∃ n, cut = n + 1 := by
      refine Nat.exists_eq_succ_of_ne_zero ?_
      rintro rfl
      obtain ⟨t, rest, rfl⟩ := List.exists_cons_of_ne_nil hne
      cases heq
    exact ⟨n, heq, by decide, .inl rfl⟩
  · next hfull =>
    refine ⟨cut, ?_, ?_, .inr ?_⟩
    · rw [String.toList_ofList]
      exact heq
    · rw [String.toList_ofList]
      exact fun h => hfull (List.isEmpty_iff.mpr h)
    · rw [String.toList_ofList]
      exact hlast

namespace IsPath

variable {texts : List (List Char)} {path : String} {cut : Nat}

/-- The segments of a path, and the slashes cut off: one for each text and for each slash in it. -/
theorem length_segments_add (h : IsPath texts path cut) :
    (segments path.toList).length + cut = texts.length + 1 + texts.flatten.count '/' := by
  have hcount := count_joined texts
  rw [h.joined_eq, List.count_append, List.count_replicate_self] at hcount
  rw [length_segments]
  omega

/-- A character other than a slash is in a path exactly if it is in one of the texts. -/
theorem mem_iff (h : IsPath texts path cut) {c : Char} (hc : c ≠ '/') : c ∈ path.toList ↔ ∃ t ∈ texts, c ∈ t := by
  rw [← mem_joined_iff hc, h.joined_eq, List.mem_append]
  constructor
  · exact .inl
  · rintro (hmem | hmem)
    · exact hmem
    · exact absurd (List.eq_of_mem_replicate hmem) hc

/-- `cut = 0` behind a text that is not empty, and for the root. -/
theorem cut_eq_zero (h : IsPath texts path cut) (hslash : ∀ t ∈ texts, '/' ∉ t)
    (hlast : texts = [[]] ∨ ∃ t ∈ texts.getLast?, t ≠ []) : cut = 0 := by
  have heq := h.joined_eq
  rcases hlast with rfl | ⟨t, ht, hne⟩
  · -- the one slash is that of the root
    have hlength := congrArg List.length heq
    have hpos := List.length_pos_iff.mpr h.ne_nil
    rw [List.length_append, List.length_replicate] at hlength
    change 1 = _ at hlength
    omega
  · obtain ⟨init, rfl⟩ := List.getLast?_eq_some_iff.mp ht
    have hjoined : joined (init ++ [t]) = joined init ++ '/' :: t := by
      rw [joined, List.flatMap_append, List.flatMap_singleton, ← joined]
    rw [hjoined] at heq
    cases cut with
    | zero => rfl
    | succ n =>
      -- the last slash that is cut off would be the end of the last text
      have hend := congrArg List.getLast? heq
      rw [List.replicate_succ', ← List.append_assoc, List.getLast?_concat,
        List.getLast?_append_of_ne_nil _ (by simp), List.getLast?_cons_of_ne_nil hne] at hend
      exact absurd (List.mem_of_getLast? hend) (hslash t (List.mem_append_right _ (List.mem_singleton_self t)))

end IsPath

/-- **The shape of `fill (template parts)`.** The path `IsPath` of the texts that are `filled`, which values are in as
they are: its `segments` are one for each part and each slash in a value, less those `cut` at the end. So they are as
many as those of the pattern when no value brings a slash and the last text is not empty or the only one. A question
mark or a number sign is in the path exactly if it is in a text. -/
theorem segments_of_fill_template {parts : List Part} (hne : parts ≠ []) (hplain : ∀ p ∈ parts, p.IsPlain)
    {params : Members Json} {path : String} (h : fill (template parts) (some (.object params)) = .ok path) :
    ∃ texts cut, parts.mapM (Part.filled params) = .ok texts ∧ IsPath texts path cut ∧
      (segments path.toList).length + cut =
        (segments (template parts).toList).length + texts.flatten.count '/' ∧
      ((∀ t ∈ texts, '/' ∉ t) → (texts = [[]] ∨ ∃ t ∈ texts.getLast?, t ≠ []) →
        (segments path.toList).length = (segments (template parts).toList).length) ∧
      ∀ c ∈ ['?', '#'], (c ∈ path.toList ↔ ∃ t ∈ texts, c ∈ t) := by
  rw [fill_template params hplain] at h
  cases htexts : parts.mapM (Part.filled params) with
  | error e =>
    rw [htexts] at h
    cases h
  | ok texts =>
    rw [htexts] at h
    obtain rfl : pathOf texts = path := Except.ok.inj h
    have hlength := length_of_mapM htexts
    have htextsne : texts ≠ [] := by
      rw [← List.length_pos_iff, hlength]
      exact List.length_pos_iff.mpr hne
    obtain ⟨cut, hpath⟩ := exists_isPath htextsne
    have hpattern : (segments (template parts).toList).length = texts.length + 1 := by
      rw [segments_template hplain, List.length_cons, List.length_map, hlength]
    have hcount := hpath.length_segments_add
    refine ⟨texts, cut, rfl, hpath, ?_, fun hslash hlast => ?_, fun c hc => ?_⟩
    · rw [hpattern]
      exact hcount
    · -- without slashes in the values no segment is added, and none is lost at the end
      have hzero : texts.flatten.count '/' = 0 := by
        rw [List.count_eq_zero, List.mem_flatten]
        rintro ⟨t, ht, hmem⟩
        exact hslash t ht hmem
      rw [hpath.cut_eq_zero hslash hlast, hzero] at hcount
      rw [hpattern]
      exact hcount
    · refine hpath.mem_iff ?_
      rintro rfl
      exact absurd hc (by decide)

/-! ## Values in a path -/

/-- The parts of the pattern of a post. -/
def postParts : List Part := [.literal "posts".toList, .placeholder "id".toList]

/-- `fill` of the pattern of a post for an id, whatever it is. -/
theorem fill_post (id : String) : fill (template postParts) (some (.object [("id", .string id)])) =
    .ok (pathOf ["posts".toList, id.toList]) := by
  rw [fill_template _ (by decide)]
  rfl

/-- An id without slashes is one segment, with all its blanks, dots and signs. -/
theorem segments_of_fill_post :
    (postParts ≠ [] ∧ ∀ p ∈ postParts, p.IsPlain) ∧
      fill (template postParts) (some (.object [("id", .string "a b&..=%")])) = .ok "/posts/a b&..=%" ∧
      (segments "/posts/a b&..=%".toList).length = (segments (template postParts).toList).length := by
  have hplain : ∀ p ∈ postParts, p.IsPlain := by decide
  have hfill : fill (template postParts) (some (.object [("id", .string "a b&..=%")])) = .ok "/posts/a b&..=%" :=
    fill_post _
  obtain ⟨texts, cut, htexts, -, -, hlength, -⟩ := segments_of_fill_template (by decide) hplain hfill
  obtain rfl : ["posts".toList, "a b&..=%".toList] = texts := Except.ok.inj htexts
  exact ⟨⟨by decide, hplain⟩, hfill, hlength (by decide) (.inr ⟨_, rfl, by decide⟩)⟩

/-- An id whose path has another number of `segments` than the pattern, or a sign that begins the query or the
fragment. -/
def ChangesShape (id path : String) : Prop :=
  fill "/posts/[id]" (some (.object [("id", .string id)])) = .ok path ∧
    ¬((segments path.toList).length = (segments "/posts/[id]".toList).length ∧
      ∀ c ∈ ['?', '#'], c ∈ path.toList → c ∈ "/posts/[id]".toList)

/-- **Values that change the shape of a path**: slashes in them start segments, an empty one at the end loses its
segment, and question marks and number signs go through. -/
theorem fill_verbatim :
    ChangesShape "a/b" "/posts/a/b" ∧ ChangesShape "" "/posts" ∧ ChangesShape "a?b" "/posts/a?b" ∧
      ChangesShape "a#b" "/posts/a#b" := by
  have hpattern : "/posts/[id]" = template postParts := by decide
  simp only [ChangesShape, hpattern, fill_post]
  refine ⟨⟨by decide, ?_⟩, ⟨by decide, ?_⟩, ⟨by decide, ?_⟩, ⟨by decide, ?_⟩⟩
  · exact fun h => absurd h.1 (by decide)
  · exact fun h => absurd h.1 (by decide)
  · exact fun h => absurd (h.2 '?' (by decide) (by decide)) (by decide)
  · exact fun h => absurd (h.2 '#' (by decide) (by decide)) (by decide)

end RouteContracts.Pattern
