import Mathlib.Data.List.TakeWhile
import RouteContracts.Proofs.Request.Form
import RouteContracts.Url.Reader

/-! # Queries of URLs
Whatever stands in front of it, a query that is written behind a text without question marks and number signs is
the query of the URL: each part of a URL ends at the question mark, and the characters of a form-encoded text
stand for themselves.

* `Url.ofText?_query`: **the query of a URL is the one behind its address.**
* `Url.query_of_ofText?`, `Url.pairs_of_ofText?`: **the query that was written, and its pairs, are read back.** -/

namespace RouteContracts.Url

/-! ## Texts with a query behind them -/

/-- `?` and the query, if there is one. -/
def queryTail : Option (List Char) → List Char
  | none => []
  | some q => '?' :: q

/-- A text without `?` and `#`: no query and no fragment begins in it. -/
def IsAddress (a : List Char) : Prop := ∀ c ∈ a, endsPath c = false

theorem IsAddress.of_sublist {a b : List Char} (hb : IsAddress b) (h : a.Sublist b) : IsAddress a :=
  fun c hc => hb c (h.subset hc)

variable {q : Option (List Char)}

/-- `dropWhile p` of an address and a query leaves the whole query, where `p '?' = false`. -/
theorem dropWhile_append {p : Char → Bool} (hp : p '?' = false) (a : List Char) :
    (a ++ queryTail q).dropWhile p = a.dropWhile p ++ queryTail q := by
  induction a with
  | nil => cases q <;> simp [queryTail, hp]
  | cons c a ih => cases hc : p c <;> simp [hc, ih]

/-- `upTo ends` of an address and a query ends in front of the query at the latest, where `ends '?' = true`. -/
theorem upTo_append {ends : Char → Bool} (hends : ends '?' = true) (a : List Char) :
    upTo ends (a ++ queryTail q) = ((upTo ends a).1, (upTo ends a).2 ++ queryTail q) := by
  have htake : ((a ++ queryTail q).takeWhile fun c => !ends c) = a.takeWhile fun c => !ends c := by
    induction a with
    | nil => cases q <;> simp [queryTail, hends]
    | cons c a ih => cases hc : ends c <;> simp [hc, ih]
  rw [upTo, htake, dropWhile_append (by rw [hends]; rfl)]
  rfl

/-- A character other than `?` in front of `a ++ queryTail q` is the first one of `a`. -/
theorem append_eq_cons {a rest : List Char} {c : Char} (h : a ++ queryTail q = c :: rest) (hc : c ≠ '?') :
    ∃ b, a = c :: b ∧ rest = b ++ queryTail q := by
  cases a with
  | nil =>
    cases q with
    | none => cases h
    | some s => exact absurd (List.cons.inj h).1.symm hc
  | cons d b =>
    obtain ⟨rfl, rfl⟩ := List.cons.inj h
    exact ⟨b, rfl, rfl⟩

theorem IsAddress.upTo {a : List Char} (h : IsAddress a) (ends : Char → Bool) : IsAddress (upTo ends a).2 :=
  h.of_sublist (List.dropWhile_sublist _)

/-- `upTo endsPath` reads the whole address, and leaves the query. -/
theorem IsAddress.upTo_endsPath {a : List Char} (h : IsAddress a) :
    Url.upTo endsPath (a ++ queryTail q) = (a, queryTail q) := by
  have hkeep : ∀ c ∈ a, (!endsPath c) = true := fun c hc => by rw [h c hc]; rfl
  rw [Url.upTo, List.takeWhile_append_of_pos hkeep, List.dropWhile_append_of_pos hkeep]
  cases q <;> simp [queryTail, endsPath]

/-! ## Reading a URL with a query behind it -/

/-- Neither `isEdge` nor `isDropped` takes a character of the query away. -/
theorem filter_queryTail (hq : ∀ s ∈ q, ∀ c ∈ s, 0x20 < c.toNat) :
    (∀ a, ((a ++ queryTail q).reverse.dropWhile isEdge).reverse =
          (if q.isSome then a else (a.reverse.dropWhile isEdge).reverse) ++ queryTail q) ∧
      (queryTail q).filter (fun c => !isDropped c) = queryTail q := by
  cases q with
  | none => simp [queryTail]
  | some s =>
    have hchars : ∀ c ∈ '?' :: s, isEdge c = false ∧ isDropped c = false := by
      intro c hc
      have hlow : 0x20 < c.toNat := by
        rcases List.mem_cons.mp hc with rfl | hc
        · decide
        · exact hq s rfl c hc
      refine ⟨by simpa [isEdge] using hlow, ?_⟩
      simp only [isDropped, Bool.or_eq_false_iff, beq_eq_false_iff_ne]
      refine ⟨⟨?_, ?_⟩, ?_⟩ <;> rintro rfl <;> exact absurd hlow (by decide)
    refine ⟨fun a => ?_, ?_⟩
    · -- The last character of the query is none of those that are dropped at the ends.
      have hback : ∀ b : List Char, ((s.reverse ++ ['?']) ++ b).dropWhile isEdge = (s.reverse ++ ['?']) ++ b := by
        intro b
        cases hs : s.reverse with
        | nil => simp [(hchars '?' (List.mem_cons_self ..)).1]
        | cons c rest =>
          have hc : c ∈ s := List.mem_reverse.mp (hs ▸ List.mem_cons_self ..)
          simp [(hchars c (List.mem_cons_of_mem _ hc)).1]
      simp only [queryTail, List.reverse_append, List.reverse_cons, hback, Option.isSome_some, if_true]
      simp
    · rw [queryTail, List.filter_eq_self]
      intro c hc
      rw [(hchars c hc).2]
      rfl

/-- `counted (a ++ queryTail q)` is an address and the same query. -/
theorem counted_append {a : List Char} (ha : IsAddress a) (hq : ∀ s ∈ q, ∀ c ∈ s, 0x20 < c.toNat) :
    ∃ b, IsAddress b ∧ counted (a ++ queryTail q) = b ++ queryTail q := by
  obtain ⟨hback, hfilter⟩ := filter_queryTail hq
  rw [counted, dropWhile_append (by decide), hback, List.filter_append, hfilter]
  refine ⟨_, IsAddress.of_sublist (ha.of_sublist (List.dropWhile_sublist isEdge))
    (List.filter_sublist.trans ?_), rfl⟩
  split
  · exact List.Sublist.refl _
  · exact List.reverse_sublist.mp (by rw [List.reverse_reverse]; exact List.dropWhile_sublist _)

/-- What `scheme?` leaves is an address and the same query. -/
theorem scheme?_append {a : List Char} (ha : IsAddress a) {scheme : String} {rest : List Char}
    (h : scheme? (a ++ queryTail q) = some (scheme, rest)) : ∃ b, IsAddress b ∧ rest = b ++ queryTail q := by
  cases a with
  | nil =>
    cases q with
    | none => cases h
    | some s => cases h
  | cons c a =>
    rw [List.cons_append, scheme?] at h
    split at h
    · rw [← List.cons_append, upTo_append (by decide)] at h
      split at h
      · next name more heq =>
        obtain ⟨-, hmore⟩ := Prod.mk.inj heq
        obtain ⟨-, rfl⟩ := Prod.mk.inj (Option.some.inj h)
        have hfree := ha.upTo fun c => !isInScheme c
        obtain ⟨b, hsnd, hrest⟩ := append_eq_cons hmore (by decide)
        rw [hsnd] at hfree
        exact ⟨b, hfree.of_sublist (List.sublist_cons_self ..), hrest⟩
      · cases h
    · cases h

theorem withAuthority?_query {a : List Char} (ha : IsAddress a) {scheme : String} {kind : SchemeKind} {u : Url}
    (h : withAuthority? scheme kind (a ++ queryTail q) = some u) :
    u.query = (queryAndFragment kind (queryTail q)).1 := by
  have hends : endsAuthority kind '?' = true := by cases kind <;> decide
  simp only [withAuthority?, upTo_append hends, (ha.upTo _).upTo_endsPath] at h
  obtain ⟨authority, -, h⟩ := Option.bind_eq_some_iff.mp h
  obtain rfl := Option.some.inj h
  rfl

theorem withoutHost_query {a : List Char} (ha : IsAddress a) (scheme : String) :
    (withoutHost scheme (a ++ queryTail q)).query = (queryAndFragment .other (queryTail q)).1 := by
  simp only [withoutHost, ha.upTo_endsPath]

/-- What `fileHost?` leaves is an address and the same query. -/
theorem fileHost?_append {a : List Char} (ha : IsAddress a) {host : String} {rest : List Char}
    (h : fileHost? (a ++ queryTail q) = some (host, rest)) : ∃ b, IsAddress b ∧ rest = b ++ queryTail q := by
  simp only [fileHost?, upTo_append (show endsAuthority .file '?' = true by decide)] at h
  split at h
  · obtain ⟨-, rfl⟩ := Prod.mk.inj (Option.some.inj h)
    refine ⟨'/' :: a, fun c hc => ?_, rfl⟩
    rcases List.mem_cons.mp hc with rfl | hc
    · decide
    · exact ha c hc
  · split at h
    · obtain ⟨-, rfl⟩ := Prod.mk.inj (Option.some.inj h)
      exact ⟨_, ha.upTo _, rfl⟩
    · obtain ⟨name, -, h⟩ := Option.map_eq_some_iff.mp h
      obtain ⟨-, rfl⟩ := Prod.mk.inj h
      exact ⟨_, ha.upTo _, rfl⟩

theorem ofFile?_query {a : List Char} (ha : IsAddress a) {u : Url} (h : ofFile? (a ++ queryTail q) = some u) :
    u.query = (queryAndFragment .file (queryTail q)).1 := by
  simp only [ofFile?] at h
  split at h
  · next x y more heq =>
    split at h
    · next hslash =>
      obtain ⟨hx, hy⟩ := Bool.and_eq_true_iff.mp hslash
      -- two slashes begin a host; they are not of the query, so they are of the address
      have hmark : ∀ c : Char, (c == '/' || c == '\\') = true → c ≠ '?' := by
        rintro c hc rfl
        exact absurd hc (by decide)
      obtain ⟨b, rfl, hmore⟩ := append_eq_cons heq (hmark x hx)
      obtain ⟨b, rfl, rfl⟩ := append_eq_cons hmore.symm (hmark y hy)
      obtain ⟨⟨host, rest⟩, hhost, h⟩ := Option.bind_eq_some_iff.mp h
      obtain ⟨b, hb, rfl⟩ :=
        fileHost?_append (ha.of_sublist ((List.sublist_cons_self ..).trans (List.sublist_cons_self ..))) hhost
      simp only [hb.upTo_endsPath] at h
      obtain rfl := Option.some.inj h
      rfl
    · simp only [Option.bind_eq_bind, Option.bind_some, ha.upTo_endsPath] at h
      obtain rfl := Option.some.inj h
      rfl
  · simp only [Option.bind_eq_bind, Option.bind_some, ha.upTo_endsPath] at h
    obtain rfl := Option.some.inj h
    rfl

/-- **`u.query` is what `queryAndFragment` reads of the query behind the address**, for the kind of its scheme. -/
theorem ofText?_query {a : List Char} (ha : IsAddress a) (hq : ∀ s ∈ q, ∀ c ∈ s, 0x20 < c.toNat) {u : Url}
    (h : ofText? (String.ofList (a ++ queryTail q)) = some u) :
    ∃ kind, u.query = (queryAndFragment kind (queryTail q)).1 := by
  obtain ⟨b, hb, hcounted⟩ := counted_append ha hq
  rw [ofText?, String.toList_ofList, hcounted] at h
  obtain ⟨⟨scheme, rest⟩, hscheme, h⟩ := Option.bind_eq_some_iff.mp h
  obtain ⟨b, hb, rfl⟩ := scheme?_append hb hscheme
  dsimp only at h
  split at h
  · exact ⟨_, ofFile?_query hb h⟩
  · rw [dropWhile_append (by decide)] at h
    exact ⟨_, withAuthority?_query (hb.of_sublist (List.dropWhile_sublist _)) h⟩
  · split at h
    · next more heq =>
      obtain ⟨b, rfl, hmore⟩ := append_eq_cons heq (by decide)
      obtain ⟨b, rfl, rfl⟩ := append_eq_cons hmore.symm (by decide)
      exact ⟨_, withAuthority?_query
        (hb.of_sublist ((List.sublist_cons_self ..).trans (List.sublist_cons_self ..))) h⟩
    · obtain rfl := Option.some.inj h
      exact ⟨_, withoutHost_query hb scheme⟩

/-! ## Form-encoded queries -/

/-- `PercentEncoding.encode` leaves a form-encoded text as it is, in the query of either kind of scheme. -/
theorem encode_form {part : PercentEncoding.Part} (hpart : part = .query ∨ part = .commonQuery)
    (pairs : List (String × String)) :
    PercentEncoding.encode part (Form.encodePairs pairs).toList = (Form.encodePairs pairs).toList := by
  have hkeeps : ∀ c ∈ (Form.encodePairs pairs).toList, PercentEncoding.encodeChar part c = [c] := by
    intro c hc
    obtain ⟨hlow, hhigh, hmem⟩ := Form.encodePairs_chars pairs c hc
    have hspace : c ≠ ' ' := by
      rintro rfl
      exact absurd hlow (by decide)
    -- a form has no blank in it, and no other character that a query encodes
    have hkeep : part.keeps c = true := by
      simp only [PercentEncoding.Part.keeps, Bool.and_eq_true, decide_eq_true_eq, Bool.not_eq_true',
        List.contains_eq_mem, decide_eq_false_iff_not]
      refine ⟨⟨by omega, hhigh⟩, fun h => hmem ?_⟩
      have hencoded : c ∈ [' ', '"', '#', '<', '>', '\''] := by
        rcases hpart with rfl | rfl
        · exact List.mem_append_left ['\''] h
        · exact h
      simp only [List.mem_cons, List.not_mem_nil, or_false, hspace, false_or] at hencoded
      rcases hencoded with rfl | rfl | rfl | rfl | rfl <;> decide
    exact if_pos hkeep
  rw [PercentEncoding.encode]
  generalize (Form.encodePairs pairs).toList = cs at hkeeps
  induction cs with
  | nil => rfl
  | cons c cs ih =>
    rw [List.flatMap_cons, hkeeps c (List.mem_cons_self ..), ih fun d hd => hkeeps d (List.mem_cons_of_mem _ hd)]
    rfl

/-- `queryAndFragment` reads a form-encoded query as it is written, for either kind of scheme. -/
theorem queryAndFragment_form (kind : SchemeKind) (pairs : List (String × String)) :
    (queryAndFragment kind (queryTail (some (Form.encodePairs pairs).toList))).1 = some (Form.encodePairs pairs) := by
  have hkeep : ∀ c ∈ (Form.encodePairs pairs).toList, (!(c == '#')) = true := by
    intro c hc
    obtain ⟨-, -, hmem⟩ := Form.encodePairs_chars pairs c hc
    have hne : c ≠ '#' := fun heq => hmem (heq ▸ List.mem_cons_self ..)
    simp [hne]
  have hpart : ∀ part, part = .query ∨ part = .commonQuery →
      String.ofList (PercentEncoding.encode part (Form.encodePairs pairs).toList) = Form.encodePairs pairs := by
    intro part hpart
    rw [encode_form hpart, String.ofList_toList]
  have hquery : (upTo (· == '#') (Form.encodePairs pairs).toList).1 = (Form.encodePairs pairs).toList :=
    List.takeWhile_eq_self_iff.mpr hkeep
  simp only [queryAndFragment, queryTail, hquery]
  cases kind with
  | common => exact congrArg some (hpart .commonQuery (.inr rfl))
  | file => exact congrArg some (hpart .commonQuery (.inr rfl))
  | other => exact congrArg some (hpart .query (.inl rfl))

/-- `u.pairs = pairs` where `u.query` is their form encoding. -/
theorem pairs_of_query {pairs : List (String × String)} {u : Url}
    (h : u.query = if pairs.isEmpty then none else some (Form.encodePairs pairs)) : u.pairs = pairs := by
  rw [Url.pairs, h, Form.elim_decodePairs]

/-- **`u.query` is the form encoding that was written behind an address**, and there is none for no pairs. -/
theorem query_of_ofText? {address : String} (haddress : ∀ c ∈ address.toList, c ≠ '?' ∧ c ≠ '#')
    {pairs : List (String × String)} {u : Url}
    (h : ofText? (address ++
      (if pairs.isEmpty then none else some (Form.encodePairs pairs)).elim "" ("?" ++ ·)) = some u) :
    u.query = if pairs.isEmpty then none else some (Form.encodePairs pairs) := by
  have haddress' : IsAddress address.toList := by
    intro c hc
    obtain ⟨hmark, hsign⟩ := haddress c hc
    simp [endsPath, hmark, hsign]
  cases pairs with
  | nil =>
    have htext : address ++ "" = String.ofList (address.toList ++ queryTail none) := by
      simp [queryTail]
    obtain ⟨kind, hquery⟩ := ofText?_query (q := none) haddress' (by simp) (htext ▸ h)
    rw [hquery]
    rfl
  | cons p pairs =>
    have htext : address ++ ("?" ++ Form.encodePairs (p :: pairs)) =
        String.ofList (address.toList ++ queryTail (some (Form.encodePairs (p :: pairs)).toList)) := by
      rw [← String.toList_inj]
      simp only [String.toList_append, String.toList_ofList, queryTail]
      rfl
    have hchars : ∀ s ∈ some (Form.encodePairs (p :: pairs)).toList, ∀ c ∈ s, 0x20 < c.toNat := by
      rintro s ⟨⟩ c hc
      exact (Form.encodePairs_chars _ c hc).1
    obtain ⟨kind, hquery⟩ := ofText?_query haddress' hchars (htext ▸ h)
    rw [hquery, queryAndFragment_form]
    rfl

/-- **`u.pairs = pairs`**: the pairs that were written behind an address are read back. -/
theorem pairs_of_ofText? {address : String} (haddress : ∀ c ∈ address.toList, c ≠ '?' ∧ c ≠ '#')
    {pairs : List (String × String)} {u : Url}
    (h : ofText? (address ++
      (if pairs.isEmpty then none else some (Form.encodePairs pairs)).elim "" ("?" ++ ·)) = some u) :
    u.pairs = pairs :=
  pairs_of_query (query_of_ofText? haddress h)

end RouteContracts.Url
