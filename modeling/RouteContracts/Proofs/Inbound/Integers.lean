import RouteContracts.Proofs.Inbound.QueryReading

/-! # Integers in queries
An integer is written into a query by its decimal digits, and a field that converts texts to numbers reads them. An
integer of the signed range comes back as it is. Above it, up to the end of the unsigned range, the digits do not fit
the integers that are read, and the double next to the integer comes back.

* `readNumber?_intText_cases`: what the digits of an integer are read as.
* `Inbound.integer_readBack`: **the integers that come back are those of the signed range.**
* `Inbound.integer_readBack_rounded`: one above it that does not. -/

namespace RouteContracts

/-- `Decimal.digitCount` of an integer in range is at most 20. -/
theorem digitCount_natAbs_le {i : Int} (h : Json.minInteger ≤ i ∧ i ≤ Json.maxInteger) :
    Decimal.digitCount i.natAbs ≤ 20 := by
  by_cases hzero : i.natAbs = 0
  · simp [Decimal.digitCount, hzero]
  · rw [Decimal.digitCount_le_iff hzero (by decide)]
    rw [Json.minInteger, Json.maxInteger] at h
    omega

/-- `Binary64.ofInt?` gives a double for every integer in range. -/
theorem exists_ofInt?_of_range {i : Int} (h : Json.minInteger ≤ i ∧ i ≤ Json.maxInteger) :
    ∃ x, Binary64.ofInt? i = some x := by
  refine Binary64.exists_ofInt? ?_
  by_cases hzero : i.natAbs = 0
  · rw [hzero]
    decide
  · have hlog : i.natAbs.log2 < 64 := by
      rw [Nat.log2_lt hzero]
      rw [Json.minInteger, Json.maxInteger] at h
      omega
    omega

/-- **What `readNumber?` reads in `intText i`**: `.int i` up to `2 ^ 63 - 1`, and above it the double of
`Binary64.ofInt?`. -/
theorem readNumber?_intText_cases {i : Int} (h : Json.minInteger ≤ i ∧ i ≤ Json.maxInteger) :
    ∃ n, readNumber? (Json.Number.intText i) = some n ∧ (n = .int i h ↔ i ≤ 9223372036854775807) ∧
      (9223372036854775807 < i → ∃ x, Binary64.ofInt? i = some x ∧ n = .float x) := by
  have hlow : -9223372036854775808 ≤ i := h.1
  rw [readNumber?_intText_eq]
  by_cases hsigned : i ≤ 9223372036854775807
  · rw [if_pos ⟨hlow, hsigned⟩]
    exact ⟨.int i h, dif_pos h, iff_of_true rfl hsigned, fun hlarge => absurd hsigned (by omega)⟩
  · -- The digits are read as a decimal without places, which is rounded as the integer itself is.
    obtain ⟨x, hx⟩ := exists_ofInt?_of_range h
    have hcount := digitCount_natAbs_le h
    rw [if_neg fun hfits => hsigned hfits.2, Decimal.toRank_natural (by omega)]
    refine ⟨.float x, ?_, iff_of_false nofun hsigned, fun _ => ⟨x, hx, rfl⟩⟩
    rw [Binary64.ofInt?] at hx
    rw [hx]
    rfl

namespace Inbound

/-- **The integers that come back are those of the signed range.** `scalarText?` gives every integer a text, which
`coerceTo .number` makes a number of, and so does every field for numbers that converts its texts, whatever else the
query has. This number is `.int i` exactly if `i ≤ 2 ^ 63 - 1`, and the double of `Binary64.ofInt?` above. -/
theorem integer_readBack {i : Int} (h : Json.minInteger ≤ i ∧ i ≤ Json.maxInteger) :
    ∃ text n, (Json.number (.int i h)).scalarText? = some text ∧ coerceTo .number (.string text) = .number n ∧
      (n = .int i h ↔ i ≤ 9223372036854775807) ∧
      (9223372036854775807 < i → ∃ x, Binary64.ofInt? i = some x ∧ n = .float x) ∧
      ∀ params : Members Json, (∀ m ∈ params, m.2.isNested = false) → (params.map Prod.fst).Nodup →
        ∀ schema fields, declaredSearch? schema = some fields → (fields.map Prod.fst).Nodup →
          ∀ f ∈ fields, Schema.Layered .number true f.2 → Members.get? f.1 params = some (.number (.int i h)) →
            ∃ query, Query.text (some (.object params)) = .ok query ∧ ∀ u : Url, u.query = query →
              ∃ search, searchParams? schema u = some (.object search) ∧
                Schema.checkField f search = ⟨some (.number n), []⟩ := by
  obtain ⟨n, hread, hsigned, hlarge⟩ := readNumber?_intText_cases h
  have hconverted : coerceTo .number (.string (Json.Number.intText i)) = .number n := by
    rw [coerceTo, hread]
    rfl
  refine ⟨_, n, rfl, hconverted, hsigned, hlarge, ?_⟩
  intro params plain paramNames schema fields hdeclared names f hf layered hgiven
  refine ⟨_, Query.text_eq plain, fun u hu => ⟨searchMembers (Query.pairsOf params) fields, ?_, ?_⟩⟩
  · rw [searchParams?, hdeclared, Url.pairs_of_query hu]
    rfl
  · -- The field is neither a list nor a truth value.
    rw [Schema.checkField, get?_searchMembers_pairsOf names hf paramNames hgiven rfl,
      Schema.isArray_of_base layered.base_eq, Schema.isBoolean_of_base layered.base_eq]
    exact layered.check_numberText hread [] []

/-- A record is asked for by its number, and marks may be given. -/
def recordFields : List (String × Schema) :=
  [("marks", .array .string), ("record", .optional (.coerce .number))]

/-- A schema with the search parameters `recordFields`. -/
def recordSchema : Schema := .object [("searchParams", .object recordFields)]

/-- The greatest integer of the signed range, and two marks. -/
def recordParams : Members Json :=
  [("record", .number (.int 9223372036854775807 (by decide))), ("marks", .array [.string "a", .string "b"])]

/-- `2 ^ 63 - 1` comes back from its text, and as a search parameter. -/
theorem integer_readBack_record :
    coerceTo .number (.string "9223372036854775807") = .number (.int 9223372036854775807 (by decide)) ∧
    Query.text (some (.object recordParams)) = .ok (some "record=9223372036854775807&marks=a&marks=b") ∧
    ∃ search, searchParams? recordSchema
        ⟨"http", "", some "h", none, "/", some "record=9223372036854775807&marks=a&marks=b", none⟩ =
          some (.object search) ∧
      Schema.checkField ("record", .optional (.coerce .number)) search =
        ⟨some (.number (.int 9223372036854775807 (by decide))), []⟩ := by
  have plain : ∀ m ∈ recordParams, m.2.isNested = false := by
    intro m hm
    simp only [recordParams, List.mem_cons, List.not_mem_nil, or_false] at hm
    rcases hm with rfl | rfl <;> rfl
  have hwritten : Query.text (some (.object recordParams)) =
      .ok (some "record=9223372036854775807&marks=a&marks=b") := rfl
  obtain ⟨text, n, htext, hconverted, hsigned, -, hfield⟩ :=
    integer_readBack (i := 9223372036854775807) (by decide)
  obtain rfl : text = "9223372036854775807" := (Option.some.inj htext).symm
  obtain rfl := hsigned.mpr (by decide)
  obtain ⟨query, hquery, hread⟩ := hfield recordParams plain (by decide) recordSchema recordFields rfl (by decide)
    ("record", .optional (.coerce .number)) (by simp [recordFields]) (.optional (.coerce .core)) rfl
  obtain rfl := Except.ok.inj (hwritten.symm.trans hquery)
  exact ⟨hconverted, hwritten, hread _ rfl⟩

/-- `2 ^ 63 + 1` comes back as a double of another value. -/
theorem integer_readBack_rounded :
    (Json.number (.int 9223372036854775809 (by decide))).scalarText? = some "9223372036854775809" ∧
    coerceTo .number (.string "9223372036854775809") =
      .number (.float ⟨false, 4890909195324358656, by decide⟩) ∧
    coerceTo .number (.string "9223372036854775809") ≠ .number (.int 9223372036854775809 (by decide)) ∧
    (Json.Number.float ⟨false, 4890909195324358656, by decide⟩).value = 9223372036854775808 := by
  have hconverted : coerceTo .number (.string "9223372036854775809") =
      .number (.float ⟨false, 4890909195324358656, by decide⟩) := rfl
  refine ⟨rfl, hconverted, ?_, ?_⟩
  · rw [hconverted]
    exact nofun
  · have hsignificand : Binary64.significand 4890909195324358656 = 4503599627370496 := rfl
    have hscale : Binary64.scale 4890909195324358656 = 11 := rfl
    rw [Json.Number.value, Binary64.value, Binary64.magnitude, hsignificand, hscale]
    norm_num

end Inbound

end RouteContracts
