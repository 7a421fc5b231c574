import RouteContracts.Proofs.Artifact.Claiming
import RouteContracts.Proofs.Text.WordCase

/-! # Identifiers of fields
An identifier is spelled raw exactly when it is a keyword, and a number behind it leaves the mark of rawness where it
is. That mark is no part of the identifier: `r#type2` and `type2` are spellings of the same one. So the identifiers of
the fields of a record, which differ in their spelling, are the same where a keyword is numbered and a field has the
name that this makes.

* `Text.hash_notMem_snake`: no identifier has the sign of that mark in it.
* `fieldIdent_cases`: keywords and other identifiers.
* `Spelling`: how identifiers are spelled. `Spelling.eq_or_numbered`: **two spellings of one identifier.**
* `IsNumberedKeyword`: a keyword with a number in both spellings. `nodup_identifiers_iff`: **which identifiers
  differ.** -/

namespace RouteContracts

namespace Text

/-! ## Words in lower case -/

theorem ne_hash_of_lt {n : Nat} (h : 0x23 < n) : '#' ≠ Char.ofNat n := by
  intro heq
  have hnat : 0x23 = (Char.ofNat n).toNat := congrArg Char.toNat heq
  unfold Char.ofNat at hnat
  by_cases hvalid : n.isValidChar
  · rw [dif_pos hvalid] at hnat
    exact Nat.ne_of_lt h hnat
  · rw [dif_neg hvalid] at hnat
    exact absurd hnat (by decide)

/-- `lowerChar c` has no number sign for `c ≠ '#'`: no form in the tables is one. -/
theorem hash_notMem_lowerChar {c : Char} (hc : c ≠ '#') : '#' ∉ lowerChar c := by
  rw [lowerChar]
  split
  · next hascii =>
    intro h
    have hlower : c.toLower = '#' → c = '#' := of_ascii (p := fun c => c.toLower = '#' → c = '#') (by decide) hascii
    exact hc (hlower (List.mem_singleton.mp h).symm)
  · -- no form in the tables of lower case is the mark of a raw identifier
    have hruns : ∀ r ∈ lowerRuns, 0x23 < r.2.2.2 := by decide +kernel
    have hsequences : ∀ s ∈ lowerSequences, '#' ∉ s.2.map Char.ofNat := by decide
    unfold mapped
    dsimp only
    split
    · next r hr =>
      intro h
      have hform := hruns r (List.mem_of_find?_eq_some hr)
      exact ne_hash_of_lt (Nat.lt_of_lt_of_le hform (Nat.le_add_right _ _)) (List.mem_singleton.mp h)
    · split
      · next s hs => exact hsequences s (List.mem_of_find?_eq_some hs)
      · intro h
        exact hc (List.mem_singleton.mp h).symm

theorem hash_notMem_lowerWord {w : List Char} (hw : '#' ∉ w) : '#' ∉ lowerWord w := by
  induction w with
  | nil => exact hw
  | cons c w ih =>
    rw [List.mem_cons, not_or] at hw
    unfold lowerWord
    split
    · exact List.not_mem_nil
    · decide
    · next heq =>
      obtain ⟨rfl, rfl⟩ := List.cons.inj heq
      rw [List.mem_append, not_or]
      exact ⟨hash_notMem_lowerChar (Ne.symm hw.1), ih hw.2⟩

/-- **`Text.snake` has no number sign.** -/
theorem hash_notMem_snake (name : String) : '#' ∉ (snake name).toList := by
  have hletter : isAlphanumeric '#' = false := by decide
  rw [snake, String.toList_ofList]
  intro h
  rcases mem_intercalate h with h | ⟨w, hw, h⟩
  · exact absurd h (by decide)
  · obtain ⟨v, hv, rfl⟩ := List.mem_map.mp hw
    refine hash_notMem_lowerWord (fun hmem => ?_) h
    rw [((mem_words hv).2 _ hmem).2] at hletter
    cases hletter

end Text

namespace Artifact

/-! ## Keywords and other identifiers -/

/-- The `reservedWords` consist of lower case letters. -/
theorem isLower_of_mem_reserved {k : String} (hk : k ∈ reservedWords) {c : Char} (hc : c ∈ k.toList) :
    c.isLower = true ∧ c.isDigit = false := by
  have hall : (reservedWords.all fun k => k.toList.all fun c => c.isLower && !c.isDigit) = true := by decide +kernel
  have hletter := List.all_eq_true.mp (List.all_eq_true.mp hall k hk) c hc
  simpa only [Bool.and_eq_true, Bool.not_eq_true'] using hletter

/-- A text with a character that is no lower case letter is none of the `reservedWords`. -/
theorem notMem_reserved {s : String} {c : Char} (hc : c ∈ s.toList) (hlower : c.isLower = false) :
    s ∉ reservedWords := by
  intro hs
  rw [(isLower_of_mem_reserved hs hc).1] at hlower
  cases hlower

theorem hash_notMem_reserved {k : String} (hk : k ∈ reservedWords) : '#' ∉ k.toList := fun h =>
  notMem_reserved h (by decide) hk

/-- **`fieldIdent wireName`** is `rawMark` and a reserved word, or it is no reserved word and has no number sign. -/
theorem fieldIdent_cases (wireName : String) :
    (Text.snake wireName ∈ reservedWords ∧ fieldIdent wireName = rawMark ++ Text.snake wireName) ∨
      '#' ∉ (fieldIdent wireName).toList ∧ fieldIdent wireName ∉ reservedWords := by
  have hhash := Text.hash_notMem_snake wireName
  unfold fieldIdent
  dsimp only
  split
  · refine .inr ⟨?_, ?_⟩
    · rw [String.toList_append, List.mem_append, not_or]
      exact ⟨by decide, hhash⟩
    · -- no reserved word holds an underscore
      refine notMem_reserved (c := '_') ?_ (by decide)
      rw [String.toList_append]
      exact List.mem_append_left _ (by decide)
  · split
    · refine .inr ⟨?_, ?_⟩
      · rw [String.toList_append, List.mem_append, not_or]
        exact ⟨hhash, by decide⟩
      · refine notMem_reserved (c := '_') ?_ (by decide)
        rw [String.toList_append]
        exact List.mem_append_right _ (by decide)
    · split
      · next hreserved => exact .inl ⟨List.contains_iff_mem.mp hreserved, rfl⟩
      · next hreserved => exact .inr ⟨hhash, fun hmem => hreserved (List.contains_iff_mem.mpr hmem)⟩

/-- No reserved word has a digit at its end, raw or not. -/
theorem not_endsWithDigit_reserved {k : String} (hk : k ∈ reservedWords) :
    ¬EndsWithDigit k ∧ ¬EndsWithDigit (rawMark ++ k) := by
  -- the mark and the keywords have no digits at all
  have hnone : ∀ c ∈ (rawMark ++ k).toList, ¬c.isDigit = true := by
    intro c hc hdigit
    rw [String.toList_append] at hc
    rcases List.mem_append.mp hc with hc | hc
    · exact Text.forall_mem_of_all (p := fun c => ¬c.isDigit = true) (by decide) c hc hdigit
    · rw [(isLower_of_mem_reserved hk hc).2] at hdigit
      cases hdigit
  have hlast : ∀ s : String, s.toList ⊆ (rawMark ++ k).toList → ¬EndsWithDigit s := by
    intro s hs h
    rw [EndsWithDigit] at h
    cases hc : s.toList.getLast? with
    | none =>
      rw [hc] at h
      cases h
    | some c =>
      rw [hc] at h
      exact hnone c (hs (List.mem_of_getLast? hc)) h
  refine ⟨hlast k ?_, hlast _ (List.Subset.refl _)⟩
  rw [String.toList_append]
  exact List.subset_append_right ..

/-- `k ++ toString m` has no number sign unless `k` has one. -/
theorem hash_notMem_numbered {k : String} (hk : '#' ∉ k.toList) (m : Nat) : '#' ∉ (k ++ toString m).toList := by
  rw [String.toList_append, List.mem_append, not_or]
  refine ⟨hk, fun h => ?_⟩
  rw [Nat.toString_eq_ofList_toDigits, String.toList_ofList] at h
  exact absurd (Nat.isDigit_of_mem_toDigits (by decide) (by decide) h) (by decide)

/-! ## Marks of rawness -/

theorem withoutRawMark_of_notMem {cs : List Char} (h : '#' ∉ cs) : withoutRawMark cs = cs := by
  unfold withoutRawMark
  split
  · exact absurd (List.mem_cons_of_mem _ (List.mem_cons_self ..)) h
  · rfl

/-- `impliedWireName s = s` where `s` has no number sign. -/
theorem impliedWireName_plain {s : String} (h : '#' ∉ s.toList) : impliedWireName s = s := by
  rw [impliedWireName, withoutRawMark_of_notMem h, String.ofList_toList]

/-- `impliedWireName (rawMark ++ s) = s` where `s` has no number sign. -/
theorem impliedWireName_raw {s : String} (h : '#' ∉ s.toList) : impliedWireName (rawMark ++ s) = s := by
  have hlist : (rawMark ++ s).toList = 'r' :: '#' :: s.toList := by
    rw [String.toList_append]
    rfl
  rw [impliedWireName, hlist, withoutRawMark, withoutRawMark_of_notMem h, String.ofList_toList]

/-! ## Claimed identifiers -/

/-- The spellings of the identifiers of some fields: `claimAll` of their `fieldIdent`s. -/
def fieldIdents (names : List String) : List String := Names.claimAll [] (names.map fieldIdent)

/-- How the identifier of one of some fields is spelled: as a raw keyword, as one with a number, for which two fields
have that keyword, or as it is. -/
inductive Spelling (names : List String) : String → Prop where
  | keyword {k : String} (hk : k ∈ reservedWords) : Spelling names (rawMark ++ k)
  | numbered {k : String} (m : Nat) (hk : k ∈ reservedWords) (htwice : 2 ≤ (names.map Text.snake).count k) :
      Spelling names (rawMark ++ (k ++ toString m))
  | plain {s : String} (hhash : '#' ∉ s.toList) (hplain : s ∉ reservedWords) : Spelling names s

/-- `fieldIdent` gives `rawMark ++ k` only for names with `Text.snake` equal to `k`. -/
theorem count_fieldIdent_le {k : String} (names : List String) :
    (names.map fieldIdent).count (rawMark ++ k) ≤ (names.map Text.snake).count k := by
  rw [List.count_eq_countP, List.count_eq_countP, List.countP_map, List.countP_map]
  refine List.countP_mono_left fun wireName _ heq => ?_
  simp only [Function.comp_apply, beq_iff_eq] at heq ⊢
  rcases fieldIdent_cases wireName with ⟨-, hraw⟩ | ⟨hhash, -⟩
  · rw [hraw] at heq
    exact (String.append_right_inj rawMark).mp heq
  · rw [heq, String.toList_append, List.mem_append, not_or] at hhash
    exact absurd (by decide) hhash.1

/-- **Each of `fieldIdents names` has a `Spelling`.** -/
theorem spelling_of_mem {names : List String} {s : String} (h : s ∈ fieldIdents names) : Spelling names s := by
  obtain ⟨base, hbase, hs⟩ := Names.exists_of_mem_claimAll h
  obtain ⟨wireName, -, hbase⟩ := List.mem_map.mp hbase
  rcases fieldIdent_cases wireName with ⟨hreserved, hraw⟩ | ⟨hhash, hplain⟩
  · rw [← hbase, hraw] at hs
    rcases hs with rfl | ⟨⟨m, rfl⟩, hwhy⟩
    · exact .keyword hreserved
    · rw [String.append_assoc]
      refine .numbered m hreserved ?_
      rcases hwhy with hmem | hcount | hdigit
      · exact absurd hmem List.not_mem_nil
      · exact Nat.le_trans hcount (count_fieldIdent_le names)
      · exact absurd hdigit (not_endsWithDigit_reserved hreserved).2
  · rw [hbase] at hhash hplain
    rcases hs with rfl | ⟨⟨m, rfl⟩, -⟩
    · exact .plain hhash hplain
    · -- no keyword ends with a digit
      refine .plain (hash_notMem_numbered hhash m) fun hmem => ?_
      exact (not_endsWithDigit_reserved hmem).1 (Names.endsWithDigit_numbered base m)

/-- **Two spellings `a` and `b` of one identifier** are the same, or they are `rawMark ++ (k ++ toString m)` and `k ++
toString m` for a reserved word `k` that two fields have. -/
theorem Spelling.eq_or_numbered {names : List String} {a b : String} (ha : Spelling names a) (hb : Spelling names b)
    (hab : impliedWireName a = impliedWireName b) :
    a = b ∨ ∃ k ∈ reservedWords, ∃ m : Nat, 2 ≤ (names.map Text.snake).count k ∧
      (a = rawMark ++ (k ++ toString m) ∧ b = k ++ toString m ∨
        b = rawMark ++ (k ++ toString m) ∧ a = k ++ toString m) := by
  -- only the number behind a keyword leaves room for both spellings: without it a plain one is never a keyword
  cases ha with
  | keyword hk =>
    rw [impliedWireName_raw (hash_notMem_reserved hk)] at hab
    cases hb with
    | keyword hk' =>
      rw [impliedWireName_raw (hash_notMem_reserved hk')] at hab
      exact .inl (by rw [hab])
    | numbered m hk' =>
      rw [impliedWireName_raw (hash_notMem_numbered (hash_notMem_reserved hk') m)] at hab
      exact .inl (by rw [hab])
    | plain hhash hplain =>
      rw [impliedWireName_plain hhash] at hab
      exact absurd (hab ▸ hk) hplain
  | numbered m hk htwice =>
    rw [impliedWireName_raw (hash_notMem_numbered (hash_notMem_reserved hk) m)] at hab
    cases hb with
    | keyword hk' =>
      rw [impliedWireName_raw (hash_notMem_reserved hk')] at hab
      exact .inl (by rw [hab])
    | numbered m' hk' =>
      rw [impliedWireName_raw (hash_notMem_numbered (hash_notMem_reserved hk') m')] at hab
      exact .inl (by rw [hab])
    | plain hhash hplain =>
      rw [impliedWireName_plain hhash] at hab
      exact .inr ⟨_, hk, m, htwice, .inl ⟨rfl, hab.symm⟩⟩
  | plain hhash hplain =>
    rw [impliedWireName_plain hhash] at hab
    cases hb with
    | keyword hk =>
      rw [impliedWireName_raw (hash_notMem_reserved hk)] at hab
      exact absurd (hab ▸ hk) hplain
    | numbered m hk htwice =>
      rw [impliedWireName_raw (hash_notMem_numbered (hash_notMem_reserved hk) m)] at hab
      exact .inr ⟨_, hk, m, htwice, .inr ⟨rfl, hab⟩⟩
    | plain hhash' =>
      rw [impliedWireName_plain hhash'] at hab
      exact .inl hab

/-- A keyword with a number of which `idents` has both forms, the raw one and the plain one. -/
def IsNumberedKeyword (idents : List String) (s : String) : Prop :=
  (∃ k ∈ reservedWords, ∃ m : Nat, s = k ++ toString m) ∧ rawMark ++ s ∈ idents ∧ s ∈ idents

/-- **Which identifiers differ.** `fieldIdents names` has no duplicates. Neither has its image under `impliedWireName`,
unless some `s` `IsNumberedKeyword`. For that, two fields must have the same reserved word as `Text.snake`. -/
theorem nodup_identifiers_iff (names : List String) :
    (fieldIdents names).Nodup ∧
      (((fieldIdents names).map impliedWireName).Nodup ↔ ∀ s, ¬IsNumberedKeyword (fieldIdents names) s) ∧
      ((∀ k ∈ reservedWords, (names.map Text.snake).count k ≤ 1) →
        ((fieldIdents names).map impliedWireName).Nodup) := by
  have hnodup : (fieldIdents names).Nodup := (Names.nodup_claimAll [] _).1
  constructor
  · exact hnodup
  constructor
  · constructor
    · -- both spellings are there, and they differ in the mark
      rintro h s ⟨⟨k, hk, m, rfl⟩, hraw, hplain⟩
      have hhash := hash_notMem_numbered (hash_notMem_reserved hk) m
      have heq := List.inj_on_of_nodup_map h hraw hplain (by
        rw [impliedWireName_raw hhash, impliedWireName_plain hhash])
      rw [← heq, String.toList_append, List.mem_append, not_or] at hhash
      exact hhash.1 (by decide)
    · intro h
      refine List.Nodup.map_on (fun a ha b hb hab => ?_) hnodup
      rcases (spelling_of_mem ha).eq_or_numbered (spelling_of_mem hb) hab with
        hab | ⟨k, hk, m, -, ⟨rfl, rfl⟩ | ⟨rfl, rfl⟩⟩
      · exact hab
      · exact absurd ⟨⟨k, hk, m, rfl⟩, ha, hb⟩ (h _)
      · exact absurd ⟨⟨k, hk, m, rfl⟩, hb, ha⟩ (h _)
  · -- a number comes only behind a keyword that two fields have
    intro h
    refine List.Nodup.map_on (fun a ha b hb hab => ?_) hnodup
    rcases (spelling_of_mem ha).eq_or_numbered (spelling_of_mem hb) hab with hab | ⟨k, hk, m, htwice, -⟩
    · exact hab
    · have hle := h k hk
      omega

end Artifact

end RouteContracts
