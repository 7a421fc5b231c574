import RouteContracts.Proofs.Artifact.Identifiers
import RouteContracts.Proofs.Artifact.Spelling

/-! # Legal identifiers
The identifier of a field is made from a name of any kind: its words in lower case, a word in front where that is
needed, a mark where it is a keyword, and a number where it is taken. What comes out is legal, and the search for the
number ends, though nothing bounds it.

* `IsLegal`: the spellings that identifiers may have.
* `Names.Finds`, `Names.ClaimsAll`: the search for a free number, and names claimed one after another by it.
  `Names.claimsAll_iff`: **the search ends, with one answer.**
* `legal_fieldIdents`: **the identifiers of fields with ASCII names are legal and differ.** -/

namespace RouteContracts

namespace Artifact

open Source

/-! ## Legal spellings -/

/-- The keywords that are in use. -/
def usedKeywords : List String :=
  ["as", "async", "await", "break", "const", "continue", "crate", "dyn", "else", "enum", "extern", "false", "fn",
   "for", "if", "impl", "in", "let", "loop", "match", "mod", "move", "mut", "pub", "ref", "return", "self", "Self",
   "static", "struct", "super", "trait", "true", "type", "unsafe", "use", "where", "while"]

/-- The keywords that are kept for later use. -/
def keptKeywords : List String :=
  ["abstract", "become", "box", "do", "final", "gen", "macro", "override", "priv", "try", "typeof", "unsized",
   "virtual", "yield"]

/-- A word that is no identifier unless it is written raw. -/
def IsKeyword (s : String) : Prop := s ∈ usedKeywords ∨ s ∈ keptKeywords

/-- **The spellings that an identifier may have.** A lone underscore is none; keywords are written raw, except those
that name a place in a path, which cannot be identifiers at all. -/
inductive IsLegal : String → Prop where
  | plain {s : String} (ident : Text.isIdent s.toList = true) (named : s ≠ "_") (free : ¬IsKeyword s) : IsLegal s
  | raw {s : String} (ident : Text.isIdent s.toList = true) (named : s ≠ "_")
      (rawable : s ∉ ["self", "Self", "super", "crate"]) : IsLegal (rawMark ++ s)

/-- `isName s` implies `IsLegal s`, but for the keyword `gen`, which is too young to be among those that are refused. -/
theorem isLegal_of_isName {s : String} (hs : isName s = true) (hgen : s ≠ "gen") : IsLegal s := by
  have hnever : ∀ k, k = "_" ∨ k ∈ ["self", "Self", "super", "crate"] → k ∈ Lexer.neverRaw := by
    rintro k (rfl | hk)
    · decide
    · exact (by decide : ["self", "Self", "super", "crate"] ⊆ Lexer.neverRaw) hk
  have hused : ∀ k ∈ usedKeywords, k ∈ Peek.reserved := by decide +kernel
  have hkept : ∀ k ∈ keptKeywords, k = "gen" ∨ k ∈ Peek.reserved := by decide +kernel
  unfold isName at hs
  split at hs
  · next rest hlist =>
    -- raw: the words that are refused there are those that are never raw
    rw [Bool.and_eq_true, Bool.not_eq_true', ← Bool.not_eq_true, List.contains_iff_mem] at hs
    have heq : s = rawMark ++ String.ofList rest := by
      rw [← String.toList_inj, hlist, String.toList_append, String.toList_ofList]
      rfl
    rw [heq]
    refine .raw (by rw [String.toList_ofList]; exact hs.1) (fun h => ?_) fun h => ?_
    · exact hs.2 (hnever _ (.inl h))
    · exact hs.2 (hnever _ (.inr h))
  · -- plain: all keywords are refused, but for the young one
    rw [isPlainName, String.ofList_toList, Bool.and_eq_true, Bool.not_eq_true', ← Bool.not_eq_true,
      List.contains_iff_mem] at hs
    refine .plain hs.1 (fun h => ?_) ?_
    · exact hs.2 (h ▸ by decide)
    · rintro (hk | hk)
      · exact hs.2 (hused s hk)
      · exact (hkept s hk).elim hgen hs.2

/-! ## Names claimed one after another -/

namespace Names

variable {taken : Names} {base : String}

/-- **The search for a number that makes a name free**: from some number on, each is tried, with no bound. -/
inductive Finds (taken : Names) (base : String) : Nat → String → Prop where
  | free {n : Nat} (h : base ++ toString n ∉ taken) : Finds taken base n (base ++ toString n)
  | next {n : Nat} {s : String} (h : base ++ toString n ∈ taken) (hs : Finds taken base (n + 1) s) :
      Finds taken base n s

/-- A name is claimed as it is, or with the first number from 2 that makes it free. -/
inductive Claims (taken : Names) (base : String) : String → Prop where
  | plain (h : base ∉ taken) : Claims taken base base
  | numbered {s : String} (h : base ∈ taken) (hs : Finds taken base 2 s) : Claims taken base s

/-- Names are claimed one after another, each in front of what was taken before. -/
inductive ClaimsAll : Names → List String → List String → Prop where
  | nil {taken : Names} : ClaimsAll taken [] []
  | cons {taken : Names} {base s : String} {bases found : List String} (h : Claims taken base s)
      (hs : ClaimsAll (s :: taken) bases found) : ClaimsAll taken (base :: bases) (s :: found)

/-- `Finds` is functional: a search finds one name at most. -/
theorem Finds.unique {n : Nat} {s t : String} (hs : Finds taken base n s) (ht : Finds taken base n t) : s = t := by
  induction hs with
  | free h =>
    cases ht with
    | free => rfl
    | next hmem => exact absurd hmem h
  | next h _ ih =>
    cases ht with
    | free hfree => exact absurd h hfree
    | next _ ht => exact ih ht

/-- `numbered` finds what `Finds` does, when it ends with a free name. -/
theorem finds_numbered {tries n : Nat} (h : numbered taken base tries n ∉ taken) :
    Finds taken base n (numbered taken base tries n) := by
  induction tries generalizing n with
  | zero => exact .free h
  | succ tries ih =>
    rw [numbered] at h ⊢
    split at h
    · next hmem =>
      rw [if_pos hmem]
      exact .next (List.contains_iff_mem.mp hmem) (ih h)
    · next hfree =>
      rw [if_neg hfree]
      exact .free h

/-- **`Claims` ends**, with `taken.free base`. -/
theorem claims_iff {s : String} : Claims taken base s ↔ s = taken.free base := by
  -- among the forms that are tried, one more than there are names, one is free
  have hfree := free_notMem taken base
  unfold free at hfree ⊢
  split
  · next hmem =>
    rw [if_pos hmem] at hfree
    rw [List.contains_iff_mem] at hmem
    constructor
    · intro h
      cases h with
      | plain h => exact absurd hmem h
      | numbered _ hs => exact hs.unique (finds_numbered hfree)
    · rintro rfl
      exact .numbered hmem (finds_numbered hfree)
  · next hmem =>
    rw [List.contains_iff_mem] at hmem
    constructor
    · intro h
      cases h with
      | plain => rfl
      | numbered h => exact absurd h hmem
    · rintro rfl
      exact .plain hmem

/-- **`ClaimsAll` ends**, with `claimAll taken bases`. -/
theorem claimsAll_iff {bases found : List String} : ClaimsAll taken bases found ↔ found = claimAll taken bases := by
  induction bases generalizing taken found with
  | nil =>
    constructor
    · intro h
      cases h
      rfl
    · rintro rfl
      exact .nil
  | cons base rest ih =>
    constructor
    · intro h
      cases h with
      | cons h hs =>
        obtain rfl := claims_iff.mp h
        rw [ih.mp hs]
        rfl
    · rintro rfl
      exact .cons (claims_iff.mpr rfl) (ih.mpr rfl)

end Names

/-! ## Identifiers of fields -/

/-- `fieldIdent key ≠ "gen"`. -/
theorem fieldIdent_ne_gen (key : String) : fieldIdent key ≠ "gen" := by
  rcases fieldIdent_cases key with ⟨-, hraw⟩ | ⟨-, hplain⟩
  · intro h
    have hhash : '#' ∈ (fieldIdent key).toList := by
      rw [hraw, String.toList_append]
      exact List.mem_append_left _ (by decide)
    rw [h] at hhash
    exact absurd hhash (by decide)
  · rintro h
    exact hplain (h ▸ by decide)

/-- **The identifiers in `fieldIdents keys` are legal** for ASCII names, also those with a number behind them. -/
theorem isLegal_of_mem_fieldIdents {keys : List String} (hkeys : ∀ k ∈ keys, Text.IsAscii k) {s : String}
    (hs : s ∈ fieldIdents keys) : IsLegal s := by
  obtain ⟨base, hbase, hs⟩ := Names.exists_of_mem_claimAll hs
  obtain ⟨key, hkey, hbase⟩ := List.mem_map.mp hbase
  have hname : isName base = true := hbase ▸ isName_fieldIdent (hkeys key hkey)
  rcases hs with rfl | ⟨⟨m, rfl⟩, -⟩
  · exact isLegal_of_isName hname (hbase ▸ fieldIdent_ne_gen key)
  · obtain ⟨hbehind, hall⟩ := goesBehind_toString m
    refine isLegal_of_isName ?_ fun hgen => ?_
    · rw [isName_append hname hbehind, hall]
    · -- no keyword ends with a digit
      have hdigit := Names.endsWithDigit_numbered base m
      rw [hgen] at hdigit
      exact absurd hdigit (by decide)

/-- **The identifiers of fields with ASCII names are `IsLegal`**, each `fieldIdent` on its own and all of `fieldIdents
keys`; the claims end with these and no others (`Names.ClaimsAll`), and they differ. -/
theorem legal_fieldIdents {keys : List String} (hkeys : ∀ k ∈ keys, Text.IsAscii k) :
    (∀ k ∈ keys, IsLegal (fieldIdent k)) ∧
      (∀ found, Names.ClaimsAll [] (keys.map fieldIdent) found ↔ found = fieldIdents keys) ∧
      (fieldIdents keys).Nodup ∧ ∀ s ∈ fieldIdents keys, IsLegal s := by
  refine ⟨fun k hk => ?_, fun found => Names.claimsAll_iff, (Names.nodup_claimAll [] _).1, fun s hs => ?_⟩
  · exact isLegal_of_isName (isName_fieldIdent (hkeys k hk)) (fieldIdent_ne_gen k)
  · exact isLegal_of_mem_fieldIdents hkeys hs

/-- Names that make a keyword twice, a word of paths, nothing and a digit in front, and one that looks like a number
behind another. -/
def awkwardKeys : List String := ["type", "Type", "self", "", "2fa", "--", "createdAt", "created_at", "createdAt2"]

/-- The `fieldIdents` of `awkwardKeys`, which are legal. -/
theorem legal_fieldIdents_awkward : (∀ k ∈ awkwardKeys, Text.IsAscii k) ∧
    fieldIdents awkwardKeys = ["r#type", "r#type2", "self_", "field_", "field_2fa", "field_2", "created_at",
      "created_at2", "created_at22"] ∧ ∀ s ∈ fieldIdents awkwardKeys, IsLegal s := by
  have hkeys : ∀ k ∈ awkwardKeys, Text.IsAscii k := by decide
  exact ⟨hkeys, by decide +kernel, (legal_fieldIdents hkeys).2.2.2⟩

end Artifact

end RouteContracts
