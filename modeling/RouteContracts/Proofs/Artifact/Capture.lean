import RouteContracts.Proofs.Artifact.Claiming

/-! # Names from outside of a module
A module refers to names from outside of it: those that it imports from the runtime, and those of standard types.
An item of the module with such a name hides what is meant. No record ever does, for the names of records go on
from those of endpoints; but an endpoint does as soon as the words of its pattern make up the name.

* `runtimeNames`, `standardNames`: the names from outside.
* `MethodModule.origin?`: where a name leads in a module.
* `MethodModule.mem_names_outer_iff`: **which patterns hide a name from outside.**
* `MethodModule.origin?_of_pattern`: each of these names can be hidden. -/

namespace RouteContracts

namespace Artifact

/-- The names that a module imports from the runtime. -/
def runtimeNames : List String := ["Endpoint", "Method", "NoData"]

/-- The names of the standard types in a module. -/
def standardNames : List String := ["String", "Option", "Vec"]

/-- `runtimeNames` and `standardNames`: the names from outside of a module. -/
def outerNames : List String := runtimeNames ++ standardNames

/-- Where a name in a module leads. -/
inductive Origin where
  /-- To an item of the module. -/
  | own
  /-- To what is imported from the runtime. -/
  | runtime
  /-- To a standard type. -/
  | standard
deriving DecidableEq, Repr

/-- **Where a name leads in a module**: its own items hide what is imported, and that hides the standard types. -/
def MethodModule.origin? (mm : MethodModule) (n : String) : Option Origin :=
  if n ∈ mm.names then some .own
  else if n ∈ runtimeNames then some .runtime
  else if n ∈ standardNames then some .standard
  else none

/-! ## Names of endpoints and records -/

/-- For names from outside, `endpointName` is `Text.upperCamel`: the name of the bare root and the word in front of
digits are none of them. -/
theorem endpointName_eq_iff {n : String} (hn : n ∈ outerNames) (pattern : String) :
    endpointName pattern = n ↔ Text.upperCamel pattern = n := by
  -- the names from outside are out of reach of what is put in the place of, or before, the words
  have hfront : ∀ n ∈ outerNames, n ≠ "" ∧ n ≠ "Index" ∧ beginsWithDigit n = false ∧
      n.toList.take 5 ≠ "Route".toList := by
    decide
  obtain ⟨hempty, hindex, hdigit, hroute⟩ := hfront n hn
  unfold endpointName
  dsimp only
  split
  · next h =>
    refine iff_of_false hindex.symm fun heq => hempty ?_
    rw [← heq]
    exact String.isEmpty_iff.mp h
  · split
    · next h =>
      refine iff_of_false (fun heq => hroute ?_) fun heq => ?_
      · rw [← heq, String.toList_append]
        rfl
      · rw [heq, hdigit] at h
        cases h
    · exact Iff.rfl

/-- No name of a record is in `outerNames`: it has a word in it with a letter that is in none of these. -/
theorem ne_recordName {n : String} (hn : n ∈ outerNames) {word : String} (hword : word ∈ pieceWords)
    (stem more : String) : n ≠ stem ++ word ++ more := by
  have hall : (pieceWords.all fun word =>
      word.toList.any fun c => outerNames.all fun n => !n.toList.contains c) = true := by
    decide
  obtain ⟨c, hc, hnone⟩ := List.any_eq_true.mp (List.all_eq_true.mp hall word hword)
  have hletter : c ∉ n.toList := by simpa using List.all_eq_true.mp hnone n hn
  intro h
  refine hletter ?_
  rw [h, String.toList_append, String.toList_append]
  exact List.mem_append_left _ (List.mem_append_right _ hc)

/-- No name of `outerNames` is a numbered form. -/
theorem not_endsWithDigit_outer {n : String} (hn : n ∈ outerNames) : ¬EndsWithDigit n := by
  have hall : ∀ n ∈ outerNames, ¬EndsWithDigit n := by decide
  exact hall n hn

namespace MethodModule

variable (m : Method) (contracts : List (String × Contract))

/-- **The items with a name of `outerNames`** are endpoints with `Text.upperCamel p.1 = n` for their pattern `p.1`. -/
theorem mem_names_ofContracts_iff {n : String} (hn : n ∈ outerNames) :
    n ∈ (ofContracts m contracts).names ↔ ∃ p ∈ contracts, Text.upperCamel p.1 = n := by
  obtain ⟨-, hclaimed, hnamed, -⟩ := holds_ofContracts m contracts
  constructor
  · intro h
    obtain ⟨i, hi, rfl⟩ := List.mem_map.mp h
    cases i with
    | record r =>
      obtain ⟨stem, word, hword, more, hname⟩ := hnamed _ hi
      exact absurd hname (ne_recordName hn hword stem more)
    | endpoint e =>
      -- with a number behind it the name would end with a digit
      obtain ⟨p, hp, -, hname | ⟨k, hname⟩⟩ := hnamed _ hi
      · exact ⟨p, hp, (endpointName_eq_iff hn p.1).mp hname.symm⟩
      · have hdigit : EndsWithDigit e.name := hname ▸ Names.endsWithDigit_numbered _ k
        exact absurd hdigit (not_endsWithDigit_outer hn)
  · -- the name is taken once the endpoint has claimed it, by that endpoint or by an earlier item
    rintro ⟨p, hp, hwords⟩
    have hname := (endpointName_eq_iff hn p.1).mpr hwords
    rw [← hname]
    exact hclaimed p hp

theorem not_mem_recordNames {n : String} (hn : n ∈ outerNames) :
    n ∉ recordNames (ofContracts m contracts).records := by
  intro h
  obtain ⟨r, hr, rfl⟩ := List.mem_map.mp h
  obtain ⟨-, -, hnamed, -⟩ := holds_ofContracts m contracts
  obtain ⟨stem, word, hword, more, hname⟩ := hnamed _ (mem_items_of_mem_records hr)
  exact ne_recordName hn hword stem more hname

/-- `origin?` leads outside for every name of `outerNames` as long as no item has one. -/
theorem origin?_eq_iff (mm : MethodModule) :
    ((∀ n ∈ runtimeNames, mm.origin? n = some .runtime) ∧ ∀ n ∈ standardNames, mm.origin? n = some .standard) ↔
      ∀ n ∈ outerNames, n ∉ mm.names := by
  have hapart : ∀ n ∈ standardNames, n ∉ runtimeNames := by decide
  constructor
  · rintro ⟨hruntime, hstandard⟩ n hn hmem
    -- a name of the module's own hides the outer one
    have hown : mm.origin? n = some .own := if_pos hmem
    rcases List.mem_append.mp hn with hn | hn
    · have h := hruntime n hn
      rw [hown] at h
      cases h
    · have h := hstandard n hn
      rw [hown] at h
      cases h
  · intro h
    constructor
    · intro n hn
      rw [origin?, if_neg (h n (List.mem_append_left _ hn)), if_pos hn]
    · intro n hn
      rw [origin?, if_neg (h n (List.mem_append_right _ hn)), if_neg (hapart n hn), if_pos hn]

/-- **Which patterns hide a name from outside.** Of `n ∈ outerNames` no record has the name, and an endpoint has it
exactly if `Text.upperCamel p.1 = n` for a pattern `p.1` of the method. So in the module of a method all of `outerNames`
have the `origin?` outside exactly if no pattern of the method has `Text.upperCamel p.1 ∈ outerNames`. -/
theorem mem_names_outer_iff {r : Registry} {mm : MethodModule} (h : mm ∈ (Artifact.ofRegistry r).modules) :
    (∀ n ∈ outerNames, n ∉ recordNames mm.records ∧
      (n ∈ mm.names ↔ ∃ p ∈ r.contractsFor mm.method, Text.upperCamel p.1 = n)) ∧
    (((∀ n ∈ runtimeNames, mm.origin? n = some .runtime) ∧ ∀ n ∈ standardNames, mm.origin? n = some .standard) ↔
      ∀ p ∈ r.contractsFor mm.method, Text.upperCamel p.1 ∉ outerNames) := by
  have hmm := eq_ofContracts_of_mem h
  have hrecord : ∀ n ∈ outerNames, n ∉ recordNames mm.records := by
    intro n hn
    rw [hmm]
    exact not_mem_recordNames _ _ hn
  have hmem : ∀ n ∈ outerNames, (n ∈ mm.names ↔ ∃ p ∈ r.contractsFor mm.method, Text.upperCamel p.1 = n) := by
    intro n hn
    have hiff := mem_names_ofContracts_iff mm.method (r.contractsFor mm.method) hn
    rwa [← hmm] at hiff
  refine ⟨fun n hn => ⟨hrecord n hn, hmem n hn⟩, ?_⟩
  rw [origin?_eq_iff]
  constructor
  · intro hfree p hp hwords
    exact hfree _ hwords ((hmem _ hwords).mpr ⟨p, hp, rfl⟩)
  · intro hpatterns n hn hown
    obtain ⟨p, hp, rfl⟩ := (hmem n hn).mp hown
    exact hpatterns p hp hn

end MethodModule

/-! ## Endpoints in the way -/

/-- A title and some tags. -/
def taggedBody : Descriptor :=
  .object [("title", .primitive .string), ("tags", .array (.object [("name", .primitive .string)] []))] []

namespace MethodModule

/-- Words that only contain a name of `outerNames` hide nothing. -/
theorem origin?_endpoints :
    posting "/methods/[endpoint]" taggedBody ∈
        (Artifact.ofRegistry (.posting "/methods/[endpoint]" taggedBody)).modules ∧
      (∀ n ∈ runtimeNames, (posting "/methods/[endpoint]" taggedBody).origin? n = some .runtime) ∧
      ∀ n ∈ standardNames, (posting "/methods/[endpoint]" taggedBody).origin? n = some .standard := by
  have hmem := mem_modules_posting "/methods/[endpoint]" taggedBody
  exact ⟨hmem, (mem_names_outer_iff hmem).2.mpr (by decide +kernel)⟩

/-- `n` has the `origin?` of an item in the module of the endpoint for `pattern`. -/
def Hides (pattern n : String) : Prop :=
  n ∈ (posting pattern taggedBody).names ∧ (posting pattern taggedBody).origin? n = some .own

instance (pattern n : String) : Decidable (Hides pattern n) := inferInstanceAs (Decidable (_ ∧ _))

/-- **Each name of `outerNames` can be hidden** by the endpoint of a pattern. -/
theorem origin?_of_pattern :
    posting "/endpoint" taggedBody ∈ (Artifact.ofRegistry (.posting "/endpoint" taggedBody)).modules ∧
      Hides "/endpoint" "Endpoint" ∧ Hides "/[method]" "Method" ∧ Hides "/no-data" "NoData" ∧
      Hides "/string" "String" ∧ Hides "/[[option]]" "Option" ∧ Hides "/VEC" "Vec" := by
  refine ⟨mem_modules_posting .., ?_⟩
  decide +kernel

end MethodModule

end Artifact

end RouteContracts
