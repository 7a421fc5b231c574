import RouteContracts.Project
import RouteContracts.Proofs.Artifact.Comments
import RouteContracts.Proofs.Artifact.ModulePaths
import RouteContracts.Proofs.Artifact.Names
import RouteContracts.Proofs.Text.WordCase

/-! # Which registries have an artifact
For the path of a module, and patterns on one line each, the registries with an artifact are those all of
whose names can be written. Names from ASCII texts can, with one exception: the endpoint of a pattern whose
words make up `Self` gets that keyword for its name, and then no route of the registry has an artifact.

* `Registry.Spellable`: all names for the contracts of a registry can be written.
* `Registry.spellable_iff_of_ascii`: which registries of ASCII texts are spellable.
* `Registry.isSome_artifactText?`: **which registries have an artifact.**
* `Registry.artifactText?_merge_self`: the exception, at the pattern of a directory. -/

namespace RouteContracts

namespace Artifact

/-! ## Names from ASCII texts -/

/-- `isAlphanum` characters are ASCII, and `isIdentPart`. -/
theorem isAlphanum_ascii {c : Char} (h : c.isAlphanum = true) : c.toNat < 0x80 ∧ Text.isIdentPart c = true := by
  have hascii : c.toNat < 0x80 := by
    change (decide (c.val ≥ 65 ∧ c.val ≤ 90) || (decide (c.val ≥ 97) && decide (c.val ≤ 122)) ||
      (decide (c.val ≥ 48) && decide (c.val ≤ 57))) = true at h
    simp only [Bool.or_eq_true, Bool.and_eq_true, decide_eq_true_eq, ge_iff_le, UInt32.le_iff_toNat_le] at h
    change ((65 ≤ c.toNat ∧ c.toNat ≤ 90) ∨ (97 ≤ c.toNat ∧ c.toNat ≤ 122)) ∨
      (48 ≤ c.toNat ∧ c.toNat ≤ 57) at h
    omega
  refine ⟨hascii, ?_⟩
  rw [Text.isIdentPart, if_pos hascii, h]
  rfl

theorem isIdentStart_ascii {c : Char} (h : c.isAlphanum = true) (hdigit : c.isDigit = false) :
    Text.isIdentStart c = true := by
  rw [Text.isIdentStart, if_pos (isAlphanum_ascii h).1]
  rw [Char.isAlphanum, hdigit, Bool.or_false] at h
  rw [h]
  rfl

/-- `isName s` holds for an identifier that is none of `Source.Peek.reserved`. -/
theorem isName_of_isIdent {s : String} (hs : Text.isIdent s.toList = true)
    (hkeyword : s ∉ Source.Peek.reserved) : isName s = true := by
  have h := isName_of_plain (ne_raw_of_isIdent hs)
  rw [String.ofList_toList] at h
  rw [h, isPlainName, hs, String.ofList_toList, Bool.true_and, Bool.not_eq_true', ← Bool.not_eq_true,
    List.contains_iff_mem]
  exact hkeyword

theorem beginsWithDigit_eq (s : String) : beginsWithDigit s = s.toList.head?.any Char.isDigit := by
  unfold beginsWithDigit
  cases s.toList <;> rfl

theorem exists_head? {s : String} (h : s.isEmpty = false) : ∃ c, s.toList.head? = some c := by
  cases hlist : s.toList with
  | nil =>
    rw [String.toList_eq_nil_iff.mp hlist] at h
    cases h
  | cons c rest => exact ⟨c, rfl⟩

/-- `Text.isIdent` holds for a text that begins with a letter and has nothing but `isIdentPart` characters. -/
theorem isIdent_of_head? {s : String} {c : Char} (hhead : s.toList.head? = some c) (hc : c.isAlphanum = true)
    (hdigit : c.isDigit = false) (hall : s.toList.all Text.isIdentPart = true) : Text.isIdent s.toList = true := by
  obtain ⟨rest, hlist⟩ := List.head?_eq_some_iff.mp hhead
  rw [hlist, List.all_cons, Bool.and_eq_true] at hall
  rw [hlist, Text.isIdent, isIdentStart_ascii hc hdigit, hall.2]
  rfl

/-- Every reserved word but `Self` begins with a small letter or an underscore. -/
theorem notMem_reserved_of_head? {s : String} {c : Char} (hhead : s.toList.head? = some c)
    (hlower : c.isLower = false) (hc : c ≠ '_') (hself : s ≠ "Self") : s ∉ Source.Peek.reserved := by
  have hheads : ∀ k ∈ Source.Peek.reserved, k ≠ "Self" →
      (k.toList.take 1).all (fun c => decide (c.isLower = true ∨ c = '_')) = true := by
    decide
  intro hmem
  have h := hheads s hmem hself
  rw [List.take_one, hhead] at h
  simp [hlower, hc] at h

/-- **`isName (endpointName pattern)`** holds for an ASCII pattern, unless the name is `Self`. -/
theorem isName_endpointName {pattern : String} (hascii : Text.IsAscii pattern)
    (hself : endpointName pattern ≠ "Self") : isName (endpointName pattern) = true := by
  obtain ⟨halnum, hupper⟩ := Text.upperCamel_ascii hascii
  have hall : (Text.upperCamel pattern).toList.all Text.isIdentPart = true :=
    List.all_eq_true.mpr fun c hc => (isAlphanum_ascii (halnum c hc)).2
  unfold endpointName at hself ⊢
  dsimp only at hself ⊢
  split
  · decide
  · next hempty =>
    rw [if_neg hempty] at hself
    split
    · -- a digit in front gets a word before it, which is no reserved word
      have hhead : ("Route" ++ Text.upperCamel pattern).toList.head? = some 'R' := by
        rw [String.toList_append]
        rfl
      have hne : "Route" ++ Text.upperCamel pattern ≠ "Self" := by
        intro h
        rw [h] at hhead
        exact absurd hhead (by decide)
      refine isName_of_isIdent ?_ (notMem_reserved_of_head? hhead (by decide) (by decide) hne)
      rw [String.toList_append, isIdent_append (by decide), hall]
    · next hdigit =>
      rw [if_neg hdigit] at hself
      obtain ⟨c, hhead⟩ := exists_head? (Bool.eq_false_iff.mpr hempty)
      rw [beginsWithDigit_eq, hhead] at hdigit
      have hc := halnum c (List.mem_of_mem_head? hhead)
      refine isName_of_isIdent (isIdent_of_head? hhead hc (Bool.eq_false_iff.mpr hdigit) hall) ?_
      refine notMem_reserved_of_head? hhead (hupper c hhead) ?_ hself
      rintro rfl
      exact absurd hc (by decide)

/-- The reserved words are the keywords that `fieldIdent` tells apart, and the underscore. -/
theorem mem_reserved_cases {k : String} (h : k ∈ Source.Peek.reserved) :
    k ∈ neverRawWords ∨ k ∈ reservedWords ∨ k = "_" := by
  have hall : ∀ k ∈ Source.Peek.reserved, k ∈ neverRawWords ∨ k ∈ reservedWords ∨ k = "_" := by decide +kernel
  exact hall k h

theorem isName_raw {k : String} (h : k ∈ reservedWords) : isName (rawMark ++ k) = true := by
  have hall : ∀ k ∈ reservedWords, isName (rawMark ++ k) = true := by decide +kernel
  exact hall k h

/-- No reserved word begins like what a field with a digit in front is called. -/
theorem field_notMem_reserved (s : String) : "field_" ++ s ∉ Source.Peek.reserved := by
  have hall : ∀ k ∈ Source.Peek.reserved, k.toList.take 6 ≠ "field_".toList := by decide +kernel
  exact fun hmem => hall _ hmem (by rw [String.toList_append]; rfl)

/-- **`isName (fieldIdent wireName)`** holds for an ASCII name. -/
theorem isName_fieldIdent {wireName : String} (hascii : Text.IsAscii wireName) :
    isName (fieldIdent wireName) = true := by
  obtain ⟨hchars, halnum⟩ := Text.snake_ascii hascii
  have hall : (Text.snake wireName).toList.all Text.isIdentPart = true := by
    rw [List.all_eq_true]
    intro c hc
    rcases hchars c hc with h | rfl
    · exact (isAlphanum_ascii h).2
    · decide
  unfold fieldIdent
  dsimp only
  split
  · refine isName_of_isIdent ?_ (field_notMem_reserved _)
    rw [String.toList_append, isIdent_append (by decide), hall]
  · next hempty =>
    rw [Bool.not_eq_true, Bool.or_eq_false_iff, beginsWithDigit_eq] at hempty
    split
    · next hnever =>
      have hraw : ∀ k ∈ neverRawWords, isName (k ++ "_") = true := by decide
      exact hraw _ (List.contains_iff_mem.mp hnever)
    · next hnever =>
      split
      · next hreserved => exact isName_raw (List.contains_iff_mem.mp hreserved)
      · next hreserved =>
        -- the keywords have been dealt with, and the underscore alone has no letter in front
        obtain ⟨c, hhead⟩ := exists_head? hempty.1
        rw [hhead] at hempty
        have hc := halnum c hhead
        refine isName_of_isIdent (isIdent_of_head? hhead hc hempty.2 hall) fun hmem => ?_
        rcases mem_reserved_cases hmem with h | h | h
        · exact hnever (List.contains_iff_mem.mpr h)
        · exact hreserved (List.contains_iff_mem.mpr h)
        · rw [h] at hhead
          obtain rfl : '_' = c := Option.some.inj hhead
          exact absurd hc (by decide)

end Artifact

namespace Descriptor

open Artifact

theorem mem_fieldsWritten {fields : List (String × Descriptor)} {f : String × Descriptor} (hf : f ∈ fields)
    {k : String} (hk : k ∈ f.2.written) : k ∈ fieldsWritten fields := by
  induction fields with
  | nil => exact absurd hf List.not_mem_nil
  | cons g rest ih =>
    rw [fieldsWritten, List.mem_append]
    rcases List.mem_cons.mp hf with rfl | hf
    · exact .inl hk
    · exact .inr (ih hf)

/-- A shape whose fields have ASCII names is `Spellable`. -/
theorem spellable_of_ascii {d : Descriptor} (h : ∀ k ∈ d.written, Text.IsAscii k) : d.Spellable := by
  induction d with
  | primitive p => exact .primitive p
  | object fields omittable ih =>
    have hkeys : ∀ f ∈ fields, Text.IsAscii f.1 := fun f hf =>
      h f.1 (List.mem_append_right _ (List.mem_map_of_mem hf))
    refine .object omittable (fun f hf => isName_fieldIdent (hkeys f hf)) (fun f hf _ => ?_) fun f hf => ?_
    · rw [List.all_eq_true]
      exact fun c hc => (isAlphanum_ascii ((Text.upperCamel_ascii (hkeys f hf)).1 c hc)).2
    · exact ih f hf fun k hk => h k (List.mem_append_left _ (mem_fieldsWritten hf hk))
  | array d ih => exact .array (ih h)
  | optional d ih => exact .optional (ih h)
  | nullable d ih => exact .nullable (ih h)

end Descriptor

theorem Contract.spellable_of_ascii {c : Contract} (h : ∀ k ∈ c.written, Text.IsAscii k) : c.Spellable := by
  have hpiece : ∀ piece : Option Descriptor, (∀ k ∈ pieceWritten piece, Text.IsAscii k) → PieceSpellable piece := by
    intro piece h d hd
    obtain rfl := Option.mem_def.mp hd
    exact Descriptor.spellable_of_ascii h
  rw [Contract.written, List.forall_mem_append, List.forall_mem_append] at h
  exact ⟨hpiece _ h.1.1, hpiece _ h.1.2, hpiece _ h.2⟩

/-! ## Registries -/

namespace Registry

open Artifact

/-- A registry all of whose names can be written. -/
def Spellable (r : Registry) : Prop :=
  ∀ m, ∀ p ∈ r.contractsFor m, isName (endpointName p.1) = true ∧ p.2.Spellable

variable {r : Registry}

/-- `isValid` of `Artifact.ofRegistry r` is `r.Spellable`. -/
theorem isValid_ofRegistry {runtime : RuntimePath} (hruntime : runtime.Serves) (r : Registry) :
    (Artifact.ofRegistry r).isValid runtime = true ↔ r.Spellable := by
  rw [Artifact.isValid, List.all_eq_true, Artifact.ofRegistry, List.forall_mem_map]
  have hmodule : ∀ m, (∀ i ∈ (MethodModule.ofContracts m (r.contractsFor m)).items, i.isValid runtime = true) ↔
      ∀ p ∈ r.contractsFor m, isName (endpointName p.1) = true ∧ p.2.Spellable :=
    fun m => MethodModule.isValid_ofContracts hruntime m (r.contractsFor m)
  constructor
  · intro h m p hp
    -- a method that has a contract has a module
    have hserved : (m, r.contractsFor m) ∈ served r := by
      refine List.mem_filter.mpr ⟨List.mem_map.mpr ⟨m, Method.mem_all m, rfl⟩, ?_⟩
      cases hc : r.contractsFor m with
      | nil => rw [hc] at hp; exact absurd hp List.not_mem_nil
      | cons => rfl
    exact (hmodule m).mp (List.all_eq_true.mp (h _ hserved)) p hp
  · intro h p hp
    obtain ⟨m, -, rfl⟩ := List.mem_map.mp (List.mem_filter.mp hp).1
    exact List.all_eq_true.mpr ((hmodule m).mpr (h m))

/-- `artifactText?` gives a text exactly if `r.Spellable`, for patterns that are `OneLine` and an `IsModulePath`. -/
theorem isSome_artifactText?_iff (hlines : ∀ route ∈ r.routes, OneLine route.pattern) {runtime : String}
    (hruntime : IsModulePath runtime) : (r.artifactText? runtime).isSome = true ↔ r.Spellable := by
  obtain ⟨path, hpath, hserves⟩ := hruntime.exists_runtime
  have hcommented := Commented.of_oneLine hlines
  obtain ⟨pieces, hpieces⟩ := Option.isSome_iff_exists.mp (hcommented.isSome_pieces? path)
  rw [← isValid_ofRegistry hserves r, Option.isSome_iff_exists]
  constructor
  · rintro ⟨text, htext⟩
    obtain ⟨path', laid, hpath', hlaid, -⟩ := text?_eq_some_iff.mp htext
    obtain rfl := Option.some.inj (hpath.symm.trans hpath')
    exact (hcommented.layout?_ofRegistry.mp hlaid).2
  · intro hvalid
    have hlaid := hcommented.layout?_ofRegistry.mpr ⟨hpieces, hvalid⟩
    exact ⟨_, text?_eq_some_iff.mpr ⟨path, pieces, hpath, hlaid, rfl⟩⟩

/-- **A registry of ASCII texts is `Spellable`** unless `endpointName` of a pattern is `Self`. -/
theorem spellable_iff_of_ascii (hpatterns : ∀ route ∈ r.routes, Text.IsAscii route.pattern)
    (hfields : ∀ m, ∀ p ∈ r.contractsFor m, ∀ k ∈ p.2.written, Text.IsAscii k) :
    r.Spellable ↔ ∀ m, ∀ p ∈ r.contractsFor m, endpointName p.1 ≠ "Self" := by
  refine forall_congr' fun m => forall₂_congr fun p hp => ?_
  obtain ⟨route, hroute, hpattern⟩ := exists_route_of_mem_contractsFor hp
  have hascii : Text.IsAscii p.1 := hpattern ▸ hpatterns route hroute
  constructor
  · rintro ⟨hname, -⟩ hself
    rw [hself] at hname
    exact absurd hname (by decide)
  · exact fun hself => ⟨isName_endpointName hascii hself, Contract.spellable_of_ascii (hfields m p hp)⟩

/-- **Which registries have an artifact.** For an `IsModulePath` and patterns that are `OneLine`, `artifactText?` gives
a text exactly if `r.Spellable`. Where the patterns and the names of fields are ASCII, that is: no pattern has the
`endpointName` `Self`. -/
theorem isSome_artifactText? (hlines : ∀ route ∈ r.routes, OneLine route.pattern) {runtime : String}
    (hruntime : IsModulePath runtime) :
    ((r.artifactText? runtime).isSome = true ↔ r.Spellable) ∧
      ((∀ route ∈ r.routes, Text.IsAscii route.pattern) →
        (∀ m, ∀ p ∈ r.contractsFor m, ∀ k ∈ p.2.written, Text.IsAscii k) →
        ((r.artifactText? runtime).isSome = true ↔ ∀ m, ∀ p ∈ r.contractsFor m, endpointName p.1 ≠ "Self")) := by
  have hiff := isSome_artifactText?_iff hlines hruntime
  exact ⟨hiff, fun hpatterns hfields => hiff.trans (spellable_iff_of_ascii hpatterns hfields)⟩

/-! ## The pattern of a keyword -/

/-- What an endpoint file holds that answers POST requests with a body of one field. -/
def typedAnalysis (pattern : String) : Analysis :=
  ⟨pattern, ⟨pattern⟩, PerMethod.ofList [(.post, ⟨some (.object [("type", .primitive .string)] []), none, none⟩)]⟩

/-- A registry with the endpoint of `typedAnalysis` at the root. -/
def rooted : Registry := (empty.merge "/" (typedAnalysis "/")).2

theorem isModulePath_routegen : IsModulePath "routegen" := by
  have hblank : IsPathBlank [] := fun c hc => absurd hc List.not_mem_nil
  have hpart : IsPathPart "routegen".toList := .plain (by decide) (by decide) (by decide)
  exact .relative hblank (.last hpart hblank) (by decide)

theorem texts_rooted : ∀ route ∈ rooted.routes, OneLine route.pattern ∧ Text.IsAscii route.pattern := by
  intro route hroute
  obtain rfl := List.mem_singleton.mp hroute
  exact ⟨⟨by decide, by decide⟩, by decide⟩

theorem served_rooted (m : Method) : ∀ p ∈ rooted.contractsFor m,
    (∀ k ∈ p.2.written, Text.IsAscii k) ∧ endpointName p.1 ≠ "Self" := by
  have hall : ∀ m ∈ Method.all, ∀ p ∈ rooted.contractsFor m,
      (∀ k ∈ p.2.written, Text.IsAscii k) ∧ endpointName p.1 ≠ "Self" := by
    decide +kernel
  exact hall m (Method.mem_all m)

/-- `rooted` has an artifact: its texts are ASCII, and the `endpointName` of the root is `Index`. -/
theorem isSome_artifactText?_rooted :
    (∀ route ∈ rooted.routes, OneLine route.pattern) ∧ IsModulePath "routegen" ∧
      (rooted.artifactText? "routegen").isSome = true := by
  have hlines : ∀ route ∈ rooted.routes, OneLine route.pattern := fun route h => (texts_rooted route h).1
  have hiff := (isSome_artifactText? hlines isModulePath_routegen).2 (fun route h => (texts_rooted route h).2)
    fun m p hp => (served_rooted m p hp).1
  exact ⟨hlines, isModulePath_routegen, hiff.mpr fun m p hp => (served_rooted m p hp).2⟩

/-- A project with an endpoint file in a directory `self`. -/
def selfFiles : Files := ⟨[(["routes"], .directory), (["routes", "self"], .directory),
  (["routes", "self", "server.rs"], .text "pub fn POST() {}")], []⟩

/-- **One route can block the artifact**: the `endpointName` of `/self` is `Self`, so that no endpoint can have it, and
the endpoint at the root is left without an artifact as well. -/
theorem artifactText?_merge_self :
    (Project.ofConfig ⟨"/"⟩ { Config.default with root := ⟨"/"⟩, routesDir := ⟨"routes"⟩ }).routeId? selfFiles
        ⟨"/routes/self/server.rs"⟩ = some "/self" ∧
      IsModulePath "routegen" ∧ (rooted.artifactText? "routegen").isSome = true ∧
      (rooted.merge "/self" (typedAnalysis "/self")).2.artifactText? "routegen" = none := by
  have hspellable : rooted.Spellable :=
    (spellable_iff_of_ascii (fun route h => (texts_rooted route h).2) fun m p hp => (served_rooted m p hp).1).mpr
      fun m p hp => (served_rooted m p hp).2
  have hroot := (isSome_artifactText?_iff (fun route h => (texts_rooted route h).1) isModulePath_routegen).mpr
    hspellable
  have hlines : ∀ route ∈ (rooted.merge "/self" (typedAnalysis "/self")).2.routes, OneLine route.pattern := by
    intro route hroute
    rcases List.mem_pair.mp hroute with rfl | rfl <;> exact ⟨by decide, by decide⟩
  -- the name of the endpoint is a keyword
  have hself : ¬(rooted.merge "/self" (typedAnalysis "/self")).2.Spellable := by
    intro h
    exact absurd (h .post _ (List.mem_cons_of_mem _ (List.mem_cons_self ..))).1 (by decide)
  have hnone := mt (isSome_artifactText?_iff hlines isModulePath_routegen).mp hself
  exact ⟨by decide +kernel, isModulePath_routegen, hroot, by simpa using hnone⟩

end Registry

end RouteContracts
