import RouteContracts.Proofs.Artifact.CodeItems
import RouteContracts.Proofs.Artifact.Identifiers
import RouteContracts.Proofs.Artifact.Spelling
import RouteContracts.Proofs.Text.WordCharacters

/-! # The names in the code of artifacts
The names in the code of an artifact are made from patterns and from the names of fields, which can be any texts. What
is made of them has no blank and no mark in it, so it is a word, or it stops the scanner. The names of records and of
fields are never reserved words, only that of an endpoint can be one. With that `isValid` says of the artifact what the
grammar says of its code.

* `isName_iff`: `isName` is `isWord` of what is not reserved.
* `Draft.NameLike`: drafts whose items are named so. `nameLike_typeOf`, `nameLike_addEndpoint`: each step keeps that,
  so `isNameLike_ofContracts` says it of every module.
* `isFieldName_fieldIdent`: the identifiers of fields.
* `Registry.isSome_artifactText?_eq`: **`artifactText?` gives a text exactly if the code of the artifact is a
  file.** -/

namespace RouteContracts

theorem Text.IsWordChar.isNameChar {c : Char} (h : Text.IsWordChar c) : Source.Lexer.IsNameChar c := by
  refine ⟨fun hc => ?_, h.notBlank⟩
  rw [Text.isIdentPart, if_pos hc, h.alphanum hc]
  rfl

namespace Artifact

open Source Source.Lexer Source.Rule

/-! ## Names that are like names -/

/-- `isName n` is `isWord n` and `IsIdentifier n`. -/
theorem isName_iff {n : String} : isName n = true ↔ isWord n = true ∧ IsIdentifier n := by
  have hmark : ∀ k ∈ Peek.reserved, k.toList.take 2 ≠ ['r', '#'] := by decide
  by_cases hraw : ∃ rest, n.toList = 'r' :: '#' :: rest
  · obtain ⟨rest, hlist⟩ := hraw
    have hname : isName n = isWord n := by
      unfold isName isWord
      rw [hlist]
      rfl
    rw [hname]
    exact (and_iff_left (isIdentifier_iff.mpr fun hmem => hmark n hmem (by rw [hlist]; rfl))).symm
  · have hname : isName n = isPlainName n.toList := by
      unfold isName
      split
      · next rest hlist => exact absurd ⟨rest, hlist⟩ hraw
      · rfl
    have hword : isWord n = Text.isIdent n.toList := by
      unfold isWord
      split
      · next rest hlist => exact absurd ⟨rest, hlist⟩ hraw
      · rfl
    rw [hname, hword, isPlainName, Bool.and_eq_true, Bool.not_eq_true', String.ofList_toList, IsIdentifier]

instance (c : Char) : Decidable (IsNameChar c) :=
  decidable_of_iff ((c.toNat < 0x80 → Text.isIdentPart c = true) ∧ isSpace c = false)
    ⟨fun h => ⟨h.1, h.2⟩, fun h => ⟨h.1, h.2⟩⟩

/-- `IsNameLike` with more characters behind it. -/
theorem isNameLike_append {n t : String} (hn : IsNameLike n) (ht : ∀ c ∈ t.toList, IsNameChar c) :
    IsNameLike (n ++ t) := by
  obtain ⟨c, hhead, hdigit⟩ := hn.head
  constructor
  · rw [String.toList_append, List.forall_mem_append]
    exact ⟨hn.chars, ht⟩
  · refine ⟨c, ?_, hdigit⟩
    rw [String.toList_append, List.head?_append, hhead]
    rfl

theorem isNameChar_of_isDigit {c : Char} (h : c.isDigit = true) : IsNameChar c :=
  Text.of_ascii (p := fun c => c.isDigit = true → IsNameChar c) (by decide)
    (Nat.lt_of_le_of_lt (Text.isDigit_toNat h).2 (by decide)) h

theorem isNameChar_toString (m : Nat) : ∀ c ∈ (toString m).toList, IsNameChar c := by
  rw [Nat.toString_eq_ofList_toDigits, String.toList_ofList]
  exact fun c hc => isNameChar_of_isDigit (Nat.isDigit_of_mem_toDigits (by decide) (by decide) hc)

theorem isNameLike_claim {n : String} (hn : IsNameLike n) (taken : Names) : IsNameLike (taken.claim n).1 := by
  rcases Names.claim_cases taken n with h | ⟨-, m, h⟩
  · rwa [h]
  · rw [h]
    exact isNameLike_append hn (isNameChar_toString m)

theorem isNameLike_of_all {n : String} (hchars : (n.toList.all fun c => decide (IsNameChar c)) = true)
    (hhead : (n.toList.head?.any fun c => !c.isDigit) = true) : IsNameLike n := by
  refine ⟨Text.forall_mem_of_all hchars, ?_⟩
  cases h : n.toList.head? with
  | none =>
    rw [h] at hhead
    cases hhead
  | some c =>
    rw [h] at hhead
    exact ⟨c, rfl, by simpa using hhead⟩

theorem isNameLike_of_not_beginsWithDigit {n : String} (hchars : ∀ c ∈ n.toList, IsNameChar c)
    (hempty : n.isEmpty = false) (hdigit : beginsWithDigit n = false) : IsNameLike n := by
  refine ⟨hchars, ?_⟩
  cases hlist : n.toList with
  | nil =>
    rw [String.toList_eq_nil_iff] at hlist
    rw [hlist] at hempty
    cases hempty
  | cons c cs =>
    rw [beginsWithDigit, hlist] at hdigit
    exact ⟨c, rfl, hdigit⟩

/-- `endpointName pattern` `IsNameLike`. -/
theorem isNameLike_endpointName (pattern : String) : IsNameLike (endpointName pattern) := by
  have hchars : ∀ c ∈ (Text.upperCamel pattern).toList, IsNameChar c := fun c hc =>
    (Text.isWordChar_upperCamel pattern c hc).isNameChar
  unfold endpointName
  dsimp only
  split
  · exact isNameLike_of_all (by decide) (by decide)
  · next hempty =>
    split
    · exact isNameLike_append (isNameLike_of_all (by decide) (by decide)) hchars
    · next hdigit => exact isNameLike_of_not_beginsWithDigit hchars (by simpa using hempty) (by simpa using hdigit)

/-! ## Names of items -/

/-- The names of all items of a draft are `IsNameLike`. -/
def Draft.NameLike (d : Draft) : Prop := ∀ i ∈ d.items, IsNameLike i.name

theorem Draft.NameLike.add {d : Draft} (hd : d.NameLike) {i : ModuleItem} (hi : IsNameLike i.name) :
    (d.add i).NameLike := by
  intro j hj
  rcases List.mem_append.mp hj with hj | hj
  · exact hd j hj
  · rw [List.mem_singleton.mp hj]
    exact hi

/-- `fieldsOf` keeps a draft `NameLike` where `typeOf` of its descriptors does. -/
theorem nameLike_fieldsOf (fields : List (String × Descriptor))
    (ih : ∀ f ∈ fields, ∀ (d : Draft) (hint : String), d.NameLike → IsNameLike hint →
      (typeOf d hint f.2).2.NameLike)
    (d : Draft) (hd : d.NameLike) (owner : String) (howner : IsNameLike owner) (omittable : NameSet) (idents : Names) :
    (fieldsOf d owner omittable idents fields).2.NameLike := by
  induction fields generalizing d idents with
  | nil => exact hd
  | cons f rest ihrest =>
    obtain ⟨wireName, descriptor⟩ := f
    have hhint : IsNameLike (owner ++ Text.upperCamel wireName) :=
      isNameLike_append howner fun c hc => (Text.isWordChar_upperCamel wireName c hc).isNameChar
    exact ihrest (fun f hf => ih f (List.mem_cons_of_mem _ hf)) _ (ih _ (List.mem_cons_self ..) d _ hd hhint) _

/-- **`typeOf` keeps a draft `NameLike`**, by induction on the descriptor. -/
theorem nameLike_typeOf (a : Descriptor) : ∀ (d : Draft) (hint : String), d.NameLike → IsNameLike hint →
    (typeOf d hint a).2.NameLike := by
  induction a with
  | primitive p => exact fun _ _ hd _ => hd
  | object fields omittable ih =>
    intro d hint hd hhint
    have hname : IsNameLike (d.claim hint).1 := isNameLike_claim hhint d.names
    exact Draft.NameLike.add (nameLike_fieldsOf fields ih (d.claim hint).2 hd _ hname omittable []) hname
  | array element ih =>
    intro d hint hd hhint
    exact ih d (hint ++ "Item") hd (isNameLike_append hhint (Text.forall_mem_of_all (by decide)))
  | optional inner ih | nullable inner ih => exact ih

theorem nameLike_pieceType (piece : Option Descriptor) {d : Draft} (hd : d.NameLike) {hint : String}
    (hhint : IsNameLike hint) : (pieceType d hint piece).2.NameLike := by
  cases piece with
  | none => exact hd
  | some a => exact nameLike_typeOf a d hint hd hhint

/-- **`addEndpoint` keeps a draft `NameLike`.** -/
theorem nameLike_addEndpoint {d : Draft} (hd : d.NameLike) (pattern : String) (c : Contract) :
    (addEndpoint d pattern c).NameLike := by
  have hname : IsNameLike (d.claim (endpointName pattern)).1 :=
    isNameLike_claim (isNameLike_endpointName pattern) d.names
  have hhint : ∀ word ∈ pieceWords, IsNameLike ((d.claim (endpointName pattern)).1 ++ word) := by
    intro word hword
    have hall : ∀ word ∈ pieceWords, (word.toList.all fun c => decide (IsNameChar c)) = true := by decide
    exact isNameLike_append hname (Text.forall_mem_of_all (hall word hword))
  have hbody := nameLike_pieceType c.body (d := (d.claim (endpointName pattern)).2) hd (hhint "Body" (by decide))
  have hparams := nameLike_pieceType c.routeParams hbody (hhint "RouteParams" (by decide))
  have hsearch := nameLike_pieceType c.searchParams hparams (hhint "SearchParams" (by decide))
  exact hsearch.add hname

/-- The names of all items of `MethodModule.ofContracts` are `IsNameLike`. -/
theorem isNameLike_ofContracts (m : Method) (contracts : List (String × Contract)) :
    ∀ i ∈ (MethodModule.ofContracts m contracts).items, IsNameLike i.name := by
  have hall : ∀ d : Draft, d.NameLike → (contracts.foldl (fun d p => addEndpoint d p.1 p.2) d).NameLike := by
    induction contracts with
    | nil => exact fun d hd => hd
    | cons p rest ih => exact fun d hd => ih _ (nameLike_addEndpoint hd p.1 p.2)
  exact hall Draft.empty fun i hi => absurd hi List.not_mem_nil

/-! ## Identifiers of fields -/

/-- A name that `IsIdentifier` and is `Scannable`. -/
structure IsFieldName (n : String) : Prop where
  free : IsIdentifier n
  like : Scannable n

theorem IsFieldName.of_isName {n : String} (h : isName n = true) : IsFieldName n := by
  obtain ⟨hword, hfree⟩ := isName_iff.mp h
  exact ⟨hfree, fun hnot => absurd hword (by rw [hnot]; exact Bool.false_ne_true)⟩

/-- A number behind a name makes no reserved word. -/
theorem isIdentifier_numbered {n : String} (hn : n ≠ "") (m : Nat) : IsIdentifier (n ++ toString m) := by
  rw [IsIdentifier, ← String.ofList_toList (s := n ++ toString m), String.toList_append]
  refine not_reserved_append (goesBehind_toString m).1.keyword fun h => hn ?_
  rwa [String.toList_eq_nil_iff] at h

/-- A name that `IsIdentifier` and `IsNameLike`, with or without a number behind it, `IsFieldName`. -/
theorem isFieldName_numbered {n : String} (hfree : IsIdentifier n) (hlike : IsNameLike n) :
    IsFieldName n ∧ ∀ m : Nat, IsFieldName (n ++ toString m) := by
  refine ⟨⟨hfree, fun _ => hlike⟩, fun m => ⟨isIdentifier_numbered ?_ m, fun _ => ?_⟩⟩
  · rintro rfl
    obtain ⟨c, hc, -⟩ := hlike.head
    cases hc
  · exact isNameLike_append hlike (isNameChar_toString m)

/-- `fieldIdent wireName`, with or without a number behind it, `IsFieldName`. -/
theorem isFieldName_fieldIdent (wireName : String) :
    IsFieldName (fieldIdent wireName) ∧ ∀ m : Nat, IsFieldName (fieldIdent wireName ++ toString m) := by
  obtain ⟨hchars, hhead⟩ := Text.isWordChar_snake wireName
  have hchars : ∀ c ∈ (Text.snake wireName).toList, IsNameChar c := by
    intro c hc
    rcases hchars c hc with h | rfl
    · exact h.isNameChar
    · decide
  unfold fieldIdent
  dsimp only
  split
  · exact isFieldName_numbered (isIdentifier_iff.mpr (field_notMem_reserved _))
      (isNameLike_append (isNameLike_of_all (by decide) (by decide)) hchars)
  · next hplain =>
    rw [Bool.not_eq_true, Bool.or_eq_false_iff] at hplain
    have hlike := isNameLike_of_not_beginsWithDigit hchars hplain.1 hplain.2
    split
    · next hnever =>
      have hfree : ∀ k ∈ neverRawWords, IsIdentifier (k ++ "_") := by decide
      exact isFieldName_numbered (hfree _ (List.contains_iff_mem.mp hnever))
        (isNameLike_append hlike (Text.forall_mem_of_all (by decide)))
    · next hnever =>
      split
      · next hreserved =>
        have hname := isName_raw (List.contains_iff_mem.mp hreserved)
        refine ⟨.of_isName hname, fun m => .of_isName ?_⟩
        obtain ⟨hbehind, hall⟩ := goesBehind_toString m
        rw [isName_append hname hbehind, hall]
      · next hreserved =>
        refine isFieldName_numbered (isIdentifier_iff.mpr fun hmem => ?_) hlike
        rcases mem_reserved_cases hmem with h | h | h
        · exact hnever (List.contains_iff_mem.mpr h)
        · exact hreserved (List.contains_iff_mem.mpr h)
        · rw [h] at hhead
          exact absurd (hhead '_' rfl) (by decide)

/-! ## Names in modules -/

section Modules

variable (m : Method) (contracts : List (String × Contract))

/-- No record has a reserved name: a letter of the word in it is in no reserved word. -/
theorem isIdentifier_recordName {r : Record} (hr : .record r ∈ (MethodModule.ofContracts m contracts).items) :
    IsIdentifier r.name := by
  obtain ⟨-, -, hnamed, -⟩ := MethodModule.holds_ofContracts m contracts
  obtain ⟨stem, word, hword, more, hname⟩ := hnamed _ hr
  have hall : (pieceWords.all fun word =>
      word.toList.any fun c => Peek.reserved.all fun k => !k.toList.contains c) = true := by decide +kernel
  obtain ⟨c, hc, hnone⟩ := List.any_eq_true.mp (List.all_eq_true.mp hall word hword)
  refine isIdentifier_iff.mpr fun hmem => ?_
  have hletter : c ∉ r.name.toList := by simpa using List.all_eq_true.mp hnone _ hmem
  refine hletter ?_
  rw [hname, String.toList_append, String.toList_append]
  exact List.mem_append_left _ (List.mem_append_right _ hc)

/-- The `ident` of every field `IsFieldName`. -/
theorem isFieldName_ident {r : Record} (hr : .record r ∈ (MethodModule.ofContracts m contracts).items) {f : Field}
    (hf : f ∈ r.fields) : IsFieldName f.ident := by
  obtain ⟨-, -, -, hrecords⟩ := MethodModule.holds_ofContracts m contracts
  have hmem : r ∈ (MethodModule.ofContracts m contracts).records := List.mem_filterMap.mpr ⟨_, hr, rfl⟩
  obtain ⟨names, -, hfor⟩ := exists_of_mem_forall₂ hrecords.flip hmem
  have hident : f.ident ∈ Names.claimAll [] (names.map fieldIdent) := hfor.idents ▸ List.mem_map_of_mem hf
  obtain ⟨base, hbase, hname⟩ := Names.exists_of_mem_claimAll hident
  obtain ⟨wireName, -, rfl⟩ := List.mem_map.mp hbase
  obtain ⟨hplain, hnumbered⟩ := isFieldName_fieldIdent wireName
  rcases hname with hname | ⟨⟨k, hname⟩, -⟩
  · rwa [hname]
  · rw [hname]
    exact hnumbered k

/-- What is in `ModuleItem.mentions` `IsFieldName`. -/
theorem isFieldName_of_mem_mentions {i : ModuleItem} (hi : i ∈ (MethodModule.ofContracts m contracts).items)
    {n : String} (hn : n ∈ i.mentions) : IsFieldName n := by
  obtain ⟨j, hj, hname⟩ := List.mem_filterMap.mp (MethodModule.closed_ofContracts m contracts i hi hn)
  cases j with
  | endpoint e => cases hname
  | record r =>
    obtain rfl := Option.some.inj hname
    exact ⟨isIdentifier_recordName m contracts hj, fun _ => isNameLike_ofContracts m contracts _ hj⟩

theorem mem_mentions_endpoint {e : EndpointItem} {n : String} :
    n ∈ pieceRecords e.body ++ (pieceRecords e.routeParams ++ pieceRecords e.searchParams) ↔
      n ∈ (ModuleItem.endpoint e).mentions := by
  simp [pieceRecords, ModuleItem.mentions]

/-- All items of `MethodModule.ofContracts` are `Unreserved`. -/
theorem unreserved_ofContracts : ∀ i ∈ (MethodModule.ofContracts m contracts).items, i.Unreserved := by
  intro i hi
  have hmentions : ∀ n ∈ i.mentions, IsIdentifier n := fun n hn =>
    (isFieldName_of_mem_mentions m contracts hi hn).free
  cases i with
  | record r =>
    refine ⟨isIdentifier_recordName m contracts hi, fun f hf => ⟨(isFieldName_ident m contracts hi hf).free, ?_⟩⟩
    exact fun n hn => hmentions n (List.mem_flatMap.mpr ⟨f, hf, hn⟩)
  | endpoint e => exact fun n hn => hmentions n (mem_mentions_endpoint.mp hn)

/-- All that is `spelled` in an item is `Scannable`. -/
theorem isNameLike_of_mem_spelled {i : ModuleItem} (hi : i ∈ (MethodModule.ofContracts m contracts).items) :
    ∀ n ∈ i.spelled, Scannable n := by
  have hitem : Scannable i.name := fun _ => isNameLike_ofContracts m contracts i hi
  have hmentions : ∀ n ∈ i.mentions, Scannable n := fun n hn =>
    (isFieldName_of_mem_mentions m contracts hi hn).like
  intro n hn
  cases i with
  | record r =>
    rcases List.mem_cons.mp hn with rfl | hn
    · exact hitem
    · obtain ⟨f, hf, hn⟩ := List.mem_flatMap.mp hn
      rcases List.mem_cons.mp hn with rfl | hn
      · exact (isFieldName_ident m contracts hi hf).like
      · exact hmentions n (List.mem_flatMap.mpr ⟨f, hf, hn⟩)
  | endpoint e =>
    rcases List.mem_cons.mp hn with rfl | hn
    · exact hitem
    · rcases List.mem_cons.mp hn with rfl | hn
      · exact hitem
      · exact hmentions n (mem_mentions_endpoint.mp hn)

/-- All that is `spelled` in an item `isWord` where all items are `isValid`. -/
theorem isWord_of_mem_spelled {runtime : RuntimePath}
    (hvalid : ∀ i ∈ (MethodModule.ofContracts m contracts).items, i.isValid runtime = true) {i : ModuleItem}
    (hi : i ∈ (MethodModule.ofContracts m contracts).items) : ∀ n ∈ i.spelled, isWord n = true := by
  have hname := ModuleItem.isName_of_isValid (hvalid i hi)
  have hmentions := isName_of_mem_mentions (MethodModule.closed_ofContracts m contracts) hvalid hi
  have hnamed := ModuleItem.isNamed_of_isValid (hvalid i hi)
  intro n hn
  refine (isName_iff.mp ?_).1
  cases i with
  | record r =>
    rw [ModuleItem.isNamed, Record.isValid, Bool.and_eq_true, Bool.and_eq_true, List.all_eq_true] at hnamed
    rcases List.mem_cons.mp hn with rfl | hn
    · exact hname
    · obtain ⟨f, hf, hn⟩ := List.mem_flatMap.mp hn
      rcases List.mem_cons.mp hn with rfl | hn
      · exact hnamed.1.2 f hf
      · exact hmentions n (List.mem_flatMap.mpr ⟨f, hf, hn⟩)
  | endpoint e =>
    rcases List.mem_cons.mp hn with rfl | hn
    · exact hname
    · rcases List.mem_cons.mp hn with rfl | hn
      · exact hname
      · exact hmentions n (mem_mentions_endpoint.mp hn)

/-- An item that is `Accepted` is `isValid` where all that is `spelled` in it `isWord`. -/
theorem isValid_of_spelled {runtime : RuntimePath} (hruntime : runtime.Serves) {i : ModuleItem}
    (hi : i ∈ (MethodModule.ofContracts m contracts).items) (hspelled : ∀ n ∈ i.spelled, isWord n = true)
    (haccepted : i.Accepted) : i.isValid runtime = true := by
  rw [ModuleItem.isValid_eq_isNamed hruntime]
  cases i with
  | record r =>
    rw [ModuleItem.isNamed, Record.isValid, hruntime.records, Bool.and_true, Bool.and_eq_true, List.all_eq_true]
    refine ⟨isName_iff.mpr ⟨hspelled _ (List.mem_cons_self ..), isIdentifier_recordName m contracts hi⟩, ?_⟩
    intro f hf
    have hmem : f.ident ∈ (ModuleItem.record r).spelled :=
      List.mem_cons_of_mem _ (List.mem_flatMap.mpr ⟨f, hf, List.mem_cons_self ..⟩)
    exact isName_iff.mpr ⟨hspelled _ hmem, (isFieldName_ident m contracts hi hf).free⟩
  | endpoint e => exact isName_iff.mpr ⟨hspelled _ (List.mem_cons_self ..), haccepted⟩

/-- All items of a module are `isValid` exactly if all that is `spelled` in it `isWord` and all items are `Accepted`. -/
theorem forall_isValid_iff {runtime : RuntimePath} (hruntime : runtime.Serves) :
    (∀ i ∈ (MethodModule.ofContracts m contracts).items, i.isValid runtime = true) ↔
      (∀ n ∈ (MethodModule.ofContracts m contracts).spelled, isWord n = true) ∧
        ∀ i ∈ (MethodModule.ofContracts m contracts).items, i.Accepted := by
  constructor
  · intro hvalid
    refine ⟨fun n hn => ?_, fun i hi => ?_⟩
    · obtain ⟨i, hi, hn⟩ := List.mem_flatMap.mp hn
      exact isWord_of_mem_spelled m contracts hvalid hi n hn
    · have hname := ModuleItem.isName_of_isValid (hvalid i hi)
      cases i with
      | record r => trivial
      | endpoint e => exact (isName_iff.mp hname).2
  · rintro ⟨hwords, haccepted⟩ i hi
    exact isValid_of_spelled m contracts hruntime hi
      (fun n hn => hwords n (List.mem_flatMap.mpr ⟨i, hi, hn⟩)) (haccepted i hi)

end Modules

end Artifact

namespace Registry

open Artifact Source

/-- **`artifactText?` gives a text exactly if `File.ofText?` accepts the `Artifact.code`** of `Artifact.ofRegistry r`,
for patterns that are `OneLine` and an `IsModulePath`. -/
theorem isSome_artifactText?_eq {r : Registry} (hlines : ∀ route ∈ r.routes, OneLine route.pattern) {runtime : String}
    (hruntime : IsModulePath runtime) : (r.artifactText? runtime).isSome =
      (File.ofText? (String.ofList ((Artifact.ofRegistry r).code runtime))).isSome := by
  obtain ⟨path, -, hserves⟩ := hruntime.exists_runtime
  have hof : ∀ mm ∈ (Artifact.ofRegistry r).modules,
      mm = MethodModule.ofContracts mm.method (r.contractsFor mm.method) := fun mm hmm =>
    MethodModule.eq_ofContracts_of_mem hmm
  have hcode := Artifact.isSome_ofText?_code hruntime (Artifact.ofRegistry r) (fun mm hmm i hi => ?_) (fun n hn => ?_)
    fun mm hmm => ?_
  · rw [Bool.eq_iff_iff, hcode, isSome_artifactText?_iff hlines hruntime, ← isValid_ofRegistry hserves r,
      Artifact.isValid, List.all_eq_true]
    have hmodule : ∀ mm ∈ (Artifact.ofRegistry r).modules, (mm.items.all (ModuleItem.isValid path) = true ↔
        (∀ n ∈ mm.spelled, Lexer.isWord n = true) ∧ ∀ i ∈ mm.items, i.Accepted) := by
      intro mm hmm
      rw [List.all_eq_true, hof mm hmm]
      exact forall_isValid_iff _ _ hserves
    rw [forall₂_congr hmodule, Artifact.spelled, List.forall_mem_flatMap, ← forall₂_and]
  · rw [hof mm hmm] at hi
    cases i with
    | record r => trivial
    | endpoint e =>
      obtain ⟨-, -, hnamed, -⟩ := MethodModule.holds_ofContracts mm.method (r.contractsFor mm.method)
      obtain ⟨p, hp, hpattern, -⟩ := hnamed _ hi
      obtain ⟨route, hroute, heq⟩ := exists_route_of_mem_contractsFor hp
      show OneLine e.pattern
      rw [hpattern, ← heq]
      exact hlines route hroute
  · obtain ⟨mm, hmm, hn⟩ := List.mem_flatMap.mp hn
    obtain ⟨i, hi, hn⟩ := List.mem_flatMap.mp hn
    rw [hof mm hmm] at hi
    exact isNameLike_of_mem_spelled _ _ hi n hn
  · rw [hof mm hmm]
    exact unreserved_ofContracts _ _

end Registry

end RouteContracts
