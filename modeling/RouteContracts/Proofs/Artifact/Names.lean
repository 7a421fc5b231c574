import RouteContracts.Proofs.Artifact.Drafting
import RouteContracts.Proofs.Text.Characters

/-! # Which names can be written
The names in a module come from patterns and from the names of fields, with more words and numbers behind
them. A name that can be written stays one, whatever of that is put behind it; so it is known beforehand
which contracts have modules that can be written.

* `isName_append`: what a name becomes with more behind it. `Names.isName_claim`: **a free form of a name can
  be written exactly when the name can.**
* `IsStem`: a text whose continuations are names as long as their characters allow.
* `Descriptor.Spellable`, `Contract.Spellable`: all names for a shape, or for a contract, can be written.
* `MethodModule.isValid_ofContracts`: **which modules can be written.** -/

namespace RouteContracts

namespace Artifact

open Source

/-! ## Names with more behind them -/

theorem isIdent_append {s : List Char} (hs : Text.isIdent s = true) (t : List Char) :
    Text.isIdent (s ++ t) = t.all Text.isIdentPart := by
  cases s with
  | nil => cases hs
  | cons c s =>
    rw [Text.isIdent, Bool.and_eq_true] at hs
    rw [List.cons_append, Text.isIdent, hs.1, List.all_append, hs.2, Bool.true_and, Bool.true_and]

/-- A text with which no keyword ends, unless it is the whole keyword. -/
def EndsNoKeyword (t : List Char) : Prop := ∀ k ∈ Peek.reserved, ∀ s, s ≠ [] → k.toList ≠ s ++ t

/-- What stands behind a name: no keyword ends with it, and it does not make a mark of rawness. -/
structure GoesBehind (t : List Char) : Prop where
  keyword : EndsNoKeyword t
  mark : t.head? ≠ some '#'

theorem not_reserved_append {s t : List Char} (ht : EndsNoKeyword t) (hs : s ≠ []) :
    Peek.reserved.contains (String.ofList (s ++ t)) = false := by
  rw [← Bool.not_eq_true, List.contains_iff_mem]
  intro hmem
  exact ht _ hmem s hs (String.toList_ofList)

theorem not_neverRaw_append {s t : List Char} (ht : EndsNoKeyword t) (hs : s ≠ []) :
    Lexer.neverRaw.contains (String.ofList (s ++ t)) = false := by
  have hsub : ∀ k ∈ Lexer.neverRaw, k ∈ Peek.reserved := by decide
  rw [← Bool.not_eq_true, List.contains_iff_mem]
  intro hmem
  exact ht _ (hsub _ hmem) s hs (String.toList_ofList)

theorem ne_nil_of_isIdent {s : List Char} (hs : Text.isIdent s = true) : s ≠ [] := by
  rintro rfl
  cases hs

/-- `isName` is `isPlainName` for characters that do not begin with `r#`. -/
theorem isName_of_plain {s : List Char} (h : ∀ rest, s ≠ 'r' :: '#' :: rest) :
    isName (String.ofList s) = isPlainName s := by
  unfold isName
  rw [String.toList_ofList]
  split
  · next rest => exact absurd rfl (h rest)
  · rfl

theorem isName_of_raw (s : List Char) : isName (String.ofList ('r' :: '#' :: s)) =
    (Text.isIdent s && !Lexer.neverRaw.contains (String.ofList s)) := by
  unfold isName
  rw [String.toList_ofList]
  rfl

/-- `Text.isIdent s` excludes that `s` begins with `r#`. -/
theorem ne_raw_of_isIdent {s : List Char} (hs : Text.isIdent s = true) (rest : List Char) :
    s ≠ 'r' :: '#' :: rest := by
  rintro rfl
  rw [Text.isIdent, List.all_cons, Bool.and_eq_true, Bool.and_eq_true] at hs
  exact absurd hs.2.1 (by decide)

/-- **`isName (n ++ t)`** holds for a name `n` exactly if all characters of `t` are `isIdentPart`, where `t`
`GoesBehind`. -/
theorem isName_append {n : String} (hn : isName n = true) {t : String} (ht : GoesBehind t.toList) :
    isName (n ++ t) = t.toList.all Text.isIdentPart := by
  have hlist : n ++ t = String.ofList (n.toList ++ t.toList) := by
    rw [← String.toList_inj, String.toList_append, String.toList_ofList]
  rw [hlist]
  unfold isName at hn
  split at hn
  · next s hs =>
    -- a raw name stays raw
    rw [Bool.and_eq_true] at hn
    rw [hs, List.cons_append, List.cons_append, isName_of_raw, isIdent_append hn.1,
      not_neverRaw_append ht.keyword (ne_nil_of_isIdent hn.1), Bool.not_false, Bool.and_true]
  · rw [isPlainName, Bool.and_eq_true] at hn
    -- nothing behind a plain name makes it raw
    have hplain : ∀ rest, n.toList ++ t.toList ≠ 'r' :: '#' :: rest := by
      intro rest h
      cases hs : n.toList with
      | nil => exact ne_nil_of_isIdent hn.1 hs
      | cons c s =>
        rw [hs, List.cons_append] at h
        obtain ⟨hc, htail⟩ := List.cons.inj h
        cases s with
        | nil =>
          rw [List.nil_append] at htail
          exact ht.mark (by rw [htail]; rfl)
        | cons d s =>
          have hd := (List.cons.inj htail).1
          exact ne_raw_of_isIdent hn.1 s (by rw [hs, hc, hd])
    rw [isName_of_plain hplain, isPlainName, isIdent_append hn.1,
      not_reserved_append ht.keyword (ne_nil_of_isIdent hn.1), Bool.not_false, Bool.and_true]

/-! ## Free forms of names -/

/-- `toString n` `GoesBehind`, and its characters are `isIdentPart`. -/
theorem goesBehind_toString (n : Nat) : GoesBehind (toString n).toList ∧
    (toString n).toList.all Text.isIdentPart = true := by
  have hlist : (toString n).toList = Nat.toDigits 10 n := by
    rw [Nat.toString_eq_ofList_toDigits, String.toList_ofList]
  have hdigit : ∀ c ∈ (toString n).toList, c.isDigit = true := by
    rw [hlist]
    exact fun c hc => Nat.isDigit_of_mem_toDigits (by decide) (by decide) hc
  have hne : (toString n).toList ≠ [] := by
    rw [hlist]
    exact Nat.toDigits_ne_nil
  have hkeyword : ∀ k ∈ Peek.reserved, k.toList.getLast?.map Char.isDigit ≠ some true := by decide
  -- a number completes no keyword, as none ends in a digit
  refine ⟨⟨fun k hk s _ h => ?_, fun h => ?_⟩, ?_⟩
  · have hlast : k.toList.getLast? = some ((toString n).toList.getLast hne) := by
      rw [h, List.getLast?_append_of_ne_nil _ hne, List.getLast?_eq_some_getLast hne]
    have hnot := hkeyword k hk
    rw [hlast, Option.map_some, hdigit _ (List.getLast_mem hne)] at hnot
    exact absurd rfl hnot
  · exact absurd (hdigit _ (List.mem_of_mem_head? h)) (by decide)
  · rw [List.all_eq_true]
    intro c hc
    have hc := hdigit c hc
    rw [Text.isIdentPart, if_pos, Char.isAlphanum, hc, Bool.or_true, Bool.true_or]
    exact Nat.lt_of_le_of_lt (Text.isDigit_toNat hc).2 (by decide)

namespace Names

theorem exists_numbered (taken : Names) (base : String) (tries n : Nat) :
    ∃ m : Nat, numbered taken base tries n = base ++ toString m := by
  induction tries generalizing n with
  | zero => exact ⟨n, rfl⟩
  | succ tries ih =>
    rw [numbered]
    split
    · exact ih (n + 1)
    · exact ⟨n, rfl⟩

/-- `claim` gives `base`, or `base` is taken and it gives `base ++ toString m`. -/
theorem claim_cases (taken : Names) (base : String) :
    (taken.claim base).1 = base ∨ base ∈ taken ∧ ∃ m : Nat, (taken.claim base).1 = base ++ toString m := by
  show taken.free base = base ∨ base ∈ taken ∧ ∃ m : Nat, taken.free base = base ++ toString m
  rw [free]
  split
  · next h =>
    rw [List.contains_iff_mem] at h
    exact .inr ⟨h, exists_numbered taken base taken.length 2⟩
  · exact .inl rfl

/-- `claim` gives `base ++ more`. -/
theorem exists_claim_append (taken : Names) (base : String) : ∃ more, (taken.claim base).1 = base ++ more := by
  rcases claim_cases taken base with h | ⟨-, m, h⟩
  · exact ⟨"", by rw [String.append_empty]; exact h⟩
  · exact ⟨toString m, h⟩

/-- **`isName` of a claimed name is `isName` of its base**, where all names that are taken are names. -/
theorem isName_claim {taken : Names} (htaken : ∀ n ∈ taken, isName n = true) (base : String) :
    isName (taken.claim base).1 = isName base := by
  rcases claim_cases taken base with h | ⟨hmem, m, h⟩
  · rw [h]
  · obtain ⟨hbehind, hall⟩ := goesBehind_toString m
    rw [h, isName_append (htaken base hmem) hbehind, hall, htaken base hmem]

end Names

/-! ## Stems -/

/-- A text whose continuations are names exactly when their characters may stand in one. -/
def IsStem (s : String) : Prop := ∀ more : String, isName (s ++ more) = more.toList.all Text.isIdentPart

namespace IsStem

variable {s : String}

theorem isName (h : IsStem s) : isName s = true := by
  rw [← String.append_empty (s := s), h]
  rfl

theorem append (h : IsStem s) {t : String} (ht : t.toList.all Text.isIdentPart = true) : IsStem (s ++ t) := by
  intro more
  rw [String.append_assoc, h, String.toList_append, List.all_append, ht, Bool.true_and]

/-- `claim` of an `IsStem` is an `IsStem`. -/
theorem claim (h : IsStem s) (taken : Names) : IsStem (taken.claim s).1 := by
  rcases Names.claim_cases taken s with hs | ⟨-, m, hs⟩
  · rwa [hs]
  · rw [hs]
    exact h.append (goesBehind_toString m).2

end IsStem

/-- A name with a capitalized word behind it `IsStem`, for keywords have capitals only in front. -/
theorem isStem_append {n : String} (hn : isName n = true) {c : Char} {t : List Char} (hc : c.isUpper = true)
    (ht : (c :: t).all Text.isIdentPart = true) : IsStem (n ++ String.ofList (c :: t)) := by
  -- behind its first letter no keyword has a capital, so none reaches over the seam
  have hkeyword : ∀ k ∈ Peek.reserved, k.toList.tail.all (fun d => decide (d.isUpper = false)) = true := by decide
  intro more
  have hbehind : GoesBehind (String.ofList (c :: t) ++ more).toList := by
    rw [String.toList_append, String.toList_ofList]
    refine ⟨fun k hk s hs h => ?_, fun h => ?_⟩
    · cases s with
      | nil => exact hs rfl
      | cons d s =>
        have hmem : c ∈ k.toList.tail := by
          rw [h]
          simp
        rw [Text.forall_mem_of_all (hkeyword k hk) c hmem] at hc
        cases hc
    · obtain rfl := Option.some.inj h
      exact absurd hc (by decide)
  rw [String.append_assoc, isName_append hn hbehind, String.toList_append, String.toList_ofList,
    List.all_append, ht, Bool.true_and]

end Artifact

/-! ## Shapes whose names can be written -/

namespace Descriptor

open Artifact

/-- A shape all of whose names can be written: those of the fields of its records and, where a field has records of its
own, the names of these, which begin with that of the field. -/
inductive Spellable : Descriptor → Prop where
  | primitive (p : Primitive) : Spellable (.primitive p)
  | object {fields : List (String × Descriptor)} (omittable : NameSet)
      (idents : ∀ f ∈ fields, isName (fieldIdent f.1) = true)
      (hints : ∀ f ∈ fields, 0 < f.2.objects → (Text.upperCamel f.1).toList.all Text.isIdentPart = true)
      (h : ∀ f ∈ fields, Spellable f.2) : Spellable (.object fields omittable)
  | array {element : Descriptor} (h : Spellable element) : Spellable (.array element)
  | optional {inner : Descriptor} (h : Spellable inner) : Spellable (.optional inner)
  | nullable {inner : Descriptor} (h : Spellable inner) : Spellable (.nullable inner)

theorem spellable_object_iff {fields : List (String × Descriptor)} {omittable : NameSet} :
    (Descriptor.object fields omittable).Spellable ↔
      (∀ f ∈ fields, isName (fieldIdent f.1) = true) ∧
        ∀ f ∈ fields, (0 < f.2.objects → (Text.upperCamel f.1).toList.all Text.isIdentPart = true) ∧
          f.2.Spellable := by
  constructor
  · intro h
    cases h with
    | object _ idents hints h => exact ⟨idents, fun f hf => ⟨hints f hf, h f hf⟩⟩
  · rintro ⟨idents, h⟩
    exact .object omittable idents (fun f hf => (h f hf).1) fun f hf => (h f hf).2

theorem spellable_array_iff {d : Descriptor} : d.array.Spellable ↔ d.Spellable :=
  ⟨fun h => by cases h; assumption, .array⟩

theorem spellable_optional_iff {d : Descriptor} : d.optional.Spellable ↔ d.Spellable :=
  ⟨fun h => by cases h; assumption, .optional⟩

theorem spellable_nullable_iff {d : Descriptor} : d.nullable.Spellable ↔ d.Spellable :=
  ⟨fun h => by cases h; assumption, .nullable⟩

/-- A shape without objects is `Spellable`. -/
theorem spellable_of_objects_eq_zero {d : Descriptor} (h : d.objects = 0) : d.Spellable := by
  induction d with
  | primitive p => exact .primitive p
  | object fields omittable _ => exact absurd h (Nat.succ_ne_zero _)
  | array d ih => exact .array (ih h)
  | optional d ih => exact .optional (ih h)
  | nullable d ih => exact .nullable (ih h)

end Descriptor

/-- A piece of a contract all of whose names can be written. -/
def PieceSpellable (piece : Option Descriptor) : Prop := ∀ d ∈ piece, d.Spellable

/-- A contract all of whose names can be written. -/
structure Contract.Spellable (c : Contract) : Prop where
  body : PieceSpellable c.body
  routeParams : PieceSpellable c.routeParams
  searchParams : PieceSpellable c.searchParams

namespace Artifact

/-! ## Drafts whose names can be written -/

/-- What is added to a draft under `hint`: `size` records, the first of them named after `hint`. They are valid exactly
when `condition` holds, provided that `hint` `IsStem`. -/
structure Spells (d d' : Draft) (hint : String) (rs : List Record) (size : Nat) (condition : Prop) : Prop where
  items : d'.items = d.items ++ rs.map ModuleItem.record
  names : ∀ n ∈ d'.names, n ∈ d.names ∨ n ∈ recordNames rs
  length : rs.length = size
  first : 0 < size → ∃ r ∈ rs, ∃ more, r.name = hint ++ more
  valid : IsStem hint → ((∀ r ∈ rs, r.isValid = true) ↔ condition)

/-- `fieldsOf` adds records that are valid exactly when the fields are `Spellable`. -/
theorem fieldsOf_spells (fields : List (String × Descriptor))
    (ih : ∀ f ∈ fields, ∀ (d : Draft) (hint : String),
      ∃ rs, Spells d (typeOf d hint f.2).2 hint rs f.2.objects f.2.Spellable)
    (d : Draft) (owner : String) (omittable : NameSet) (idents : Names) :
    ∃ rs : List Record,
      (fieldsOf d owner omittable idents fields).2.items = d.items ++ rs.map ModuleItem.record ∧
      (∀ n ∈ (fieldsOf d owner omittable idents fields).2.names, n ∈ d.names ∨ n ∈ recordNames rs) ∧
      rs.length = Descriptor.fieldsObjects fields ∧
      (IsStem owner → ((∀ r ∈ rs, r.isValid = true) ↔ ∀ f ∈ fields,
        (0 < f.2.objects → (Text.upperCamel f.1).toList.all Text.isIdentPart = true) ∧ f.2.Spellable)) ∧
      ((∀ n ∈ idents, isName n = true) →
        ((∀ f ∈ (fieldsOf d owner omittable idents fields).1, isName f.ident = true) ↔
          ∀ f ∈ fields, isName (fieldIdent f.1) = true)) := by
  induction fields generalizing d idents with
  | nil =>
    refine ⟨[], (List.append_nil _).symm, fun _ hn => .inl hn, rfl, fun _ => ?_, fun _ => ?_⟩
    · simp
    · simp [fieldsOf]
  | cons f rest ihrest =>
    obtain ⟨wireName, descriptor⟩ := f
    obtain ⟨rs, hrs⟩ := ih _ (List.mem_cons_self ..) d (owner ++ Text.upperCamel wireName)
    obtain ⟨rs', hitems', hnames', hlength', hvalid', hidents'⟩ := ihrest
      (fun f hf => ih f (List.mem_cons_of_mem _ hf)) (typeOf d (owner ++ Text.upperCamel wireName) descriptor).2
      (idents.claim (fieldIdent wireName)).2
    refine ⟨rs ++ rs', ?_, ?_, ?_, ?_, ?_⟩
    · rw [List.map_append, ← List.append_assoc, ← hrs.items]
      exact hitems'
    · intro n hn
      rw [recordNames, List.map_append, List.mem_append]
      rcases hnames' n hn with hn | hn
      · rcases hrs.names n hn with hn | hn
        · exact .inl hn
        · exact .inr (.inl hn)
      · exact .inr (.inr hn)
    · rw [List.length_append, hrs.length, hlength', Descriptor.fieldsObjects]
    · intro howner
      rw [List.forall_mem_append, List.forall_mem_cons, hvalid' howner]
      refine and_congr_left fun _ => ?_
      -- the records of a field can be named exactly when its name can go on with that of the record
      by_cases hall : (Text.upperCamel wireName).toList.all Text.isIdentPart = true
      · rw [hrs.valid (howner.append hall)]
        simp [hall]
      · rcases Nat.eq_zero_or_pos descriptor.objects with hzero | hpos
        · have hnil : rs = [] := List.eq_nil_of_length_eq_zero (hrs.length.trans hzero)
          simp [hnil, hzero, Descriptor.spellable_of_objects_eq_zero hzero]
        · obtain ⟨r, hr, more, hname⟩ := hrs.first hpos
          refine iff_of_false (fun h => ?_) fun h => hall (h.1 hpos)
          have hvalid := h r hr
          rw [Record.isValid, Bool.and_eq_true, hname, String.append_assoc, howner, String.toList_append,
            List.all_append, Bool.and_eq_true] at hvalid
          exact hall hvalid.1.1
    · intro hidents
      have hclaim : isName (idents.free (fieldIdent wireName)) = isName (fieldIdent wireName) :=
        Names.isName_claim hidents (fieldIdent wireName)
      show (∀ f ∈ (_ :: _ : List Field), isName f.ident = true) ↔ _
      rw [List.forall_mem_cons, List.forall_mem_cons]
      dsimp only
      rw [hclaim]
      refine and_congr_right fun hname => hidents' fun n hn => ?_
      rcases List.mem_cons.mp hn with rfl | hn
      · exact hclaim.trans hname
      · exact hidents n hn

/-- **`typeOf d hint a` adds records that are valid exactly when `a.Spellable`**, by induction on the descriptor. -/
theorem typeOf_spells (a : Descriptor) : ∀ (d : Draft) (hint : String),
    ∃ rs, Spells d (typeOf d hint a).2 hint rs a.objects a.Spellable := by
  induction a with
  | primitive p =>
    intro d hint
    refine ⟨[], (List.append_nil _).symm, fun _ hn => .inl hn, rfl, fun h => absurd h (Nat.lt_irrefl 0), ?_⟩
    intro _
    simp [Descriptor.Spellable.primitive]
  | object fields omittable ih =>
    intro d hint
    obtain ⟨rs, hitems, hnames, hlength, hvalid, hidents⟩ :=
      fieldsOf_spells fields ih (d.claim hint).2 (d.claim hint).1 omittable []
    let name := (d.claim hint).1
    let r : Record := ⟨name, (fieldsOf (d.claim hint).2 name omittable [] fields).1⟩
    refine ⟨rs ++ [r], ?_, ?_, ?_, fun _ => ?_, fun hstem => ?_⟩
    · show (fieldsOf (d.claim hint).2 name omittable [] fields).2.items ++ [.record r] = _
      rw [hitems, List.map_append, ← List.append_assoc]
      rfl
    · intro n hn
      rw [recordNames, List.map_append, List.mem_append]
      rcases hnames n hn with hn | hn
      · rcases List.mem_cons.mp hn with rfl | hn
        · exact .inr (.inr (List.mem_singleton.mpr rfl))
        · exact .inl hn
      · exact .inr (.inl hn)
    · rw [List.length_append, hlength]
      rfl
    · obtain ⟨more, hmore⟩ := Names.exists_claim_append d.names hint
      exact ⟨r, by simp, more, hmore⟩
    · -- the name of the record can be written in any case, so all depends on its fields
      have hname : IsStem name := hstem.claim d.names
      have hr : r.isValid = true ↔ ∀ f ∈ fields, isName (fieldIdent f.1) = true := by
        rw [Record.isValid, Bool.and_eq_true, List.all_eq_true]
        exact (and_iff_right hname.isName).trans (hidents fun _ hn => absurd hn List.not_mem_nil)
      rw [List.forall_mem_append, List.forall_mem_singleton, hvalid hname, hr,
        Descriptor.spellable_object_iff, and_comm]
  | array element ih =>
    intro d hint
    obtain ⟨rs, hrs⟩ := ih d (hint ++ "Item")
    refine ⟨rs, hrs.items, hrs.names, hrs.length, fun hpos => ?_, fun hstem => ?_⟩
    · obtain ⟨r, hr, more, hname⟩ := hrs.first hpos
      exact ⟨r, hr, "Item" ++ more, by rw [hname, String.append_assoc]⟩
    · rw [hrs.valid (hstem.append (by decide)), Descriptor.spellable_array_iff]
  | optional inner ih =>
    intro d hint
    obtain ⟨rs, hrs⟩ := ih d hint
    exact ⟨rs, hrs.items, hrs.names, hrs.length, hrs.first,
      fun hstem => (hrs.valid hstem).trans Descriptor.spellable_optional_iff.symm⟩
  | nullable inner ih =>
    intro d hint
    obtain ⟨rs, hrs⟩ := ih d hint
    exact ⟨rs, hrs.items, hrs.names, hrs.length, hrs.first,
      fun hstem => (hrs.valid hstem).trans Descriptor.spellable_nullable_iff.symm⟩

/-- `pieceType` adds records that are valid exactly when the piece is `PieceSpellable`. -/
theorem pieceType_spells (piece : Option Descriptor) (d : Draft) (hint : String) :
    ∃ rs, Spells d (pieceType d hint piece).2 hint rs (pieceObjects piece) (PieceSpellable piece) := by
  cases piece with
  | none =>
    refine ⟨[], (List.append_nil _).symm, fun _ hn => .inl hn, rfl, fun h => absurd h (Nat.lt_irrefl 0), ?_⟩
    intro _
    simp [PieceSpellable]
  | some a =>
    obtain ⟨rs, hrs⟩ := typeOf_spells a d hint
    refine ⟨rs, hrs.items, hrs.names, hrs.length, hrs.first, fun hstem => (hrs.valid hstem).trans ?_⟩
    simp [PieceSpellable]

/-! ## Modules whose names can be written -/

namespace ModuleItem

/-- The name of an item. -/
def name : ModuleItem → String
  | .record r => r.name
  | .endpoint e => e.name

theorem isName_of_isValid {runtime : RuntimePath} {i : ModuleItem} (h : i.isValid runtime = true) :
    isName i.name = true := by
  have h := isNamed_of_isValid h
  cases i with
  | record r =>
    rw [isNamed, Record.isValid, Bool.and_eq_true, Bool.and_eq_true] at h
    exact h.1.1
  | endpoint e => exact h

end ModuleItem

variable {runtime : RuntimePath}

theorem FieldType.isValid_of_serves (hruntime : runtime.Serves) (t : FieldType) : t.isValid runtime = true := by
  induction t with
  | anyJson => exact hruntime.types
  | list t ih | option t ih => exact ih
  | _ => rfl

/-- `isValid` of an item is `isNamed`, for a path that `Serves`. -/
theorem ModuleItem.isValid_eq_isNamed (hruntime : runtime.Serves) (i : ModuleItem) :
    i.isValid runtime = i.isNamed runtime := by
  have htypes : i.types.all (FieldType.isValid runtime) = true :=
    List.all_eq_true.mpr fun t _ => t.isValid_of_serves hruntime
  rw [isValid, htypes, Bool.and_true]

theorem isValid_map_record (hruntime : runtime.Serves) (rs : List Record) :
    (∀ i ∈ rs.map ModuleItem.record, i.isValid runtime = true) ↔ ∀ r ∈ rs, r.isValid = true := by
  rw [List.forall_mem_map]
  simp [ModuleItem.isValid_eq_isNamed hruntime, ModuleItem.isNamed, hruntime.records]

/-- **`addEndpoint` adds items that are `isValid` exactly when `isName (endpointName pattern)` and `c.Spellable`**,
where all names before are names. -/
theorem addEndpoint_spells (hruntime : runtime.Serves) (d : Draft) (pattern : String)
    (c : Contract) : ∃ items, (addEndpoint d pattern c).items = d.items ++ items ∧
      (∀ n ∈ (addEndpoint d pattern c).names, n ∈ d.names ∨ n ∈ items.map ModuleItem.name) ∧
      ((∀ n ∈ d.names, isName n = true) → ((∀ i ∈ items, i.isValid runtime = true) ↔
        isName (endpointName pattern) = true ∧ c.Spellable)) := by
  let name := (d.claim (endpointName pattern)).1
  let d₀ := (d.claim (endpointName pattern)).2
  obtain ⟨rs₁, h₁⟩ := pieceType_spells c.body d₀ (name ++ "Body")
  let d₁ := (pieceType d₀ (name ++ "Body") c.body).2
  obtain ⟨rs₂, h₂⟩ := pieceType_spells c.routeParams d₁ (name ++ "RouteParams")
  let d₂ := (pieceType d₁ (name ++ "RouteParams") c.routeParams).2
  obtain ⟨rs₃, h₃⟩ := pieceType_spells c.searchParams d₂ (name ++ "SearchParams")
  let e : EndpointItem := ⟨name, pattern, (pieceType d₀ (name ++ "Body") c.body).1,
    (pieceType d₁ (name ++ "RouteParams") c.routeParams).1,
    (pieceType d₂ (name ++ "SearchParams") c.searchParams).1⟩
  have hitems : (addEndpoint d pattern c).items =
      (pieceType d₂ (name ++ "SearchParams") c.searchParams).2.items ++ [.endpoint e] := rfl
  refine ⟨(rs₁ ++ rs₂ ++ rs₃).map ModuleItem.record ++ [.endpoint e], ?_, fun n hn => ?_, fun hnames => ?_⟩
  · rw [hitems, h₃.items, h₂.items, h₁.items]
    simp [d₀, Draft.claim]
  · have hrecords : ∀ rs : List Record, n ∈ recordNames rs ↔ n ∈ (rs.map ModuleItem.record).map ModuleItem.name := by
      intro rs
      rw [List.map_map]
      exact Iff.rfl
    simp only [List.map_append, List.mem_append, ← hrecords]
    rcases h₃.names n hn with hn | hn
    · rcases h₂.names n hn with hn | hn
      · rcases h₁.names n hn with hn | hn
        · rcases List.mem_cons.mp hn with rfl | hn
          · exact .inr (.inr (List.mem_singleton.mpr rfl))
          · exact .inl hn
        · exact .inr (.inl (.inl (.inl hn)))
      · exact .inr (.inl (.inl (.inr hn)))
    · exact .inr (.inl (.inr hn))
  · have hclaim : isName name = isName (endpointName pattern) := Names.isName_claim hnames _
    rw [List.forall_mem_append, List.forall_mem_singleton, isValid_map_record hruntime, List.forall_mem_append,
      List.forall_mem_append, ModuleItem.isValid_eq_isNamed hruntime]
    show _ ∧ isName name = true ↔ _
    rw [hclaim, and_comm]
    refine and_congr_right fun hname => ?_
    -- a part of the contract goes on behind the name of the endpoint with a capital letter
    have hstem : ∀ {c : Char} {t : List Char}, c.isUpper = true → (c :: t).all Text.isIdentPart = true →
        IsStem (name ++ String.ofList (c :: t)) := fun hc ht => isStem_append (hclaim.trans hname) hc ht
    rw [h₁.valid (hstem (c := 'B') (t := "ody".toList) (by decide) (by decide)),
      h₂.valid (hstem (c := 'R') (t := "outeParams".toList) (by decide) (by decide)),
      h₃.valid (hstem (c := 'S') (t := "earchParams".toList) (by decide) (by decide))]
    exact ⟨fun h => ⟨h.1.1, h.1.2, h.2⟩, fun h => ⟨⟨h.body, h.routeParams⟩, h.searchParams⟩⟩

/-- Folding `addEndpoint` over `contracts` adds items that are `isValid` exactly when each of `contracts` has its
names. -/
theorem foldl_addEndpoint_spells (hruntime : runtime.Serves) (contracts : List (String × Contract))
    (d : Draft) : ∃ items, (contracts.foldl (fun d p => addEndpoint d p.1 p.2) d).items = d.items ++ items ∧
      ((∀ n ∈ d.names, isName n = true) → ((∀ i ∈ items, i.isValid runtime = true) ↔
        ∀ p ∈ contracts, isName (endpointName p.1) = true ∧ p.2.Spellable)) := by
  induction contracts generalizing d with
  | nil => exact ⟨[], (List.append_nil _).symm, fun _ => by simp⟩
  | cons p rest ih =>
    obtain ⟨items, hitems, hnames, hvalid⟩ := addEndpoint_spells hruntime d p.1 p.2
    obtain ⟨items', hitems', hvalid'⟩ := ih (addEndpoint d p.1 p.2)
    refine ⟨items ++ items', ?_, fun hd => ?_⟩
    · rw [List.foldl_cons, hitems', hitems, List.append_assoc]
    · rw [List.forall_mem_append, List.forall_mem_cons, ← hvalid hd]
      refine and_congr_right fun hall => hvalid' fun n hn => ?_
      rcases hnames n hn with hn | hn
      · exact hd n hn
      · obtain ⟨i, hi, rfl⟩ := List.mem_map.mp hn
        exact ModuleItem.isName_of_isValid (hall i hi)

/-- **The items of `ofContracts m contracts` are `isValid`** exactly when `isName (endpointName p.1)` and
`p.2.Spellable` for each of `contracts`. -/
theorem MethodModule.isValid_ofContracts (hruntime : runtime.Serves) (m : Method)
    (contracts : List (String × Contract)) :
    (∀ i ∈ (MethodModule.ofContracts m contracts).items, i.isValid runtime = true) ↔
      ∀ p ∈ contracts, isName (endpointName p.1) = true ∧ p.2.Spellable := by
  obtain ⟨items, hitems, hvalid⟩ := foldl_addEndpoint_spells hruntime contracts Draft.empty
  rw [MethodModule.ofContracts, hitems]
  exact hvalid fun _ hn => absurd hn List.not_mem_nil

end Artifact

end RouteContracts
