import RouteContracts.Artifact.Code
import RouteContracts.Proofs.Artifact.Comments
import RouteContracts.Proofs.Artifact.ModulePaths
import RouteContracts.Proofs.Source.NamedTexts
import RouteContracts.Proofs.Source.Parsing

/-! # The trees of the code of artifacts
The code of an artifact is fixed but for the names, the patterns and the path of the library in it. Where the path is
that of a module and the patterns are on one line, the code is read as trees of a known shape if all names in it are
words, and else it is not read at all.

* `TypeTrees`, `FieldTrees`, `RecordTrees`, `MemberTrees`, `ItemTrees`, `MethodModuleTrees`, `CodeTrees`: the trees of
  each part of the code. What stands in parentheses in an attribute is left open.
* `spelled`: the names in the code, in order.
* `reading_type`: a type is read as its `TypeTrees`, by induction on the type.
* `yields_record`, `yields_endpoint`, `yields_module`: **each part of the code is read as its trees.**
* `trees?_code`: **the code is read as `CodeTrees`** exactly if all that is `spelled` in it `isWord`. -/

namespace RouteContracts

namespace Artifact

open Source Source.Lexer

/-! ## Types -/

/-- The trees of `FieldType.code`, those of the path of the library being `module`. -/
inductive TypeTrees (module : List Tree) : FieldType → List Tree → Prop where
  | text : TypeTrees module .text [.word "String"]
  | number : TypeTrees module .number [.word "f64"]
  | truth : TypeTrees module .truth [.word "bool"]
  | unit : TypeTrees module .unit [.group .parenthesis []]
  | anyJson : TypeTrees module .anyJson (module ++
      [.mark ':' true, .mark ':' false, .word "serde_json", .mark ':' true, .mark ':' false, .word "Value"])
  | record (n : String) : TypeTrees module (.record n) [.word n]
  | list {t : FieldType} {ts : List Tree} (i j : Bool) (h : TypeTrees module t ts) :
      TypeTrees module (.list t) (.word "Vec" :: .mark '<' i :: (ts ++ [.mark '>' j]))
  | option {t : FieldType} {ts : List Tree} (i j : Bool) (h : TypeTrees module t ts) :
      TypeTrees module (.option t) (.word "Option" :: .mark '<' i :: (ts ++ [.mark '>' j]))

variable {given : String} {module : List Tree} {around : List (Delimiter × List Tree)} {here : List Tree}
  {s : List Char}

/-- `Steps` over a name in front of a parameter. -/
theorem steps_generic {n : String} (hn : isWord n = true) :
    Steps ⟨around, here, n.toList ++ '<' :: s⟩ ⟨around, .mark '<' (markAtFront s) :: .word n :: here, s⟩ :=
  (Steps.word hn (endsWord_mark (by decide) s)).trans (.fixed (x := ['<']) 1 (by decide) fun _ => rfl)

/-- `Steps` over the bracket behind a parameter. -/
theorem steps_angle : Steps ⟨around, here, '>' :: s⟩ ⟨around, .mark '>' (markAtFront s) :: here, s⟩ :=
  .fixed (x := ['>']) 1 (by decide) fun _ => rfl

/-- `Steps` over the code of `.anyJson`, which add its `TypeTrees`. -/
theorem steps_anyJson (hmodule : ReadAs given.toList module) (around : List (Delimiter × List Tree)) (here : List Tree)
    (hs : EndsWord s) :
    ∃ ts, TypeTrees module .anyJson ts ∧
      Steps ⟨around, here, FieldType.anyJson.code given ++ s⟩ ⟨around, ts.reverse ++ here, s⟩ := by
  have hwhole : "::serde_json::Value" = "::serde_json::" ++ "Value" := by decide
  have hfront : FieldType.anyJson.code given ++ s =
      given.toList ++ ("::serde_json::".toList ++ ("Value".toList ++ s)) := by
    show given.toList ++ "::serde_json::Value".toList ++ s = _
    rw [hwhole, String.toList_append, List.append_assoc, List.append_assoc]
  have hmore : Steps ⟨around, module.reverse ++ here, "::serde_json::".toList ++ ("Value".toList ++ s)⟩
      ⟨around, .mark ':' false :: .mark ':' true :: .word "serde_json" :: .mark ':' false :: .mark ':' true ::
        (module.reverse ++ here), "Value".toList ++ s⟩ := .fixed 5 (by decide) fun _ => by rfl
  have hvalue := (hmodule around here _ (endsWord_colon _)).trans
    (hmore.trans (.word (n := "Value") (by decide) hs))
  refine ⟨_, .anyJson, ?_⟩
  rw [hfront, List.reverse_append, List.append_assoc]
  exact hvalue

/-- `Reading` of a type with the parameter `t`, from `Reading` of `t`. -/
theorem reading_generic (name : String) {t : FieldType} (hname : isWord name = true)
    (ht : ∀ around here s, EndsWord s → Reading t.records ⟨around, here, t.code given ++ s⟩
      fun q => ∃ ts, TypeTrees module t ts ∧ q = ⟨around, ts.reverse ++ here, s⟩) :
    Reading t.records ⟨around, here, name.toList ++ '<' :: (t.code given ++ '>' :: s)⟩ fun q =>
      ∃ ts i j, TypeTrees module t ts ∧
        q = ⟨around, (.word name :: .mark '<' i :: (ts ++ [.mark '>' j])).reverse ++ here, s⟩ := by
  rw [← List.append_nil t.records]
  refine .behind (steps_generic hname) ?_
  refine (ht around _ ('>' :: s) (endsWord_mark (by decide) s)).bind ?_
  rintro _ ⟨ts, hts, rfl⟩
  exact .of_steps steps_angle ⟨ts, markAtFront (t.code given ++ '>' :: s), markAtFront s, hts, by simp⟩

/-- **`Reading` of `t.code`**, which adds `TypeTrees` of `t`: by induction on `t`. -/
theorem reading_type (hmodule : ReadAs given.toList module) (t : FieldType)
    (hnames : ∀ n ∈ t.records, Scannable n) (around : List (Delimiter × List Tree))
    (here : List Tree) (s : List Char) (hs : EndsWord s) :
    Reading t.records ⟨around, here, t.code given ++ s⟩
      fun q => ∃ ts, TypeTrees module t ts ∧ q = ⟨around, ts.reverse ++ here, s⟩ := by
  induction t generalizing around here s with
  | text => exact .of_steps (.word (n := "String") (by decide) hs) ⟨_, .text, rfl⟩
  | number => exact .of_steps (.word (n := "f64") (by decide) hs) ⟨_, .number, rfl⟩
  | truth => exact .of_steps (.word (n := "bool") (by decide) hs) ⟨_, .truth, rfl⟩
  | unit => exact .of_steps (.fixed (x := "()".toList) 2 (by decide) fun _ => by rfl) ⟨_, .unit, rfl⟩
  | anyJson =>
    obtain ⟨ts, hts, hsteps⟩ := steps_anyJson hmodule around here hs
    exact .of_steps hsteps ⟨ts, hts, rfl⟩
  | record n =>
    exact .name (hnames n (List.mem_singleton.mpr rfl)) hs (.of_steps (.refl _) ⟨_, .record n, rfl⟩)
  | list t ih =>
    have hcode : (FieldType.list t).code given ++ s = "Vec".toList ++ '<' :: (t.code given ++ '>' :: s) := by
      show "Vec<".toList ++ t.code given ++ ">".toList ++ s = _
      rw [List.append_assoc, List.append_assoc]
      rfl
    rw [hcode]
    refine (reading_generic "Vec" (by decide) (ih hnames)).mono ?_
    rintro q ⟨ts, i, j, hts, rfl⟩
    exact ⟨_, .list i j hts, rfl⟩
  | option t ih =>
    have hcode : (FieldType.option t).code given ++ s = "Option".toList ++ '<' :: (t.code given ++ '>' :: s) := by
      show "Option<".toList ++ t.code given ++ ">".toList ++ s = _
      rw [List.append_assoc, List.append_assoc]
      rfl
    rw [hcode]
    refine (reading_generic "Option" (by decide) (ih hnames)).mono ?_
    rintro q ⟨ts, i, j, hts, rfl⟩
    exact ⟨_, .option i j hts, rfl⟩

/-- The trees of `contractTypeCode`. -/
inductive ContractTrees (module : List Tree) : Option FieldType → List Tree → Prop where
  | none : ContractTrees module none [.word "NoData"]
  | some {t : FieldType} {ts : List Tree} (h : TypeTrees module t ts) : ContractTrees module (some t) ts

/-- The names of records in a piece of a contract. -/
def pieceRecords (t : Option FieldType) : List String := t.toList.flatMap FieldType.records

/-- `Reading` of `contractTypeCode`, which adds `ContractTrees`. -/
theorem reading_contract (hmodule : ReadAs given.toList module) (t : Option FieldType)
    (hnames : ∀ n ∈ pieceRecords t, Scannable n) (hs : EndsWord s) :
    Reading (pieceRecords t) ⟨around, here, contractTypeCode given t ++ s⟩
      fun q => ∃ ts, ContractTrees module t ts ∧ q = ⟨around, ts.reverse ++ here, s⟩ := by
  cases t with
  | none => exact .of_steps (.word (n := "NoData") (by decide) hs) ⟨_, .none, rfl⟩
  | some t =>
    rw [pieceRecords, Option.toList_some, List.flatMap_singleton] at hnames ⊢
    refine (reading_type hmodule t hnames around here s hs).mono ?_
    rintro q ⟨ts, hts, hq⟩
    exact ⟨ts, .some hts, hq⟩

/-! ## Texts between commas -/

/-- `Steps` over a comma. -/
theorem steps_comma : Steps ⟨around, here, ", ".toList ++ s⟩ ⟨around, .mark ',' false :: here, s⟩ :=
  .fixed 2 (by decide) fun _ => by rfl

/-- `ReadAs` of `separated ", " xs`, as `commaTrees tss`. -/
theorem ReadAs.separated {xs : List (List Char)} {tss : List (List Tree)} (h : List.Forall₂ ReadAs xs tss) :
    ReadAs (separated ", " xs) (commaTrees tss) := by
  induction h with
  | nil => exact fun around here s _ => .refl _
  | @cons x ts xs tss hx hxs ih =>
    cases hxs with
    | nil =>
      have hone : Artifact.separated ", " [x] = x := List.append_nil x
      rw [hone, commaTrees_singleton]
      exact hx
    | @cons y us ys uss hy hys =>
      intro around here s hs
      have hcode : Artifact.separated ", " (x :: y :: ys) ++ s =
          x ++ (", ".toList ++ (Artifact.separated ", " (y :: ys) ++ s)) := by
        show x ++ (", ".toList ++ Artifact.separated ", " (y :: ys)) ++ s = _
        rw [List.append_assoc, List.append_assoc]
      have htrees : (commaTrees (ts :: us :: uss)).reverse ++ here =
          (commaTrees (us :: uss)).reverse ++ Tree.mark ',' false :: (ts.reverse ++ here) := by
        rw [commaTrees_cons_cons]
        simp
      rw [hcode, htrees]
      exact (hx around here _ (endsWord_mark (by decide) _)).trans (steps_comma.trans (ih around _ s hs))

/-- `Steps` over the equals sign between blanks. -/
theorem steps_equals : Steps ⟨around, here, " = ".toList ++ s⟩ ⟨around, .mark '=' false :: here, s⟩ :=
  .fixed 3 (by decide) fun _ => by rfl

/-- `ReadAs` of each of the `fieldAttributes`, as some trees. -/
theorem exists_readAs_attribute {f : Field} {a : String} (ha : a ∈ fieldAttributes f) :
    ∃ ts, ReadAs a.toList ts := by
  have hassign : ∀ {n x : String} {ts : List Tree}, isWord n = true → ReadAs x.toList ts →
      ReadAs (n ++ (" = " ++ x)).toList (.word n :: .mark '=' false :: ts) := by
    intro n x ts hn hx around here s hs
    rw [String.toList_append, String.toList_append, List.append_assoc, List.append_assoc, List.reverse_cons,
      List.reverse_cons, List.append_assoc, List.append_assoc]
    exact (Steps.word hn (endsWord_space (by decide) _)).trans (steps_equals.trans (hx around _ s hs))
  have hrename := hassign (n := "rename") (by decide) (ReadAs.quoted f.wireName)
  have hskip := hassign (n := "skip_serializing_if") (by decide +kernel) (ReadAs.quoted "Option::is_none")
  have hdefault : ReadAs "default".toList [.word "default"] := fun around here s hs => .word (by decide) hs
  have hfront : "rename = " = "rename" ++ " = " := by decide
  have hwhole : "skip_serializing_if = \"Option::is_none\"" =
      "skip_serializing_if" ++ (" = " ++ Text.quoted "Option::is_none") := by decide +kernel
  rw [← String.append_assoc, ← hfront] at hrename
  rw [← hwhole] at hskip
  rw [fieldAttributes, List.mem_append] at ha
  rcases ha with ha | ha
  · split at ha
    · cases ha
    · obtain rfl := List.mem_singleton.mp ha
      exact ⟨_, hrename⟩
  · split at ha
    · rcases List.mem_cons.mp ha with rfl | ha
      · exact ⟨_, hdefault⟩
      · obtain rfl := List.mem_singleton.mp ha
        exact ⟨_, hskip⟩
    · cases ha

theorem exists_forall₂ {α β : Type} {R : α → β → Prop} {xs : List α} (h : ∀ x ∈ xs, ∃ y, R x y) :
    ∃ ys, List.Forall₂ R xs ys := by
  induction xs with
  | nil => exact ⟨[], .nil⟩
  | cons x xs ih =>
    obtain ⟨y, hy⟩ := h x (List.mem_cons_self ..)
    obtain ⟨ys, hys⟩ := ih fun x hx => h x (List.mem_cons_of_mem _ hx)
    exact ⟨y :: ys, .cons hy hys⟩

/-! ## Fields and records -/

/-- The trees of `Field.code`. The attribute, where there is one, has some `arguments`. -/
inductive FieldTrees (module : List Tree) (f : Field) : List Tree → Prop where
  | plain {ts : List Tree} (h : TypeTrees module f.type ts) :
      FieldTrees module f (.word "pub" :: .word f.ident :: .mark ':' false :: (ts ++ [.mark ',' false]))
  | attributed (arguments : List Tree) {ts : List Tree} (h : TypeTrees module f.type ts) :
      FieldTrees module f (attributeTrees [.word "serde", .group .parenthesis arguments] ++
        .word "pub" :: .word f.ident :: .mark ':' false :: (ts ++ [.mark ',' false]))

/-- `Reading` of the code of a field behind its attribute. -/
theorem reading_field (hmodule : ReadAs given.toList module) (f : Field)
    (hnames : ∀ n ∈ f.ident :: f.type.records, Scannable n) :
    Reading (f.ident :: f.type.records)
      ⟨around, here,
        "    pub ".toList ++ (f.ident.toList ++ (": ".toList ++ (f.type.code given ++ (",\n".toList ++ s))))⟩
      fun q => ∃ ts, TypeTrees module f.type ts ∧ q = ⟨around,
        (.word "pub" :: .word f.ident :: .mark ':' false :: (ts ++ [.mark ',' false])).reverse ++ here, s⟩ := by
  have hpub : ∀ s, Steps ⟨around, here, "    pub ".toList ++ s⟩ ⟨around, .word "pub" :: here, s⟩ :=
    fun s => .fixed 6 (by decide) fun _ => by rfl
  have hcolon : ∀ here s, Steps ⟨around, here, ": ".toList ++ s⟩ ⟨around, .mark ':' false :: here, s⟩ :=
    fun here s => .fixed 2 (by decide) fun _ => by rfl
  have hcomma : ∀ here, Steps ⟨around, here, ",\n".toList ++ s⟩ ⟨around, .mark ',' false :: here, s⟩ :=
    fun here => .fixed 2 (by decide) fun _ => by rfl
  rw [List.forall_mem_cons] at hnames
  refine .behind (hpub _) (.name hnames.1 (endsWord_mark (by decide) _) (.behind (hcolon _ _) ?_))
  rw [← List.append_nil f.type.records]
  refine (reading_type hmodule f.type hnames.2 _ _ _ (endsWord_mark (by decide) _)).bind ?_
  rintro _ ⟨ts, hts, rfl⟩
  exact .of_steps (hcomma _) ⟨ts, hts, by simp⟩

/-- `Steps` over the end of an attribute for `serde`. -/
theorem steps_serde {inside : List Tree} : Steps
    ⟨(.parenthesis, [.word "serde"]) :: (.bracket, .mark '#' false :: here) :: around, inside, ")]\n".toList ++ s⟩
    ⟨around, (attributeTrees [.word "serde", .group .parenthesis inside.reverse]).reverse ++ here, s⟩ :=
  .fixed 3 (by decide) fun _ => by rfl

/-- **`Yields` of `Field.code`**, as `FieldTrees`. -/
theorem yields_field (hmodule : ReadAs given.toList module) (f : Field)
    (hnames : ∀ n ∈ f.ident :: f.type.records, Scannable n) :
    Yields (f.ident :: f.type.records) (f.code given) (FieldTrees module f) := by
  intro around here s
  have hopen : ∀ s, Steps ⟨around, here, "    #[serde(".toList ++ s⟩
      ⟨(.parenthesis, [.word "serde"]) :: (.bracket, .mark '#' false :: here) :: around, [], s⟩ :=
    fun s => .fixed 8 (by decide) fun _ => by rfl
  unfold Field.code
  simp only [List.append_assoc]
  cases hargs : fieldAttributes f with
  | nil =>
    refine (reading_field hmodule f hnames).mono ?_
    rintro _ ⟨ts, hts, rfl⟩
    exact ⟨_, .plain hts, rfl⟩
  | cons a as =>
    obtain ⟨tss, htss⟩ : ∃ tss, List.Forall₂ ReadAs ((a :: as).map String.toList) tss := by
      refine exists_forall₂ fun x hx => ?_
      obtain ⟨b, hb, rfl⟩ := List.mem_map.mp hx
      exact exists_readAs_attribute (hargs ▸ hb)
    simp only [List.append_assoc]
    refine .behind (hopen _) (.behind (ReadAs.separated htss _ _ _ (endsWord_mark (by decide) _))
      (.behind steps_serde ?_))
    refine (reading_field hmodule f hnames).mono ?_
    rintro _ ⟨ts, hts, rfl⟩
    exact ⟨_, .attributed (commaTrees tss) hts, by simp⟩

/-- A path of the library as a text, `given`, and as the `ModuleTrees` that it is `ReadAs`. -/
structure PathReading (given : String) (module : List Tree) : Prop where
  trees : ModuleTrees module
  readAs : ReadAs given.toList module
  plain : IsPlainText given.toList

/-- An `IsModulePath` has a `PathReading`. -/
theorem IsModulePath.exists_reading (h : IsModulePath given) : ∃ module, PathReading given module := by
  obtain ⟨module, htrees, hsteps⟩ := h.steps
  exact ⟨module, htrees, hsteps, h.isPlainText⟩

/-- `Steps` over the front of a record or an endpoint. -/
theorem steps_struct : Steps ⟨around, here, "pub struct ".toList ++ s⟩
    ⟨around, .word "struct" :: .word "pub" :: here, s⟩ :=
  .fixed 4 (by decide) fun _ => by rfl

/-- `Reading` of what `Yields` trees, in braces. -/
theorem reading_braced {ns : List String} {x : List Char} {T : List Tree → Prop} (h : Yields ns x T) :
    Reading ns ⟨around, here, " \x7b\n".toList ++ (x ++ ("\x7d\n".toList ++ s))⟩
      fun q => ∃ ts, T ts ∧ q = ⟨around, .group .brace ts :: here, s⟩ := by
  have hopen : ∀ s, Steps ⟨around, here, " \x7b\n".toList ++ s⟩ ⟨(.brace, here) :: around, [], s⟩ :=
    fun s => .fixed 3 (by decide) fun _ => by rfl
  have hclose : ∀ inside, Steps ⟨(.brace, here) :: around, inside, "\x7d\n".toList ++ s⟩
      ⟨around, .group .brace inside.reverse :: here, s⟩ := fun inside => .fixed 2 (by decide) fun _ => by rfl
  rw [← List.append_nil ns]
  refine .behind (hopen _) ((h _ _ _).bind ?_)
  rintro _ ⟨ts, hts, rfl⟩
  exact .of_steps (hclose _) ⟨ts, hts, by simp⟩

/-- The trees of `Record.code`: two attributes with some arguments, and `FieldTrees` in braces. -/
inductive RecordTrees (module : List Tree) (r : Record) : List Tree → Prop where
  | mk (derived arguments : List Tree) {tss : List (List Tree)}
      (h : List.Forall₂ (FieldTrees module) r.fields tss) :
      RecordTrees module r (attributeTrees [.word "derive", .group .parenthesis derived] ++
        (attributeTrees [.word "serde", .group .parenthesis arguments] ++
          [.word "pub", .word "struct", .word r.name, .group .brace tss.flatten]))

/-- `Steps` over the attribute `derive` of a record. -/
theorem steps_derive (hpath : PathReading given module) (around : List (Delimiter × List Tree)) (here : List Tree)
    (s : List Char) : ∃ derived, Steps
      ⟨around, here, "#[derive(Debug, Clone, PartialEq, ".toList ++ (given.toList ++ ("::serde::Serialize, ".toList ++
        (given.toList ++ ("::serde::Deserialize)]\n".toList ++ s))))⟩
      ⟨around, (attributeTrees [.word "derive", .group .parenthesis derived]).reverse ++ here, s⟩ := by
  have hopen : ∀ s, Steps ⟨around, here, "#[derive(Debug, Clone, PartialEq, ".toList ++ s⟩
      ⟨(.parenthesis, [.word "derive"]) :: (.bracket, .mark '#' false :: here) :: around,
        [.mark ',' false, .word "PartialEq", .mark ',' false, .word "Clone", .mark ',' false, .word "Debug"], s⟩ :=
    fun s => .fixed 13 (by decide) fun _ => by rfl
  have hmore : ∀ around here s, Steps ⟨around, here, "::serde::Serialize, ".toList ++ s⟩
      ⟨around, .mark ',' false :: .word "Serialize" :: .mark ':' false :: .mark ':' true :: .word "serde" ::
        .mark ':' false :: .mark ':' true :: here, s⟩ :=
    fun around here s => .fixed 8 (by decide) fun _ => by rfl
  have hclose : ∀ inside, Steps
      ⟨(.parenthesis, [.word "derive"]) :: (.bracket, .mark '#' false :: here) :: around, inside,
        "::serde::Deserialize)]\n".toList ++ s⟩
      ⟨around, (attributeTrees [.word "derive", .group .parenthesis (.word "Deserialize" :: .mark ':' false ::
        .mark ':' true :: .word "serde" :: .mark ':' false :: .mark ':' true :: inside).reverse]).reverse ++ here, s⟩ :=
    fun inside => .fixed 9 (by decide) fun _ => by rfl
  exact ⟨_, (hopen _).trans ((hpath.readAs _ _ _ (endsWord_colon _)).trans ((hmore _ _ _).trans
    ((hpath.readAs _ _ _ (endsWord_colon _)).trans (hclose _))))⟩

/-- `Steps` over the attribute `serde` of a record. -/
theorem steps_crate (hpath : PathReading given module) (around : List (Delimiter × List Tree)) (here : List Tree)
    (s : List Char) : ∃ arguments, Steps
      ⟨around, here, "#[serde(crate = \"".toList ++ (given.toList ++ ("::serde\")]\n".toList ++ s))⟩
      ⟨around, (attributeTrees [.word "serde", .group .parenthesis arguments]).reverse ++ here, s⟩ := by
  have hopen : ∀ s, Steps ⟨around, here, "#[serde(crate = ".toList ++ s⟩
      ⟨(.parenthesis, [.word "serde"]) :: (.bracket, .mark '#' false :: here) :: around,
        [.mark '=' false, .word "crate"], s⟩ := fun s => .fixed 8 (by decide) fun _ => by rfl
  have hquoted : IsPlainText (given.toList ++ "::serde".toList) := hpath.plain.append (by decide)
  have hfront : "#[serde(crate = \"" = "#[serde(crate = " ++ "\"" := by decide
  have hback : "::serde\")]\n" = "::serde" ++ ("\"" ++ ")]\n") := by decide
  have hcode : "#[serde(crate = \"".toList ++ (given.toList ++ ("::serde\")]\n".toList ++ s)) =
      "#[serde(crate = ".toList ++ '"' :: (given.toList ++ "::serde".toList ++ '"' :: (")]\n".toList ++ s)) := by
    rw [hfront, hback, String.toList_append, String.toList_append, String.toList_append]
    simp only [List.append_assoc]
    rfl
  rw [hcode]
  have hend := isIdentStart_of_endsWord (endsWord_mark (c := ')') (by decide) ("]\n".toList ++ s))
  exact ⟨_, (hopen _).trans ((hquoted.steps hend).trans steps_serde)⟩

/-- **`Yields` of `Record.code`**, as `RecordTrees`. -/
theorem yields_record (hpath : PathReading given module) (r : Record)
    (hnames : ∀ n ∈ r.name :: r.fields.flatMap fun f => f.ident :: f.type.records, Scannable n) :
    Yields (r.name :: r.fields.flatMap fun f => f.ident :: f.type.records) (r.code given) (RecordTrees module r) := by
  intro around here s
  have hfields : Yields (r.fields.flatMap fun f => f.ident :: f.type.records) (r.fields.flatMap (Field.code given)) _ :=
    Yields.flatMap fun f hf => yields_field hpath.readAs f fun n hn =>
      hnames n (List.mem_cons_of_mem _ (List.mem_flatMap.mpr ⟨f, hf, hn⟩))
  unfold Record.code
  simp only [List.append_assoc]
  obtain ⟨derived, hderive⟩ := steps_derive hpath around here _
  obtain ⟨arguments, hcrate⟩ := steps_crate hpath around _ _
  refine .behind hderive (.behind hcrate (.behind steps_struct
    (.name (hnames _ (List.mem_cons_self ..)) (endsWord_space (by decide) _) ?_)))
  refine (reading_braced hfields).mono ?_
  rintro _ ⟨_, ⟨tss, htss, rfl⟩, rfl⟩
  exact ⟨_, .mk derived arguments htss, by simp⟩

/-! ## Endpoints -/

/-- The trees of `Method::` and the `variantName` of a method. -/
def methodTrees (m : Method) : List Tree :=
  [.word "Method", .mark ':' true, .mark ':' false, .word m.variantName]

/-- The trees of `constantCode`. -/
def memberTrees (front value : List Tree) : List Tree := front ++ .mark '=' false :: (value ++ [.mark ';' false])

/-- The trees of `EndpointItem.membersCode`. -/
inductive MemberTrees (module : List Tree) (m : Method) (e : EndpointItem) : List Tree → Prop where
  | mk {body routeParams searchParams : List Tree} (hbody : ContractTrees module e.body body)
      (hrouteParams : ContractTrees module e.routeParams routeParams)
      (hsearchParams : ContractTrees module e.searchParams searchParams) :
      MemberTrees module m e (
        memberTrees [.word "const", .word "METHOD", .mark ':' false, .word "Method"] (methodTrees m) ++
        (memberTrees [.word "const", .word "PATTERN", .mark ':' false, .mark '&' true, .mark '\'' true, .word "static",
          .word "str"] [.literal (Text.quoted e.pattern)] ++
        (memberTrees [.word "type", .word "Body"] body ++
        (memberTrees [.word "type", .word "RouteParams"] routeParams ++
        memberTrees [.word "type", .word "SearchParams"] searchParams))))

/-- `Yields` of `constantCode front value`, from `Steps` over `front` and `Reading` of `value`. -/
theorem yields_member (front : String) (fronts : List Tree) {value : List Char} {ns : List String}
    {T : List Tree → Prop}
    (hfront : ∀ around here s, Steps ⟨around, here, front.toList ++ ' ' :: s⟩
      ⟨around, fronts.reverse ++ here, ' ' :: s⟩)
    (hvalue : ∀ around here s, EndsWord s → Reading ns ⟨around, here, value ++ s⟩
      fun q => ∃ ts, T ts ∧ q = ⟨around, ts.reverse ++ here, s⟩) :
    Yields ns (constantCode front value) fun ts => ∃ us, T us ∧ ts = memberTrees fronts us := by
  intro around here s
  have hindent : ∀ s, Steps ⟨around, here, "    ".toList ++ s⟩ ⟨around, here, s⟩ :=
    fun s => .fixed 4 (by decide) fun _ => by rfl
  have hend : ∀ here, Steps ⟨around, here, ";\n".toList ++ s⟩ ⟨around, .mark ';' false :: here, s⟩ :=
    fun here => .fixed 2 (by decide) fun _ => by rfl
  unfold constantCode
  simp only [List.append_assoc]
  rw [← List.append_nil ns]
  refine .behind (hindent _) (.behind (hfront _ _ _) (.behind steps_equals ?_))
  refine (hvalue _ _ _ (endsWord_mark (by decide) _)).bind ?_
  rintro _ ⟨ts, hts, rfl⟩
  exact .of_steps (hend _) ⟨_, ⟨ts, hts, rfl⟩, by simp [memberTrees]⟩

theorem readAs_method (m : Method) : ReadAs ("Method::".toList ++ m.variantName.toList) (methodTrees m) := by
  intro around here s hs
  have hvariant : isWord m.variantName = true := by cases m <;> decide
  have hmark : markAtFront (m.variantName.toList ++ s) = false := by cases m <;> rfl
  have hfront : Steps ⟨around, here, "Method::".toList ++ (m.variantName.toList ++ s)⟩
      ⟨around, .mark ':' (markAtFront (m.variantName.toList ++ s)) :: .mark ':' true :: .word "Method" :: here,
        m.variantName.toList ++ s⟩ := .fixed 3 (by decide) fun _ => by rfl
  rw [hmark] at hfront
  rw [List.append_assoc]
  exact hfront.trans (.word hvariant hs)

/-- `Yields` of `constantCode` with a `contractTypeCode`. -/
theorem yields_contract (hpath : PathReading given module) (front n : String)
    (hfront : ∀ around here s, Steps ⟨around, here, front.toList ++ ' ' :: s⟩
      ⟨around, .word n :: .word "type" :: here, ' ' :: s⟩) (t : Option FieldType)
    (hnames : ∀ n ∈ pieceRecords t, Scannable n) :
    Yields (pieceRecords t) (constantCode front (contractTypeCode given t))
      fun ts => ∃ us, ContractTrees module t us ∧ ts = memberTrees [.word "type", .word n] us :=
  yields_member front _ hfront fun _ _ _ hs => reading_contract hpath.readAs t hnames hs

/-- The code of an endpoint that stands in braces: the `METHOD`, the `PATTERN` and three types. -/
def EndpointItem.membersCode (given : String) (m : Method) (e : EndpointItem) : List Char :=
  constantCode "const METHOD: Method" ("Method::".toList ++ m.variantName.toList) ++
    (constantCode "const PATTERN: &'static str" (Text.quoted e.pattern).toList ++
    (constantCode "type Body" (contractTypeCode given e.body) ++
    (constantCode "type RouteParams" (contractTypeCode given e.routeParams) ++
    constantCode "type SearchParams" (contractTypeCode given e.searchParams))))

/-- `Yields` of `EndpointItem.membersCode`, as `MemberTrees`. -/
theorem yields_members (hpath : PathReading given module) (m : Method) (e : EndpointItem)
    (hnames : ∀ n ∈ pieceRecords e.body ++ (pieceRecords e.routeParams ++ pieceRecords e.searchParams),
      Scannable n) :
    Yields (pieceRecords e.body ++ (pieceRecords e.routeParams ++ pieceRecords e.searchParams))
      (e.membersCode given m) (MemberTrees module m e) := by
  rw [List.forall_mem_append, List.forall_mem_append] at hnames
  have hmethod : Yields [] (constantCode "const METHOD: Method" ("Method::".toList ++ m.variantName.toList))
      fun ts => ∃ us, us = methodTrees m ∧
        ts = memberTrees [.word "const", .word "METHOD", .mark ':' false, .word "Method"] us :=
    yields_member _ _ (fun around here s => .fixed 6 (by decide) fun _ => by rfl)
      fun _ _ _ hs => .of_steps (readAs_method m _ _ _ hs) ⟨_, rfl, rfl⟩
  have hpattern : Yields [] (constantCode "const PATTERN: &'static str" (Text.quoted e.pattern).toList)
      fun ts => ∃ us, us = [Tree.literal (Text.quoted e.pattern)] ∧ ts = memberTrees [.word "const", .word "PATTERN",
        .mark ':' false, .mark '&' true, .mark '\'' true, .word "static", .word "str"] us :=
    yields_member _ _ (fun around here s => .fixed 10 (by decide) fun _ => by rfl)
      fun _ _ _ hs => .of_steps (ReadAs.quoted _ _ _ _ hs) ⟨_, rfl, rfl⟩
  have hbody := yields_contract hpath "type Body" "Body"
    (fun around here s => .fixed 3 (by decide) fun _ => by rfl) e.body hnames.1
  have hroute := yields_contract hpath "type RouteParams" "RouteParams"
    (fun around here s => .fixed 3 (by decide) fun _ => by rfl) e.routeParams hnames.2.1
  have hsearch := yields_contract hpath "type SearchParams" "SearchParams"
    (fun around here s => .fixed 3 (by decide) fun _ => by rfl) e.searchParams hnames.2.2
  intro around here s
  refine ((hmethod.append (hpattern.append (hbody.append (hroute.append hsearch)))) around here s).mono ?_
  rintro _ ⟨_, ⟨_, _, ⟨_, rfl, rfl⟩, ⟨_, _, ⟨_, rfl, rfl⟩, ⟨_, _, ⟨body, hb, rfl⟩, ⟨_, _, ⟨params, hp, rfl⟩,
    ⟨search, hs, rfl⟩, rfl⟩, rfl⟩, rfl⟩, rfl⟩, rfl⟩
  exact ⟨_, .mk hb hp hs, rfl⟩

/-- The trees of `EndpointItem.code`, with `members` in the braces. -/
def endpointTrees (e : EndpointItem) (members : List Tree) : List Tree :=
  [.word "pub", .word "struct", .word e.name, .mark ';' false, .word "impl", .word "Endpoint", .word "for",
    .word e.name, .group .brace members]

/-- The names in `EndpointItem.code`, in order. -/
def EndpointItem.spelled (e : EndpointItem) : List String :=
  e.name :: e.name :: (pieceRecords e.body ++ (pieceRecords e.routeParams ++ pieceRecords e.searchParams))

/-- **`Yields` of `EndpointItem.code`**, as `endpointTrees` with `MemberTrees`. -/
theorem yields_endpoint (hpath : PathReading given module) (m : Method) (e : EndpointItem)
    (hnames : ∀ n ∈ e.spelled, Scannable n) :
    Yields e.spelled (e.code given m) fun ts => ∃ us, MemberTrees module m e us ∧ ts = endpointTrees e us := by
  intro around here s
  have himpl : ∀ here s, Steps ⟨around, here, ";\n\nimpl Endpoint for ".toList ++ s⟩
      ⟨around, .word "for" :: .word "Endpoint" :: .word "impl" :: .mark ';' false :: here, s⟩ :=
    fun here s => .fixed 9 (by decide) fun _ => by rfl
  rw [EndpointItem.spelled, List.forall_mem_cons, List.forall_mem_cons] at hnames
  have hmembers := yields_members hpath m e hnames.2.2
  have hcode : e.code given m ++ s = "pub struct ".toList ++ (e.name.toList ++ (";\n\nimpl Endpoint for ".toList ++
      (e.name.toList ++ (" \x7b\n".toList ++ (e.membersCode given m ++ ("\x7d\n".toList ++ s)))))) := by
    unfold EndpointItem.code EndpointItem.membersCode
    simp only [List.append_assoc]
  rw [hcode]
  refine .behind steps_struct (.name hnames.1 (endsWord_mark (by decide) _) (.behind (himpl _ _)
    (.name hnames.1 (endsWord_space (by decide) _) ?_)))
  refine (reading_braced hmembers).mono ?_
  rintro _ ⟨ts, hts, rfl⟩
  exact ⟨_, ⟨ts, hts, rfl⟩, by simp [endpointTrees]⟩

/-! ## Items and modules -/

/-- The trees of a documentation comment of one line. -/
def commentTrees (text : String) : List Tree :=
  attributeTrees [.word "doc", .mark '=' false, .literal text]

/-- The trees of `ModuleItem.comment` and `ModuleItem.code`. -/
inductive ItemTrees (module : List Tree) (m : Method) : ModuleItem → List Tree → Prop where
  | record {r : Record} {ts : List Tree} (h : RecordTrees module r ts) : ItemTrees module m (.record r) ts
  | endpoint {e : EndpointItem} (text : String) {ts : List Tree} (h : MemberTrees module m e ts) :
      ItemTrees module m (.endpoint e) (commentTrees text ++ endpointTrees e ts)

/-- The names in `ModuleItem.code`, in order. -/
def ModuleItem.spelled : ModuleItem → List String
  | .record r => r.name :: r.fields.flatMap fun f => f.ident :: f.type.records
  | .endpoint e => e.spelled

/-- The pattern of an endpoint is on one line. -/
def ModuleItem.OneLine : ModuleItem → Prop
  | .record _ => True
  | .endpoint e => Artifact.OneLine e.pattern

/-- `Steps` over `ModuleItem.comment` of an endpoint, which add `commentTrees`. -/
theorem steps_comment {e : EndpointItem} (m : Method) (he : Artifact.OneLine e.pattern) :
    ∃ text, ∀ around here s, Steps ⟨around, here, (ModuleItem.endpoint e).comment m ++ s⟩
      ⟨around, (commentTrees text).reverse ++ here, s⟩ := by
  let cs := '\x60' :: (m.token.toList ++ ' ' :: (e.pattern.toList ++ ['\x60']))
  have htoken : ∀ c ∈ m.token.toList, c ≠ '\n' ∧ c ≠ '\r' := by
    cases m <;> exact Text.forall_mem_of_all (by decide)
  have hnot : ∀ c, c = '\n' ∨ c = '\r' → c ∉ cs := by
    intro c hc hmem
    simp only [cs, List.mem_cons, List.mem_append, List.not_mem_nil, or_false] at hmem
    rcases hmem with h | h | h | h | h
    · rcases hc with rfl | rfl <;> exact absurd h (by decide)
    · exact hc.elim (htoken c h).1 (htoken c h).2
    · rcases hc with rfl | rfl <;> exact absurd h (by decide)
    · rcases hc with rfl | rfl
      · exact he.1 h
      · exact he.2 h
    · rcases hc with rfl | rfl <;> exact absurd h (by decide)
  refine ⟨Text.quoted (String.ofList (' ' :: cs)), fun around here s => ?_⟩
  have hcode : (ModuleItem.endpoint e).comment m ++ s = '/' :: '/' :: '/' :: ' ' :: (cs ++ '\n' :: s) := by
    show "/// \x60".toList ++ m.token.toList ++ " ".toList ++ e.pattern.toList ++ "\x60\n".toList ++ s = _
    rw [List.append_assoc, List.append_assoc, List.append_assoc, List.append_assoc]
    show '/' :: '/' :: '/' :: ' ' :: '\x60' ::
      (m.token.toList ++ (' ' :: (e.pattern.toList ++ '\x60' :: '\n' :: s))) = _
    simp [cs]
  rw [hcode]
  exact (Steps.comment (hnot _ (.inl rfl)) (hnot _ (.inr rfl))).trans (.space (by decide))

/-- **`Yields` of `ModuleItem.comment` and `ModuleItem.code`**, as `ItemTrees`. -/
theorem yields_item (hpath : PathReading given module) (m : Method) (i : ModuleItem) (hline : i.OneLine)
    (hnames : ∀ n ∈ i.spelled, Scannable n) :
    Yields i.spelled (i.comment m ++ i.code given m ++ "\n".toList) (ItemTrees module m i) := by
  have hend : ∀ around here s, Steps ⟨around, here, "\n".toList ++ s⟩ ⟨around, here, s⟩ :=
    fun around here s => .space (by decide)
  intro around here s
  rw [List.append_assoc, List.append_assoc, ← List.append_nil i.spelled]
  cases i with
  | record r =>
    have hcomment : (ModuleItem.record r).comment m = [] := rfl
    have hcode : (ModuleItem.record r).code given m = r.code given := rfl
    rw [hcomment, hcode, List.nil_append]
    refine (yields_record hpath r hnames around here _).bind ?_
    rintro _ ⟨ts, hts, rfl⟩
    exact .of_steps (hend _ _ _) ⟨ts, .record hts, rfl⟩
  | endpoint e =>
    obtain ⟨text, hcomment⟩ := steps_comment m hline
    refine .behind (hcomment _ _ _) ((yields_endpoint hpath m e hnames around _ _).bind ?_)
    rintro _ ⟨_, ⟨ts, hts, rfl⟩, rfl⟩
    exact .of_steps (hend _ _ _) ⟨_, .endpoint text hts, by simp⟩

/-- The trees of `use super::*;`. -/
def frontTrees : List Tree :=
  [.word "use", .word "super", .mark ':' true, .mark ':' true, .mark '*' true, .mark ';' false]

/-- The trees of `MethodModule.code`: `frontTrees` and `ItemTrees` in braces. -/
inductive MethodModuleTrees (module : List Tree) (mm : MethodModule) : List Tree → Prop where
  | mk {tss : List (List Tree)} (h : List.Forall₂ (ItemTrees module mm.method) mm.items tss) :
      MethodModuleTrees module mm
        [.word "pub", .word "mod", .word mm.method.moduleName, .group .brace (frontTrees ++ tss.flatten)]

/-- The names in `MethodModule.code`, in order. -/
def MethodModule.spelled (mm : MethodModule) : List String := mm.items.flatMap ModuleItem.spelled

/-- **`Yields` of `MethodModule.code`**, as `MethodModuleTrees`. -/
theorem yields_module (hpath : PathReading given module) (mm : MethodModule) (hlines : ∀ i ∈ mm.items, i.OneLine)
    (hnames : ∀ n ∈ mm.spelled, Scannable n) :
    Yields mm.spelled (mm.code given) (MethodModuleTrees module mm) := by
  intro around here s
  have hpub : ∀ s, Steps ⟨around, here, "pub mod ".toList ++ s⟩ ⟨around, .word "mod" :: .word "pub" :: here, s⟩ :=
    fun s => .fixed 4 (by decide) fun _ => by rfl
  have hname : isWord mm.method.moduleName = true := by cases mm.method <;> decide
  have hopen : ∀ here s, Steps ⟨around, here, " \x7b\n    use super::*;\n\n".toList ++ s⟩
      ⟨(.brace, here) :: around, frontTrees.reverse, s⟩ := fun here s => .fixed 16 (by decide) fun _ => by rfl
  have hclose : ∀ before inside, Steps ⟨(.brace, before) :: around, inside, "\x7d\n\n".toList ++ s⟩
      ⟨around, .group .brace inside.reverse :: before, s⟩ := fun before inside => .fixed 3 (by decide) fun _ => by rfl
  have hitems : Yields mm.spelled
      (mm.items.flatMap fun i => i.comment mm.method ++ i.code given mm.method ++ "\n".toList) _ :=
    Yields.flatMap fun i hi => yields_item hpath mm.method i (hlines i hi) fun n hn =>
        hnames n (List.mem_flatMap.mpr ⟨i, hi, hn⟩)
  unfold MethodModule.code
  rw [List.append_assoc, List.append_assoc, List.append_assoc, List.append_assoc, ← List.append_nil mm.spelled]
  refine .behind (hpub _) (.behind (.word hname (endsWord_space (by decide) _)) (.behind (hopen _ _)
    ((hitems _ _ _).bind ?_)))
  rintro _ ⟨_, ⟨tss, htss, rfl⟩, rfl⟩
  exact .of_steps (hclose _ _) ⟨_, .mk htss, by simp⟩

/-! ## All of the code -/

/-- The trees of `importCode`. -/
def importTrees (module : List Tree) : List Tree :=
  attributeTrees [.word "allow", .group .parenthesis [.word "unused_imports"]] ++
    .word "use" :: (module ++ [.mark ':' true, .mark ':' false, .group .brace [.word "Endpoint", .mark ',' false,
      .word "Method", .mark ',' false, .word "NoData"], .mark ';' false])

theorem yields_import (hpath : PathReading given module) :
    Yields [] (importCode given) (· = importTrees module) := by
  intro around here s
  have hopen : ∀ s, Steps ⟨around, here, "#[allow(unused_imports)]\nuse ".toList ++ s⟩
      ⟨around, .word "use" :: (attributeTrees [.word "allow", .group .parenthesis [.word "unused_imports"]]).reverse ++
        here, s⟩ := fun s => .fixed 10 (by decide) fun _ => by rfl
  have hnames : ∀ here s, Steps ⟨around, here, "::\x7bEndpoint, Method, NoData\x7d;\n\n".toList ++ s⟩
      ⟨around, .mark ';' false :: .group .brace [.word "Endpoint", .mark ',' false, .word "Method", .mark ',' false,
        .word "NoData"] :: .mark ':' false :: .mark ':' true :: here, s⟩ :=
    fun here s => .fixed 14 (by decide) fun _ => by rfl
  have hwhole : "::\x7bEndpoint, Method, NoData\x7d;\n\n" =
      "::\x7b" ++ ("Endpoint, Method, NoData" ++ "\x7d;\n\n") := by decide
  have hcode : importCode given ++ s = "#[allow(unused_imports)]\nuse ".toList ++
      (given.toList ++ ("::\x7bEndpoint, Method, NoData\x7d;\n\n".toList ++ s)) := by
    unfold importCode
    rw [hwhole, String.toList_append, String.toList_append]
    simp only [List.append_assoc]
  rw [hcode]
  refine .of_steps ((hopen _).trans ((hpath.readAs _ _ _ (endsWord_colon _)).trans (hnames _ _))) ⟨_, rfl, ?_⟩
  simp [importTrees]

/-- The trees of `rowCode`. -/
def rowTrees (row : Method × String) : List Tree :=
  [.group .parenthesis (methodTrees row.1 ++ [.mark ',' false, .literal (Text.quoted row.2)])]

theorem readAs_row (row : Method × String) : ReadAs (rowCode row) (rowTrees row) := by
  intro around here s _
  have hopen : ∀ s, Steps ⟨around, here, '(' :: s⟩ ⟨(.parenthesis, here) :: around, [], s⟩ :=
    fun s => .fixed (x := ['(']) 1 (by decide) fun _ => by rfl
  have hclose : ∀ inside, Steps ⟨(.parenthesis, here) :: around, inside, ")".toList ++ s⟩
      ⟨around, .group .parenthesis inside.reverse :: here, s⟩ :=
    fun inside => .fixed 1 (by decide) fun _ => by rfl
  have hcode : rowCode row ++ s = '(' :: (("Method::".toList ++ row.1.variantName.toList) ++ (", ".toList ++
      ((Text.quoted row.2).toList ++ (")".toList ++ s)))) := by
    unfold rowCode
    rw [List.append_assoc, List.append_assoc, List.append_assoc, List.append_assoc, List.append_assoc]
    rfl
  rw [hcode]
  exact (hopen _).trans ((readAs_method row.1 _ _ _ (endsWord_mark (by decide) _)).trans (steps_comma.trans
    ((ReadAs.quoted row.2 _ _ _ (endsWord_mark (by decide) _)).trans (hclose _))))

/-- The trees of `tableCode`, `text` being the literal of its comment. -/
def tableTrees (text : String) (table : List (Method × String)) : List Tree :=
  commentTrees text ++ [.word "pub", .word "const", .word "ROUTES", .mark ':' false, .mark '&' false,
    .group .bracket [.group .parenthesis [.word "Method", .mark ',' false, .mark '&' false, .word "str"]],
    .mark '=' false, .mark '&' false, .group .bracket (commaTrees (table.map rowTrees)), .mark ';' false]

theorem yields_table (table : List (Method × String)) :
    Yields [] (tableCode table) fun ts => ∃ text, ts = tableTrees text table := by
  intro around here s
  obtain ⟨text, hcomment⟩ : ∃ text, ∀ s, Steps
      ⟨around, here, "/// Every \x60(method, pattern)\x60 pair served by the application.\n".toList ++ s⟩
      ⟨around, (commentTrees text).reverse ++ here, s⟩ := by
    refine ⟨Text.quoted (String.ofList
      (' ' :: "Every \x60(method, pattern)\x60 pair served by the application.".toList)), fun s => ?_⟩
    have hline : "/// Every \x60(method, pattern)\x60 pair served by the application.\n" =
        "/// " ++ ("Every \x60(method, pattern)\x60 pair served by the application." ++ "\n") := by decide
    have h : Steps ⟨around, here, '/' :: '/' :: '/' :: ' ' ::
        ("Every \x60(method, pattern)\x60 pair served by the application.".toList ++ '\n' :: s)⟩ _ :=
      .comment (by decide +kernel) (by decide +kernel)
    rw [hline, String.toList_append, String.toList_append, List.append_assoc, List.append_assoc]
    exact h.trans (.space (by decide))
  have hopen : ∀ here s, Steps ⟨around, here, "pub const ROUTES: &[(Method, &str)] = &[".toList ++ s⟩
      ⟨(.bracket, .mark '&' false :: .mark '=' false ::
        .group .bracket [.group .parenthesis [.word "Method", .mark ',' false, .mark '&' false, .word "str"]] ::
        .mark '&' false :: .mark ':' false :: .word "ROUTES" :: .word "const" :: .word "pub" :: here) :: around, [],
        s⟩ :=
    fun here s => .fixed 22 (by decide) fun _ => by rfl
  have hclose : ∀ before inside, Steps ⟨(.bracket, before) :: around, inside, "];\n".toList ++ s⟩
      ⟨around, .mark ';' false :: .group .bracket inside.reverse :: before, s⟩ :=
    fun before inside => .fixed 3 (by decide) fun _ => by rfl
  have hrows : List.Forall₂ ReadAs (table.map rowCode) (table.map rowTrees) := by
    rw [List.forall₂_map_left_iff, List.forall₂_map_right_iff, List.forall₂_same]
    exact fun row _ => readAs_row row
  unfold tableCode
  rw [List.append_assoc, List.append_assoc, List.append_assoc]
  refine .of_steps ((hcomment _).trans ((hopen _ _).trans
    ((ReadAs.separated hrows _ _ _ (endsWord_mark (by decide) _)).trans (hclose _ _)))) ⟨_, ⟨text, rfl⟩, ?_⟩
  simp [tableTrees]

/-- The trees of `Artifact.code`: `importTrees`, `MethodModuleTrees` and `tableTrees`. -/
inductive CodeTrees (module : List Tree) (a : Artifact) : List Tree → Prop where
  | mk {tss : List (List Tree)} (text : String) (h : List.Forall₂ (MethodModuleTrees module) a.modules tss) :
      CodeTrees module a (importTrees module ++ (tss.flatten ++ tableTrees text a.table))

/-- The names in `Artifact.code`, in order. -/
def spelled (a : Artifact) : List String := a.modules.flatMap MethodModule.spelled

/-- **`trees?` of `a.code` are `CodeTrees`** if all that is `spelled` in it `isWord`, and else there are none. -/
theorem trees?_code (hpath : PathReading given module) (a : Artifact)
    (hlines : ∀ mm ∈ a.modules, ∀ i ∈ mm.items, i.OneLine)
    (hnames : ∀ n ∈ a.spelled, Scannable n) :
    ((∀ n ∈ a.spelled, isWord n = true) → ∃ ts, CodeTrees module a ts ∧ trees? (a.code given) = some ts) ∧
      ((∃ n ∈ a.spelled, isWord n = false) → trees? (a.code given) = none) := by
  have hmodules : Yields a.spelled (a.modules.flatMap (MethodModule.code given)) _ :=
    Yields.flatMap fun mm hmm => yields_module hpath mm (hlines mm hmm) fun n hn =>
      hnames n (List.mem_flatMap.mpr ⟨mm, hmm, hn⟩)
  have hcode := (((yields_import hpath).append hmodules).append (yields_table a.table)) [] [] []
  rw [List.nil_append, List.append_nil, List.append_nil] at hcode
  change Reading a.spelled ⟨[], [], a.code given⟩ _ at hcode
  have hfirst : (a.code given).head? ≠ some '\ufeff' := by
    have hfront : ∃ rest, a.code given = '#' :: rest := ⟨_, rfl⟩
    obtain ⟨rest, hfront⟩ := hfront
    rw [hfront]
    simp
  constructor
  · intro hall
    obtain ⟨_, ⟨_, ⟨_, _, ⟨_, _, rfl, ⟨tss, htss, rfl⟩, rfl⟩, ⟨text, rfl⟩, rfl⟩, rfl⟩, hsteps⟩ := hcode.steps hall
    refine ⟨_, .mk text htss, ?_⟩
    rw [Steps.trees? hsteps hfirst]
    simp
  · exact fun hnone => (hcode.stuck hnone).trees? hfirst

end Artifact

end RouteContracts
