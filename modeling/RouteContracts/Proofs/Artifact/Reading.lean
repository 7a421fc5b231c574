import RouteContracts.Artifact.Writer
import RouteContracts.Proofs.Layout.Reading
import RouteContracts.Proofs.Source.Words
import RouteContracts.Proofs.Text.Quoted

/-! # Reading artifacts
The text of an artifact tells the names of the fields of its records, in order. The parts of two artifacts
with one text are read side by side: wherever the text could go on with one part or the other, its next
character tells which.

* `Layout.Aligned.types`: types end at the same place.
* `aligned_field`, `aligned_record`: **a field tells its wire name**, and a record those of its fields.
* `wireNames_eq_of_render`: **the text of an artifact tells the names of all fields.** -/

namespace RouteContracts.Artifact

open Layout Layout.Piece

/-! ## Types -/

/-- A character at which a type ends. -/
def endsType (c : Char) : Bool := isFiller c || c == '>' || c == ';'

/-- A character of the name in front of a type. -/
def isTypeChar (c : Char) : Bool := !endsType c && c != '<'

/-- Pieces at which a type ends. -/
def Ends (ps : List Piece) : Prop := ∀ t, Lays ps t → ∀ c ∈ t.head?, endsType c = true

/-- A name that can stand in front of a type. -/
def IsTypeName (w : String) : Prop := w.toList.all isTypeChar = true ∧ w.toList ≠ []

/-- The pieces of a type: a name, or a name with a type as its parameter. -/
inductive IsType : List Piece → Prop where
  | leaf {w : String} (hw : IsTypeName w) : IsType [word w]
  | generic {w : String} (hw : IsTypeName w) {ps : List Piece} (h : IsType ps) : IsType (generic w ps)

theorem IsTypeName.isBare {w : String} (hw : IsTypeName w) : IsBare w := by
  obtain ⟨hall, hne⟩ := hw
  cases hcs : w.toList with
  | nil => exact absurd hcs hne
  | cons c rest =>
    rw [hcs, List.all_cons, Bool.and_eq_true, isTypeChar, endsType] at hall
    refine ⟨c, rest, hcs, ?_⟩
    cases hc : isFiller c with
    | false => rfl
    | true => rw [hc] at hall; exact nomatch hall.1

/-- A comma `Ends` a type. -/
theorem ends_comma (ps : List Piece) : Ends (word "," :: ps) := by
  intro t ht c hc
  cases ht with
  | word s ht =>
    obtain rfl := Option.some.inj hc
    rfl

/-- The end of a box and a semicolon `Ends` a type. -/
theorem ends_semicolon (ps : List Piece) : Ends (.stop :: word ";" :: ps) := by
  intro t ht c hc
  cases ht with
  | stop ht =>
    cases ht with
    | word s ht =>
      obtain rfl := Option.some.inj hc
      rfl

/-- The end of a list of parameters `Ends` the last of them. -/
theorem ends_parameter (ps : List Piece) : Ends (commaBack :: .stop :: word ">" :: ps) := by
  intro t ht c hc
  cases ht with
  | @gap _ _ filler t hfiller ht =>
    cases ht with
    | stop ht =>
      cases ht with
      | word s ht =>
        -- behind a parameter stand blanks and then the bracket, and both end a type
        cases filler with
        | nil =>
          obtain rfl := Option.some.inj hc
          rfl
        | cons d rest =>
          obtain rfl := Option.some.inj hc
          rw [List.all_cons, Bool.and_eq_true] at hfiller
          rw [endsType, hfiller.1]
          rfl

theorem not_isTypeChar_of_endsType {c : Char} (h : endsType c = true) : isTypeChar c = false := by
  rw [isTypeChar, h]
  rfl

/-! ## Attributes -/

/-- The words in the attribute of a field. -/
inductive IsAttribute : String → Prop where
  | rename (s : String) : IsAttribute ("rename = " ++ Text.quoted s)
  | default : IsAttribute "default"
  | skip : IsAttribute "skip_serializing_if = \"Option::is_none\""

theorem IsAttribute.isBare {a : String} (ha : IsAttribute a) : IsBare a := by
  cases ha with
  | rename s => exact IsBare.append ⟨_, _, rfl, rfl⟩ _
  | default | skip => exact ⟨_, _, rfl, rfl⟩

/-- No word in an attribute begins like its end. -/
theorem IsAttribute.head_ne {a : String} (ha : IsAttribute a) : a.toList.head? ≠ some ')' := by
  cases ha with
  | rename s => rw [String.toList_append]; exact fun h => nomatch h
  | default | skip => exact fun h => nomatch h

/-- The words in attributes tell themselves apart: of two at the front of one text, each ends where the other does. -/
theorem IsAttribute.eq_of_append_eq {a b : String} (ha : IsAttribute a) (hb : IsAttribute b)
    {t u : List Char} (h : a.toList ++ t = b.toList ++ u) : a = b ∧ t = u := by
  -- attributes of different kinds differ in the first letter
  cases ha with
  | rename s =>
    rw [String.toList_append, List.append_assoc] at h
    cases hb with
    | rename s' =>
      rw [String.toList_append, List.append_assoc] at h
      obtain ⟨rfl, htu⟩ := Text.quoted_prefix (List.append_cancel_left h)
      exact ⟨rfl, htu⟩
    | default | skip => exact nomatch (List.cons.inj h).1
  | default =>
    cases hb with
    | rename s' =>
      rw [String.toList_append, List.append_assoc] at h
      exact nomatch (List.cons.inj h).1
    | default => exact ⟨rfl, List.append_cancel_left h⟩
    | skip => exact nomatch (List.cons.inj h).1
  | skip =>
    cases hb with
    | rename s' =>
      rw [String.toList_append, List.append_assoc] at h
      exact nomatch (List.cons.inj h).1
    | default => exact nomatch (List.cons.inj h).1
    | skip => exact ⟨rfl, List.append_cancel_left h⟩

end RouteContracts.Artifact

namespace RouteContracts.Layout.Aligned

open Artifact Layout.Piece

variable {ps qs : List Piece}

/-- Of two `IsTypeName`s in front of one text, each ends where the other does. -/
theorem typeNames {w w' : String} (hw : IsTypeName w) (hw' : IsTypeName w') {t u : List Char}
    (ht : ∀ c ∈ t.head?, isTypeChar c = false) (hu : ∀ c ∈ u.head?, isTypeChar c = false)
    (h : w.toList ++ t = w'.toList ++ u) : w = w' ∧ t = u := by
  obtain ⟨hs, htu⟩ := eq_of_append_eq hw.1 hw'.1 ht hu h
  exact ⟨String.toList_inj.mp hs, htu⟩

/-- A type that is a name alone ends where any other type ends, which is then a name alone. -/
theorem leaf {w : String} (hw : IsTypeName w) {ys : List Piece} (hy : IsType ys) (hps : Ends ps)
    (hqs : Ends qs) (h : Aligned (word w :: ps) (ys ++ qs)) : Aligned ps qs := by
  cases hy with
  | @leaf w' hw' =>
    obtain ⟨t, u, heq, ht, hu⟩ := h.texts hw.isBare hw'.isBare
    obtain ⟨-, rfl⟩ := typeNames hw hw' (fun c hc => not_isTypeChar_of_endsType (hps t ht c hc))
      (fun c hc => not_isTypeChar_of_endsType (hqs u hu c hc)) heq
    exact ⟨t, t, rfl, ht, hu⟩
  | @generic w' hw' ys h' =>
    obtain ⟨t, u, heq, ht, hu⟩ := h.texts hw.isBare (hw'.isBare.append "<")
    rw [String.toList_append, List.append_assoc] at heq
    obtain ⟨-, rfl⟩ := typeNames hw hw' (fun c hc => not_isTypeChar_of_endsType (hps t ht c hc))
      (fun c hc => by obtain rfl := Option.some.inj hc; rfl) heq
    -- the name alone would be followed by the bracket of the parameter
    exact nomatch hps _ ht '<' rfl

/-- **Two types that are `Aligned` end at the same place.** -/
theorem types {xs ys : List Piece} (hx : IsType xs) (hy : IsType ys) (hps : Ends ps) (hqs : Ends qs)
    (h : Aligned (xs ++ ps) (ys ++ qs)) : Aligned ps qs := by
  induction hx generalizing ys ps qs with
  | leaf hw => exact h.leaf hw hy hps hqs
  | @generic w hw xs hxs ih =>
    cases hy with
    | leaf hw' => exact (h.symm.leaf hw' (.generic hw hxs) hqs hps).symm
    | @generic w' hw' ys hys =>
      obtain ⟨t, u, heq, ht, hu⟩ := h.texts (hw.isBare.append "<") (hw'.isBare.append "<")
      rw [String.toList_append, String.toList_append, List.append_assoc, List.append_assoc] at heq
      -- the names in front are the same up to their brackets, so the parameters begin together
      obtain ⟨-, htu⟩ := typeNames hw hw' (fun c hc => by obtain rfl := Option.some.inj hc; rfl)
        (fun c hc => by obtain rfl := Option.some.inj hc; rfl) heq
      have htu : t = u := (List.cons.inj htu).2
      have h' : Aligned (listing [xs] ++ word ">" :: ps) (listing [ys] ++ word ">" :: qs) :=
        ⟨t, u, by rw [htu], by simpa using ht, by simpa using hu⟩
      have hinner : Aligned (xs ++ commaBack :: .stop :: word ">" :: ps)
          (ys ++ commaBack :: .stop :: word ">" :: qs) := by
        simp only [listing, block, box, commas, List.cons_append, List.append_assoc, List.nil_append] at h'
        exact h'.drop.drop
      exact (ih hys (ends_parameter ps) (ends_parameter qs) hinner).drop.drop.drop

/-! ## Names and attributes -/

/-- **Two lists of attribute words that are `Aligned` are the same**, and end at the same place. -/
theorem attributes {as bs : List String} (ha : ∀ a ∈ as, IsAttribute a) (hb : ∀ b ∈ bs, IsAttribute b)
    (h : Aligned (commas (as.map fun a => [word a]) ++ zeroBack :: .stop :: word ")]" :: ps)
      (commas (bs.map fun b => [word b]) ++ zeroBack :: .stop :: word ")]" :: qs)) :
    as = bs ∧ Aligned ps qs := by
  have hclose : IsBare ")]" := ⟨_, _, rfl, rfl⟩
  -- the bracket behind the last attribute is no attribute, so neither list goes on alone
  induction as generalizing bs with
  | nil =>
    cases bs with
    | nil => exact ⟨rfl, h.drop.drop.drop⟩
    | cons b bs =>
      obtain ⟨zs, hz, -⟩ := exists_commas_cons [word b] (bs.map fun b => [word b])
        (zeroBack :: .stop :: word ")]" :: qs)
      rw [List.map_cons, hz] at h
      have hhead := ((h.drop_left rfl).drop_left rfl).head hclose (hb b (List.mem_cons_self ..)).isBare
      exact absurd hhead.symm (hb b (List.mem_cons_self ..)).head_ne
  | cons a as ih =>
    have haHead := ha a (List.mem_cons_self ..)
    obtain ⟨zs, hz, hzs⟩ := exists_commas_cons [word a] (as.map fun a => [word a])
      (zeroBack :: .stop :: word ")]" :: ps)
    rw [List.map_cons, hz] at h
    cases bs with
    | nil =>
      have hhead := ((h.symm.drop_left rfl).drop_left rfl).head hclose haHead.isBare
      exact absurd hhead.symm haHead.head_ne
    | cons b bs =>
      have hbHead := hb b (List.mem_cons_self ..)
      obtain ⟨zs', hz', hzs'⟩ := exists_commas_cons [word b] (bs.map fun b => [word b])
        (zeroBack :: .stop :: word ")]" :: qs)
      rw [List.map_cons, hz'] at h
      obtain ⟨t, u, heq, ht, hu⟩ := h.texts haHead.isBare hbHead.isBare
      obtain ⟨rfl, rfl⟩ := haHead.eq_of_append_eq hbHead heq
      obtain ⟨rfl, hend⟩ := ih (fun a hm => ha a (List.mem_cons_of_mem _ hm))
        (fun b hm => hb b (List.mem_cons_of_mem _ hm)) (hzs.aligned hzs' ⟨t, t, rfl, ht, hu⟩)
      exact ⟨rfl, hend⟩

/-- Two names between the same words are the same. -/
theorem named {before after : String} (hbefore : IsBare before) {n n' : String}
    (hn : n.toList.all Text.isWordChar = true) (hn' : n'.toList.all Text.isWordChar = true)
    (hafter : ∃ c w, after.toList = c :: w ∧ Text.isWordChar c = false)
    (h : Aligned (word (before ++ n ++ after) :: ps) (word (before ++ n' ++ after) :: qs)) :
    n = n' ∧ Aligned ps qs := by
  obtain ⟨t, u, heq, ht, hu⟩ := h.texts ((hbefore.append n).append after) ((hbefore.append n').append after)
  obtain ⟨c, w, hw, hc⟩ := hafter
  simp only [String.toList_append, List.append_assoc, hw] at heq
  obtain ⟨hs, htu⟩ := eq_of_append_eq hn hn' (fun d hd => by obtain rfl := Option.some.inj hd; exact hc)
    (fun d hd => by obtain rfl := Option.some.inj hd; exact hc) (List.append_cancel_left heq)
  exact ⟨String.toList_inj.mp hs, t, t, rfl, ht, List.append_cancel_left htu ▸ hu⟩

end RouteContracts.Layout.Aligned

namespace RouteContracts.Artifact

open Layout Layout.Piece

variable {runtime : RuntimePath} {ps qs : List Piece}

/-! ## Fields -/

theorem isAttribute_of_mem {f : Field} {a : String} (ha : a ∈ fieldAttributes f) : IsAttribute a := by
  unfold fieldAttributes at ha
  rw [List.mem_append] at ha
  rcases ha with ha | ha
  · split at ha
    · exact absurd ha List.not_mem_nil
    · rw [List.mem_singleton.mp ha]
      exact .rename f.wireName
  · split at ha
    · rcases List.mem_cons.mp ha with rfl | ha
      · exact .default
      · rw [List.mem_singleton.mp ha]
        exact .skip
    · exact absurd ha List.not_mem_nil

/-- `f.ident` and `fieldAttributes f` tell `f.wireName`. -/
theorem wireName_eq {f g : Field} (hident : f.ident = g.ident) (h : fieldAttributes f = fieldAttributes g) :
    f.wireName = g.wireName := by
  have hrename : ∀ (b : Bool) (q : String) (rest : List String),
      (if b then ["default", "skip_serializing_if = \"Option::is_none\""] else []) ≠
        ("rename = " ++ q) :: rest := by
    intro b q rest
    cases b with
    | false => exact fun h => nomatch h
    | true =>
      intro h
      have hhead := congrArg (fun s : String => s.toList.head?) (List.cons.inj h).1
      rw [String.toList_append] at hhead
      exact nomatch hhead
  unfold fieldAttributes at h
  rw [hident] at h
  -- the name is there exactly where the identifier does not imply it
  by_cases hf : impliedWireName g.ident = f.wireName
  · by_cases hg : impliedWireName g.ident = g.wireName
    · rw [← hf, hg]
    · rw [if_pos hf, if_neg hg] at h
      exact absurd h (hrename f.omittable _ _)
  · by_cases hg : impliedWireName g.ident = g.wireName
    · rw [if_neg hf, if_pos hg] at h
      exact absurd h.symm (hrename g.omittable _ _)
    · rw [if_neg hf, if_neg hg] at h
      have hquoted := congrArg String.toList (List.cons.inj h).1
      rw [String.toList_append, String.toList_append] at hquoted
      have hq := List.append_cancel_left hquoted
      exact (Text.quoted_prefix (t := []) (u := []) (by rw [List.append_nil, List.append_nil, hq])).1

/-- The attribute of a field, if it has one. -/
def attributePieces (f : Field) : List Piece :=
  match fieldAttributes f with
  | [] => []
  | arguments => decorated "serde" arguments

/-- **Two attributes in front of fields are the same.** -/
theorem aligned_attributes {f g : Field}
    (h : Aligned (attributePieces f ++ word ("pub " ++ f.ident ++ ": ") :: ps)
      (attributePieces g ++ word ("pub " ++ g.ident ++ ": ") :: qs)) :
    fieldAttributes f = fieldAttributes g ∧
      Aligned (word ("pub " ++ f.ident ++ ": ") :: ps) (word ("pub " ++ g.ident ++ ": ") :: qs) := by
  have hpub : ∀ n : String, IsBare ("pub " ++ n ++ ": ") := fun n =>
    (IsBare.append ⟨_, _, rfl, rfl⟩ n).append ": "
  have hopen : IsBare "#[serde(" := ⟨_, _, rfl, rfl⟩
  have hne : ∀ n : String, ("pub " ++ n ++ ": ").toList.head? ≠ "#[serde(".toList.head? := by
    intro n
    rw [String.toList_append, String.toList_append]
    exact fun h => nomatch h
  have hattr : ∀ f : Field, ∀ a ∈ fieldAttributes f, IsAttribute a := fun _ _ => isAttribute_of_mem
  unfold attributePieces at h
  -- a field begins with its attribute or, without one, with `pub`
  cases hf : fieldAttributes f with
  | nil =>
    cases hg : fieldAttributes g with
    | nil => rw [hf, hg] at h; exact ⟨rfl, h⟩
    | cons b bs => rw [hf, hg] at h; exact absurd (h.head (hpub f.ident) hopen) (hne f.ident)
  | cons a as =>
    cases hg : fieldAttributes g with
    | nil => rw [hf, hg] at h; exact absurd (h.head hopen (hpub g.ident)).symm (hne g.ident)
    | cons b bs =>
      rw [hf, hg] at h
      simp only [decorated, block, box, List.cons_append, List.append_assoc, List.nil_append] at h
      obtain ⟨heq, hend⟩ := h.drop.drop.drop.attributes (hf ▸ hattr f) (hg ▸ hattr g)
      exact ⟨heq, hend.drop⟩

/-- A field whose parts can be read: its identifier is a name, and the pieces of its type are those of a type. -/
structure Field.Readable (runtime : RuntimePath) (f : Field) : Prop where
  ident : f.ident.toList.all Text.isWordChar = true
  type : IsType (typePieces runtime f.type)

/-- **`fieldPieces` tells `wireName`**, and where the field ends. -/
theorem aligned_field {f g : Field} (hf : f.Readable runtime) (hg : g.Readable runtime)
    (h : Aligned (fieldPieces runtime f ++ ps) (fieldPieces runtime g ++ qs)) :
    f.wireName = g.wireName ∧ Aligned ps qs := by
  have hshape : ∀ (f : Field) (ps : List Piece), fieldPieces runtime f ++ ps =
      attributePieces f ++ word ("pub " ++ f.ident ++ ": ") :: (typePieces runtime f.type ++ word "," :: ps) := by
    intro f ps
    unfold fieldPieces attributePieces
    cases fieldAttributes f with
    | nil => simp
    | cons a as => simp
  rw [hshape, hshape] at h
  obtain ⟨hattributes, h⟩ := aligned_attributes h
  obtain ⟨hident, h⟩ := h.named ⟨_, _, rfl, rfl⟩ hf.ident hg.ident ⟨':', _, rfl, by decide⟩
  exact ⟨wireName_eq hident hattributes, (h.types hf.type hg.type (ends_comma _) (ends_comma _)).drop⟩

/-! ## Records -/

/-- `fieldPieces` begins with a word that does not begin like the end of a record. -/
theorem exists_fieldPieces (runtime : RuntimePath) (f : Field) :
    ∃ w rest, fieldPieces runtime f = word w :: rest ∧ IsBare w ∧ w.toList.head? ≠ some '\x7d' := by
  unfold fieldPieces
  split
  · refine ⟨"pub " ++ f.ident ++ ": ", _, rfl, (IsBare.append ⟨_, _, rfl, rfl⟩ f.ident).append ": ", ?_⟩
    rw [String.toList_append, String.toList_append]
    exact fun h => nomatch h
  · exact ⟨"#[serde(", _, rfl, ⟨_, _, rfl, rfl⟩, fun h => nomatch h⟩

/-- **The fields of a record tell their `wireName`s**, and where the record ends. -/
theorem aligned_fields {fs gs : List Field} (hf : ∀ f ∈ fs, f.Readable runtime)
    (hg : ∀ g ∈ gs, g.Readable runtime)
    (h : Aligned (linesBack (fs.map (fieldPieces runtime)) ++ .stop :: word "\x7d" :: ps)
      (linesBack (gs.map (fieldPieces runtime)) ++ .stop :: word "\x7d" :: qs)) :
    fs.map Field.wireName = gs.map Field.wireName ∧ Aligned ps qs := by
  have hclose : IsBare "\x7d" := ⟨_, _, rfl, rfl⟩
  -- the brace behind the last field is no field, so neither record goes on alone
  induction fs generalizing gs with
  | nil =>
    cases gs with
    | nil => exact ⟨rfl, h.drop.drop⟩
    | cons g gs =>
      obtain ⟨zs, hz, -⟩ := exists_linesBack_cons (fieldPieces runtime g) (gs.map (fieldPieces runtime))
        (.stop :: word "\x7d" :: qs)
      obtain ⟨w, rest, hw, hbare, hne⟩ := exists_fieldPieces runtime g
      rw [List.map_cons, hz, hw] at h
      exact absurd ((h.drop_left rfl).head hclose hbare).symm hne
  | cons f fs ih =>
    obtain ⟨zs, hz, hzs⟩ := exists_linesBack_cons (fieldPieces runtime f) (fs.map (fieldPieces runtime))
      (.stop :: word "\x7d" :: ps)
    rw [List.map_cons, hz] at h
    cases gs with
    | nil =>
      obtain ⟨w, rest, hw, hbare, hne⟩ := exists_fieldPieces runtime f
      rw [hw] at h
      exact absurd ((h.symm.drop_left rfl).head hclose hbare).symm hne
    | cons g gs =>
      obtain ⟨zs', hz', hzs'⟩ := exists_linesBack_cons (fieldPieces runtime g)
        (gs.map (fieldPieces runtime)) (.stop :: word "\x7d" :: qs)
      rw [List.map_cons, hz'] at h
      obtain ⟨hname, h⟩ := aligned_field (hf f (List.mem_cons_self ..)) (hg g (List.mem_cons_self ..)) h
      obtain ⟨hnames, h⟩ := ih (fun f hm => hf f (List.mem_cons_of_mem _ hm))
        (fun g hm => hg g (List.mem_cons_of_mem _ hm)) (hzs.aligned hzs' h)
      exact ⟨by rw [List.map_cons, List.map_cons, hname, hnames], h⟩

/-- After the head of `braced` come its entries. -/
theorem exists_braced (head : List Piece) (entries : List (List Piece)) (xs : List Piece) :
    ∃ zs, braced head entries ++ xs = .start .consistent step :: (head ++ word "\x7b" :: zs) ∧
      LeadsTo zs (linesBack entries ++ .stop :: word "\x7d" :: xs) := by
  cases entries with
  | nil => exact ⟨.stop :: word "\x7d" :: xs, by simp [braced, block, box], .refl _⟩
  | cons e rest =>
    refine ⟨line :: (linesBack (e :: rest) ++ .stop :: word "\x7d" :: xs), ?_, .gap _ _⟩
    simp [braced, block, box]

/-- Where the heads of two `braced` parts end together, their entries are `Aligned`. -/
theorem aligned_braced {head head' : List Piece} {entries entries' : List (List Piece)}
    (hend : ∀ zs zs', Aligned (head ++ zs) (head' ++ zs') → Aligned zs zs')
    (h : Aligned (braced head entries ++ ps) (braced head' entries' ++ qs)) :
    Aligned (linesBack entries ++ .stop :: word "\x7d" :: ps)
      (linesBack entries' ++ .stop :: word "\x7d" :: qs) := by
  obtain ⟨zs, hz, hzs⟩ := exists_braced head entries ps
  obtain ⟨zs', hz', hzs'⟩ := exists_braced head' entries' qs
  rw [hz, hz'] at h
  exact hzs.aligned hzs' (hend _ _ h.drop).drop

/-- A record whose parts can be read. -/
structure Record.Readable (runtime : RuntimePath) (r : Record) : Prop where
  name : r.name.toList.all Text.isWordChar = true
  fields : ∀ f ∈ r.fields, f.Readable runtime

/-- **`recordPieces` tells the `wireName`s of the fields**, and where the record ends. -/
theorem aligned_record {r r' : Record} (hr : r.Readable runtime) (hr' : r'.Readable runtime)
    (h : Aligned (recordPieces runtime r ++ ps) (recordPieces runtime r' ++ qs)) :
    r.fields.map Field.wireName = r'.fields.map Field.wireName ∧ Aligned ps qs := by
  simp only [recordPieces, List.append_assoc] at h
  refine aligned_fields hr.fields hr'.fields (aligned_braced ?_ ((h.drop_append _).drop_append _))
  intro zs zs' h
  exact (h.named ⟨_, _, rfl, rfl⟩ hr.name hr'.name ⟨' ', _, rfl, by decide⟩).2

/-! ## Items -/

/-- Two associated types end at the same place. -/
theorem aligned_associatedType (name : String) {t t' : Option FieldType}
    (ht : IsType (contractType runtime t)) (ht' : IsType (contractType runtime t'))
    (h : Aligned (associatedType runtime name t ++ ps) (associatedType runtime name t' ++ qs)) :
    Aligned ps qs := by
  simp only [associatedType, block, box, List.cons_append, List.append_assoc, List.nil_append] at h
  exact (h.drop.drop.drop.drop.types ht ht' (ends_semicolon _) (ends_semicolon _)).drop.drop.drop

/-- An endpoint whose parts can be read. -/
structure EndpointItem.Readable (runtime : RuntimePath) (e : EndpointItem) : Prop where
  name : e.name.toList.all Text.isWordChar = true
  body : IsType (contractType runtime e.body)
  routeParams : IsType (contractType runtime e.routeParams)
  searchParams : IsType (contractType runtime e.searchParams)

/-- **Two endpoints of one pattern end at the same place.** -/
theorem aligned_endpoint {m : Method} {documentation : List String} {e e' : EndpointItem}
    (he : e.Readable runtime) (he' : e'.Readable runtime) (hpattern : e.pattern = e'.pattern)
    {as bs : List (List Piece)}
    (h : Aligned (linesBack (endpointPieces runtime m documentation e ++ as) ++ ps)
      (linesBack (endpointPieces runtime m documentation e' ++ bs) ++ qs)) :
    Aligned (linesBack as ++ ps) (linesBack bs ++ qs) := by
  simp only [endpointPieces, List.cons_append, List.nil_append] at h
  have hname : e.name = e'.name := by
    obtain ⟨zs, hz, -⟩ := exists_linesBack_cons
      (documentation.flatMap documentationPieces ++ block [word ("pub struct " ++ e.name ++ ";")]) _ ps
    obtain ⟨zs', hz', -⟩ := exists_linesBack_cons
      (documentation.flatMap documentationPieces ++ block [word ("pub struct " ++ e'.name ++ ";")]) _ qs
    rw [hz, hz', List.append_assoc, List.append_assoc] at h
    exact ((h.drop_append _).drop.named ⟨_, _, rfl, rfl⟩ he.name he'.name ⟨';', _, rfl, by decide⟩).1
  rw [hname, hpattern] at h
  have hsame : ∀ (xs zs zs' : List Piece), Aligned (xs ++ zs) (xs ++ zs') → Aligned zs zs' :=
    fun xs _ _ h => h.drop_append xs
  refine aligned_linesBack_cons (fun zs zs' h => ?_) (aligned_linesBack_cons (hsame _) h)
  -- all that stands before the types is the same
  have h := aligned_linesBack_cons (hsame _) (aligned_linesBack_cons (hsame _) (aligned_braced (hsame _) h))
  have h := aligned_linesBack_cons (fun _ _ => aligned_associatedType _ he.body he'.body) h
  have h := aligned_linesBack_cons (fun _ _ => aligned_associatedType _ he.routeParams he'.routeParams) h
  have h := aligned_linesBack_cons (fun _ _ => aligned_associatedType _ he.searchParams he'.searchParams) h
  exact h.drop.drop

namespace ModuleItem

/-- The kind of an item: a record, or the endpoint of a pattern. -/
def kind : ModuleItem → Option String
  | .record _ => none
  | .endpoint e => some e.pattern

/-- The names of the fields of an item on the wire. -/
def wireNames : ModuleItem → List String
  | .record r => r.fields.map Field.wireName
  | .endpoint _ => []

/-- An item whose parts can be read. -/
def Readable (runtime : RuntimePath) : ModuleItem → Prop
  | .record r => r.Readable runtime
  | .endpoint e => e.Readable runtime

end ModuleItem

/-- `mapM` of a list that is not empty gives the value of its head first. -/
theorem exists_of_mapM_cons {α β : Type} {f : α → Option β} {x : α} {xs : List α} {ys : List β}
    (h : (x :: xs).mapM f = some ys) : ∃ y ys', f x = some y ∧ xs.mapM f = some ys' ∧ ys = y :: ys' := by
  rw [List.mapM_cons, Option.bind_eq_bind, Option.bind_eq_some_iff] at h
  obtain ⟨y, hy, h⟩ := h
  rw [Option.bind_eq_bind, Option.bind_eq_some_iff] at h
  obtain ⟨ys', hys, h⟩ := h
  exact ⟨y, ys', hy, hys, (Option.some.inj h).symm⟩

/-- The first of two lists of items tells its `wireNames`, where both have one `kind`. -/
theorem aligned_item {m : Method} {i j : ModuleItem} (hkind : i.kind = j.kind) (hi : i.Readable runtime)
    (hj : j.Readable runtime) {a b as bs : List (List Piece)} (ha : itemPieces? runtime m i = some a)
    (hb : itemPieces? runtime m j = some b)
    (h : Aligned (linesBack (a ++ as) ++ ps) (linesBack (b ++ bs) ++ qs)) :
    i.wireNames = j.wireNames ∧ Aligned (linesBack as ++ ps) (linesBack bs ++ qs) := by
  cases i with
  | record r =>
    cases j with
    | record r' =>
      obtain rfl := Option.some.inj ha
      obtain rfl := Option.some.inj hb
      obtain ⟨zs, hz, hzs⟩ := exists_linesBack_cons (recordPieces runtime r) as ps
      obtain ⟨zs', hz', hzs'⟩ := exists_linesBack_cons (recordPieces runtime r') bs qs
      rw [List.singleton_append, List.singleton_append, hz, hz'] at h
      obtain ⟨hnames, h⟩ := aligned_record hi hj h
      exact ⟨hnames, hzs.aligned hzs' h⟩
    | endpoint e' => exact nomatch hkind
  | endpoint e =>
    cases j with
    | record r' => exact nomatch hkind
    | endpoint e' =>
      -- equal patterns have equal comments, so that these do not tell the endpoints apart
      have hpattern : e.pattern = e'.pattern := Option.some.inj hkind
      rw [itemPieces?, Option.bind_eq_bind, Option.bind_eq_some_iff] at ha hb
      obtain ⟨documentation, hdoc, ha⟩ := ha
      obtain ⟨documentation', hdoc', hb⟩ := hb
      rw [hpattern, hdoc'] at hdoc
      obtain rfl := Option.some.inj hdoc
      obtain rfl := Option.some.inj ha
      obtain rfl := Option.some.inj hb
      exact ⟨rfl, aligned_endpoint hi hj hpattern h⟩

/-- **Items of the same `kind`s tell their `wireNames`**, and where they end. -/
theorem aligned_items {m : Method} {is js : List ModuleItem}
    (hkinds : is.map ModuleItem.kind = js.map ModuleItem.kind) (hi : ∀ i ∈ is, i.Readable runtime)
    (hj : ∀ j ∈ js, j.Readable runtime) {as bs : List (List (List Piece))}
    (ha : is.mapM (itemPieces? runtime m) = some as) (hb : js.mapM (itemPieces? runtime m) = some bs)
    (h : Aligned (linesBack as.flatten ++ ps) (linesBack bs.flatten ++ qs)) :
    is.flatMap ModuleItem.wireNames = js.flatMap ModuleItem.wireNames ∧ Aligned ps qs := by
  induction is generalizing js as bs with
  | nil =>
    obtain rfl := List.map_eq_nil_iff.mp hkinds.symm
    obtain rfl := Option.some.inj ha
    obtain rfl := Option.some.inj hb
    exact ⟨rfl, h⟩
  | cons i is ih =>
    cases js with
    | nil => exact nomatch hkinds
    | cons j js =>
      obtain ⟨hkind, hkinds⟩ := List.cons.inj hkinds
      obtain ⟨a, as, hai, has, rfl⟩ := exists_of_mapM_cons ha
      obtain ⟨b, bs, hbj, hbs, rfl⟩ := exists_of_mapM_cons hb
      -- the lines of the first item are read, and those of the others stand behind them
      rw [List.flatten_cons, List.flatten_cons] at h
      obtain ⟨hname, h⟩ := aligned_item hkind (hi i (List.mem_cons_self ..)) (hj j (List.mem_cons_self ..))
        hai hbj h
      obtain ⟨hnames, h⟩ := ih hkinds (fun i hm => hi i (List.mem_cons_of_mem _ hm))
        (fun j hm => hj j (List.mem_cons_of_mem _ hm)) has hbs h
      exact ⟨by rw [List.flatMap_cons, List.flatMap_cons, hname, hnames], h⟩

/-! ## Modules and artifacts -/

namespace MethodModule

/-- The method of a module and the kinds of its items. -/
def kinds (m : MethodModule) : Method × List (Option String) := (m.method, m.items.map ModuleItem.kind)

/-- The names of the fields of all records of a module on the wire, in order. -/
def wireNames (m : MethodModule) : List String := m.items.flatMap ModuleItem.wireNames

end MethodModule

/-- **Modules of the same `kinds` tell their `wireNames`**, and where they end. -/
theorem aligned_module {m n : MethodModule} (hkinds : m.kinds = n.kinds) (hm : ∀ i ∈ m.items, i.Readable runtime)
    (hn : ∀ i ∈ n.items, i.Readable runtime) {xs ys : List Piece} (hxs : modulePieces? runtime m = some xs)
    (hys : modulePieces? runtime n = some ys) (h : Aligned (xs ++ ps) (ys ++ qs)) :
    m.wireNames = n.wireNames ∧ Aligned ps qs := by
  rw [modulePieces?, Option.bind_eq_bind, Option.bind_eq_some_iff] at hxs hys
  obtain ⟨as, has, hxs⟩ := hxs
  obtain ⟨bs, hbs, hys⟩ := hys
  obtain rfl := Option.some.inj hxs
  obtain rfl := Option.some.inj hys
  obtain ⟨hmethod, hkinds⟩ := Prod.mk.inj hkinds
  rw [hmethod] at has h
  have hsame : ∀ (xs zs zs' : List Piece), Aligned (xs ++ zs) (xs ++ zs') → Aligned zs zs' :=
    fun xs _ _ h => h.drop_append xs
  -- everything in front of the items is the same on both sides
  have h := aligned_linesBack_cons (hsame _) (aligned_braced (hsame _) h)
  obtain ⟨hnames, h⟩ := aligned_items hkinds hm hn has hbs h
  exact ⟨hnames, h.drop.drop⟩

/-- Modules one after another tell their `wireNames`. -/
theorem aligned_modules {ms ns : List MethodModule} (hkinds : ms.map MethodModule.kinds = ns.map MethodModule.kinds)
    (hm : ∀ m ∈ ms, ∀ i ∈ m.items, i.Readable runtime) (hn : ∀ n ∈ ns, ∀ i ∈ n.items, i.Readable runtime)
    {xs ys : List (List Piece)} (hxs : ms.mapM (modulePieces? runtime) = some xs)
    (hys : ns.mapM (modulePieces? runtime) = some ys)
    (h : Aligned (xs.flatMap (fun part => part ++ [line]) ++ ps) (ys.flatMap (fun part => part ++ [line]) ++ qs)) :
    ms.flatMap MethodModule.wireNames = ns.flatMap MethodModule.wireNames := by
  induction ms generalizing ns xs ys with
  | nil =>
    obtain rfl := List.map_eq_nil_iff.mp hkinds.symm
    rfl
  | cons m ms ih =>
    cases ns with
    | nil => exact nomatch hkinds
    | cons n ns =>
      obtain ⟨hkind, hkinds⟩ := List.cons.inj hkinds
      obtain ⟨x, xs, hx, hrest, rfl⟩ := exists_of_mapM_cons hxs
      obtain ⟨y, ys, hy, hrest', rfl⟩ := exists_of_mapM_cons hys
      simp only [List.flatMap_cons, List.append_assoc, List.cons_append, List.nil_append] at h
      obtain ⟨hname, h⟩ := aligned_module hkind (hm m (List.mem_cons_self ..)) (hn n (List.mem_cons_self ..))
        hx hy h
      have hnames := ih hkinds (fun m hmem => hm m (List.mem_cons_of_mem _ hmem))
        (fun n hmem => hn n (List.mem_cons_of_mem _ hmem)) hrest hrest' h.drop
      rw [List.flatMap_cons, List.flatMap_cons, hname, hnames]

/-- **The text of an artifact tells the names of the fields of its records**, in order: `render` of two artifacts whose
modules have the same `kinds` gives one text only if they have the same `wireNames`. -/
theorem wireNames_eq_of_render {a b : Artifact}
    (hkinds : a.modules.map MethodModule.kinds = b.modules.map MethodModule.kinds)
    (ha : ∀ m ∈ a.modules, ∀ i ∈ m.items, i.Readable runtime)
    (hb : ∀ m ∈ b.modules, ∀ i ∈ m.items, i.Readable runtime)
    (hps : a.pieces? runtime = some ps) (hqs : b.pieces? runtime = some qs) (htext : render ps = render qs) :
    a.modules.flatMap MethodModule.wireNames = b.modules.flatMap MethodModule.wireNames := by
  rw [pieces?, Option.bind_eq_bind, Option.bind_eq_some_iff] at hps hqs
  obtain ⟨xs, hxs, hps⟩ := hps
  obtain ⟨ys, hys, hqs⟩ := hqs
  obtain rfl := Option.some.inj hps
  obtain rfl := Option.some.inj hqs
  have h := aligned_of_render htext
  simp only [artifactOf, Piece.box, List.flatMap_append, List.flatMap_cons, List.flatMap_nil, List.append_assoc,
    List.cons_append, List.nil_append, List.append_nil] at h
  exact aligned_modules hkinds ha hb hxs hys (h.drop.drop_append _).drop

end RouteContracts.Artifact
