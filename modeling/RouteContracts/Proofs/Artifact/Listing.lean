import RouteContracts.Proofs.Artifact.Scoping

/-! # Reading the words of artifacts
The words in the text of an artifact tell its modules, the endpoints that each implements and the rows of its table.
They can be told from all other words, as no name is one of the words that begin them.

* `uncommented`: words without comments. `marksIn`: the modules, endpoints and rows that words tell.
* `Segment`: words and what they tell, wherever they stand. Segments follow each other by `Segment.append`.
* `segment_pieces`: **what the words of an artifact tell.** -/

namespace RouteContracts.Artifact

open Layout Layout.Piece

/-! ## Reading words -/

/-- The words that a comment begins with. -/
def commentMarks : List String := ["///", "/**"]

/-- **Words without comments**: a comment is one of the `commentMarks` and the word after it. -/
def uncommented : List String → List String
  | [] => []
  | [w] => if w ∈ commentMarks then [] else [w]
  | w :: text :: rest => if w ∈ commentMarks then uncommented rest else w :: uncommented (text :: rest)

/-- The word in front of the items of a module. -/
def moduleHead (m : Method) : String := "pub mod " ++ m.moduleName ++ " "

/-- What the words of an artifact tell. -/
inductive Mark where
  /-- A module begins with this word. -/
  | module (head : String)
  /-- An endpoint is implemented, with these two constants. -/
  | impl (method pattern : String)
  /-- A row of the table, with these two parts. -/
  | row (method pattern : String)
deriving DecidableEq, Repr

/-- **What words tell, in order.** The constants of an endpoint stand behind the names in front of it, and the parts of
a row have a comma between them. -/
def marksIn : List String → List Mark
  | [] => []
  | w :: rest =>
    if w = "impl" then .impl (rest.getD 5 "") (rest.getD 6 "") :: marksIn rest
    else if w = "(" then .row (rest.getD 0 "") (rest.getD 2 "") :: marksIn rest
    else if w ∈ Method.all.map moduleHead then .module w :: marksIn rest
    else marksIn rest

/-- The words that reading stops at. -/
def marks : List String := commentMarks ++ ["impl", "("] ++ Method.all.map moduleHead

/-- A word that `marksIn` passes over: it is none of `marks`. -/
def Quiet (w : String) : Prop := w ∉ marks

theorem head?_append {s t : String} {c : Char} (h : s.toList.head? = some c) : (s ++ t).toList.head? = some c := by
  rw [String.toList_append, List.head?_append, h]
  rfl

theorem quiet_of_head? {w : String} (c : Char) (h : w.toList.head? = some c) (hc : c ∉ ['/', 'i', '(', 'p']) :
    Quiet w := by
  have hmarks : ∀ k ∈ marks, k.toList.head?.getD '/' ∈ ['/', 'i', '(', 'p'] := by decide
  intro hw
  have hfirst := hmarks w hw
  rw [h] at hfirst
  exact hc hfirst

theorem quiet_of_getLast? {w : String} (c : Char) (h : w.toList.getLast? = some c)
    (hc : c ∉ ['/', '*', 'l', '(', ' ']) : Quiet w := by
  have hmarks : ∀ k ∈ marks, k.toList.getLast?.getD '/' ∈ ['/', '*', 'l', '(', ' '] := by decide
  intro hw
  have hlast := hmarks w hw
  rw [h] at hlast
  exact hc hlast

/-- `isName n` implies `Quiet n`. -/
theorem quiet_of_isName {n : String} (h : isName n = true) : Quiet n := by
  have hmarks : ∀ k ∈ marks, isName k = false := by decide
  exact fun hw => Bool.false_ne_true ((hmarks n hw).symm.trans h)

/-! ## Segments -/

/-- **`ws` tells `told`**, whatever words come after: `marksIn (uncommented (ws ++ rest))` begins with `told`. -/
def Segment (ws : List String) (told : List Mark) : Prop :=
  ∀ rest, marksIn (uncommented (ws ++ rest)) = told ++ marksIn (uncommented rest)

theorem uncommented_cons {w : String} (h : w ∉ commentMarks) (rest : List String) :
    uncommented (w :: rest) = w :: uncommented rest := by
  cases rest with
  | nil => exact if_neg h
  | cons text rest => rw [uncommented, if_neg h]

theorem uncommented_append {ws : List String} (h : ∀ w ∈ ws, w ∉ commentMarks) (rest : List String) :
    uncommented (ws ++ rest) = ws ++ uncommented rest := by
  induction ws with
  | nil => rfl
  | cons w ws ih =>
    rw [List.cons_append, uncommented_cons (h w List.mem_cons_self),
      ih fun v hv => h v (List.mem_cons_of_mem w hv), List.cons_append]

theorem Quiet.ne {w : String} (h : Quiet w) :
    w ∉ commentMarks ∧ w ≠ "impl" ∧ w ≠ "(" ∧ w ∉ Method.all.map moduleHead := by
  simpa [Quiet, marks, not_or, and_assoc] using h

namespace Segment

variable {ws vs : List String} {ms ns : List Mark}

theorem nil : Segment [] [] := fun _ => rfl

/-- **`Segment`s follow each other.** -/
theorem append (h : Segment ws ms) (h' : Segment vs ns) : Segment (ws ++ vs) (ms ++ ns) := by
  intro rest
  rw [List.append_assoc, h, h', List.append_assoc]

/-- `Quiet` words tell nothing. -/
theorem quiet (h : ∀ w ∈ ws, Quiet w) : Segment ws [] := by
  induction ws with
  | nil => exact nil
  | cons w ws ih =>
    obtain ⟨hcomment, himpl, hrow, hmodule⟩ := (h w List.mem_cons_self).ne
    intro rest
    rw [List.cons_append, uncommented_cons hcomment, marksIn, if_neg himpl, if_neg hrow, if_neg hmodule,
      ih fun v hv => h v (List.mem_cons_of_mem w hv)]

/-- A comment, `[mark, text]`, tells nothing, whatever its text. -/
theorem comment {mark : String} (h : mark ∈ commentMarks) (text : String) : Segment [mark, text] [] := by
  intro rest
  rw [List.cons_append, List.cons_append, uncommented, if_pos h]
  rfl

/-- `moduleHead m` tells that a module begins. -/
theorem module (m : Method) : Segment [moduleHead m] [.module (moduleHead m)] := by
  have hcomment : moduleHead m ∉ commentMarks := by cases m <;> decide
  have himpl : moduleHead m ≠ "impl" := by cases m <;> decide
  have hrow : moduleHead m ≠ "(" := by cases m <;> decide
  have hmodule : moduleHead m ∈ Method.all.map moduleHead := List.mem_map_of_mem (Method.mem_all m)
  intro rest
  rw [List.singleton_append, uncommented_cons hcomment, marksIn, if_neg himpl, if_neg hrow, if_pos hmodule]
  rfl

/-- The front of an implementation tells its constants. -/
theorem impl {name method pattern : String} (hname : Quiet name) (hmethod : Quiet method)
    (hpattern : Quiet pattern) :
    Segment ["impl", " ", "Endpoint", name, " ", "\x7b", method, pattern] [.impl method pattern] := by
  have hquiet : ∀ w ∈ [" ", "Endpoint", name, " ", "\x7b", method, pattern], Quiet w := by
    have hblank : Quiet " " ∧ Quiet "Endpoint" ∧ Quiet "\x7b" := by unfold Quiet; decide
    simp [hname, hmethod, hpattern, hblank]
  intro rest
  rw [List.cons_append, uncommented_cons (by decide), marksIn, if_pos rfl, quiet hquiet,
    uncommented_append fun w hw => (hquiet w hw).ne.1]
  rfl

/-- A row tells its parts. -/
theorem row {method pattern : String} (hmethod : Quiet method) (hpattern : Quiet pattern) :
    Segment ["(", method, ",", pattern, ")"] [.row method pattern] := by
  have hquiet : ∀ w ∈ [method, ",", pattern, ")"], Quiet w := by
    have hcomma : Quiet "," ∧ Quiet ")" := by unfold Quiet; decide
    simp [hmethod, hpattern, hcomma]
  intro rest
  rw [List.cons_append, uncommented_cons (by decide), marksIn, if_neg (by decide), if_pos rfl, quiet hquiet,
    uncommented_append fun w hw => (hquiet w hw).ne.1]
  rfl

/-- `flatMap` of `Segment`s: the parts of a list tell what each of them tells. -/
theorem flatMap {α : Type} {xs : List α} {words : α → List String} {told : α → List Mark}
    (h : ∀ x ∈ xs, Segment (words x) (told x)) : Segment (xs.flatMap words) (xs.flatMap told) := by
  induction xs with
  | nil => exact nil
  | cons x xs ih =>
    rw [List.flatMap_cons, List.flatMap_cons]
    exact (h x List.mem_cons_self).append (ih fun y hy => h y (List.mem_cons_of_mem x hy))

end Segment

/-! ## Words of pieces -/

theorem wordsOf_append (ps qs : List Piece) : wordsOf (ps ++ qs) = wordsOf ps ++ wordsOf qs :=
  List.filterMap_append

theorem wordsOf_flatMap {α : Type} (xs : List α) (f : α → List Piece) :
    wordsOf (xs.flatMap f) = xs.flatMap fun x => wordsOf (f x) := by
  induction xs with
  | nil => rfl
  | cons x xs ih => rw [List.flatMap_cons, List.flatMap_cons, wordsOf_append, ih]

theorem wordsOf_box (breaking : Breaking) (offset : Int) (ps : List Piece) :
    wordsOf (box breaking offset ps) = wordsOf ps := by
  rw [box, wordsOf_append]
  exact List.append_nil _

theorem wordsOf_block (ps : List Piece) : wordsOf (block ps) = wordsOf ps := wordsOf_box ..

/-- The words of `commas entries` are those of the entries, and commas. -/
theorem mem_wordsOf_commas {entries : List (List Piece)} {w : String} (h : w ∈ wordsOf (commas entries)) :
    w = "," ∨ ∃ e ∈ entries, w ∈ wordsOf e := by
  induction entries with
  | nil => cases h
  | cons e rest ih =>
    cases rest with
    | nil => exact .inr ⟨e, List.mem_cons_self, h⟩
    | cons e' rest =>
      rw [commas, wordsOf_append, wordsOf_append, List.mem_append, List.mem_append] at h
      rcases h with (h | h) | h
      · exact .inr ⟨e, List.mem_cons_self, h⟩
      · exact .inl (List.mem_singleton.mp h)
      · refine (ih h).imp_right ?_
        rintro ⟨other, hother, hw⟩
        exact ⟨other, List.mem_cons_of_mem e hother, hw⟩
      · simp

theorem wordsOf_listing (entries : List (List Piece)) : wordsOf (listing entries) = wordsOf (commas entries) := by
  rw [listing, wordsOf_block, wordsOf_append]
  exact List.append_nil _

theorem wordsOf_linesBack (entries : List (List Piece)) :
    wordsOf (linesBack entries) = entries.flatMap wordsOf := by
  induction entries with
  | nil => rfl
  | cons e rest ih =>
    cases rest with
    | nil =>
      rw [linesBack, wordsOf_append, List.flatMap_singleton]
      exact List.append_nil _
    | cons e' rest =>
      rw [linesBack, wordsOf_append, wordsOf_append, ih, List.flatMap_cons]
      · exact congrArg (· ++ _) (List.append_nil _)
      · simp

theorem wordsOf_braced (head : List Piece) (entries : List (List Piece)) :
    wordsOf (braced head entries) = wordsOf head ++ ["\x7b"] ++ entries.flatMap wordsOf ++ ["\x7d"] := by
  cases entries with
  | nil =>
    rw [braced, wordsOf_append, wordsOf_block, wordsOf_append, List.flatMap_nil, List.append_nil]
    rfl
  | cons e rest =>
    rw [braced, wordsOf_append, wordsOf_block, wordsOf_append, wordsOf_append, wordsOf_linesBack]
    · rfl
    · simp

/-- The words of an attribute are `Quiet` when its arguments are. -/
theorem quiet_decorated {name : String} {arguments : List String} (h : ∀ a ∈ arguments, Quiet a) :
    ∀ w ∈ wordsOf (decorated name arguments), Quiet w := by
  intro w hw
  have hopen : Quiet ("#[" ++ name ++ "(") := quiet_of_head? '#' (by simp) (by decide)
  have hclose : Quiet ")]" ∧ Quiet "," := by unfold Quiet; decide
  have hwords : wordsOf (decorated name arguments) =
      ["#[" ++ name ++ "("] ++ wordsOf (commas (arguments.map fun a => [word a])) ++ [")]"] := by
    rw [decorated, wordsOf_append, wordsOf_append, wordsOf_block]
    simp [wordsOf, zero, zeroBack, space]
  rw [hwords, List.mem_append, List.mem_append, List.mem_singleton, List.mem_singleton] at hw
  rcases hw with (rfl | hw) | rfl
  · exact hopen
  · rcases mem_wordsOf_commas hw with rfl | ⟨e, he, hw⟩
    · exact hclose.2
    · obtain ⟨a, ha, rfl⟩ := List.mem_map.mp he
      obtain rfl : w = a := List.mem_singleton.mp hw
      exact h w ha
  · exact hclose.1

/-! ## Parts of artifacts -/

section Parts

variable {runtime : RuntimePath}

/-- A name behind `runtime.spelled` is `Quiet`. -/
theorem quiet_spelled (runtime : RuntimePath) : Quiet (runtime.spelled ++ "serde_json::Value") ∧
    Quiet (runtime.spelled ++ "serde::Serialize") ∧ Quiet (runtime.spelled ++ "serde::Deserialize") :=
  ⟨quiet_of_getLast? 'e' (by simp) (by decide), quiet_of_getLast? 'e' (by simp) (by decide),
    quiet_of_getLast? 'e' (by simp) (by decide)⟩

/-- The words of a type are `Quiet` when the records that it mentions have names. -/
theorem quiet_typePieces {t : FieldType} (h : ∀ n ∈ t.records, isName n = true) :
    ∀ w ∈ wordsOf (typePieces runtime t), Quiet w := by
  -- a list or an option has brackets around the words of the type in it
  have hgeneric : ∀ name ∈ ["Vec<", "Option<"], ∀ ps : List Piece, (∀ w ∈ wordsOf ps, Quiet w) →
      ∀ w ∈ name :: (wordsOf ps ++ [">"]), Quiet w := by
    have hbrackets : Quiet "Vec<" ∧ Quiet "Option<" ∧ Quiet ">" := by unfold Quiet; decide
    intro name hname ps hps w hw
    rw [List.mem_cons, List.mem_append, List.mem_singleton] at hw
    rcases hw with rfl | hw | rfl
    · simp only [List.mem_cons, List.not_mem_nil, or_false] at hname
      rcases hname with rfl | rfl
      · exact hbrackets.1
      · exact hbrackets.2.1
    · exact hps w hw
    · exact hbrackets.2.2
  have hleaves : Quiet "String" ∧ Quiet "f64" ∧ Quiet "bool" ∧ Quiet "()" := by unfold Quiet; decide
  induction t with
  | list t ih =>
    rw [typePieces, wordsOf_generic]
    exact hgeneric "Vec<" (by simp) _ (ih h)
  | option t ih =>
    rw [typePieces, wordsOf_generic]
    exact hgeneric "Option<" (by simp) _ (ih h)
  | record name => exact List.forall_mem_singleton.mpr (quiet_of_isName (h name (List.mem_singleton_self name)))
  | anyJson => exact List.forall_mem_singleton.mpr (quiet_spelled runtime).1
  | text => exact List.forall_mem_singleton.mpr hleaves.1
  | number => exact List.forall_mem_singleton.mpr hleaves.2.1
  | truth => exact List.forall_mem_singleton.mpr hleaves.2.2.1
  | unit => exact List.forall_mem_singleton.mpr hleaves.2.2.2

/-- The word in front of the type of a field is `Quiet`: no name of a module ends with a colon. -/
theorem quiet_field (ident : String) : Quiet ("pub " ++ ident ++ ": ") := by
  have hmarks : ∀ k ∈ marks, k.toList.reverse.take 2 ≠ [' ', ':'] := by decide
  intro hw
  exact hmarks _ hw (by simp)

/-- The word in front of the fields of a record is `Quiet`. -/
theorem quiet_struct (name more : String) : Quiet ("pub struct " ++ name ++ more) := by
  have hmarks : ∀ k ∈ marks, k.toList.take 5 ≠ "pub s".toList := by decide
  intro hw
  exact hmarks _ hw (by simp [List.take])

/-- The words of a field are `Quiet`. -/
theorem quiet_fieldPieces {f : Field} (h : ∀ n ∈ f.type.records, isName n = true) :
    ∀ w ∈ wordsOf (fieldPieces runtime f), Quiet w := by
  have hfield : ∀ w ∈ wordsOf ([word ("pub " ++ f.ident ++ ": ")] ++ typePieces runtime f.type ++ [word ","]),
      Quiet w := by
    intro w hw
    rw [wordsOf_append, wordsOf_append, List.mem_append, List.mem_append] at hw
    rcases hw with (hw | hw) | hw
    · obtain rfl := List.mem_singleton.mp hw
      exact quiet_field f.ident
    · exact quiet_typePieces h w hw
    · obtain rfl := List.mem_singleton.mp hw
      unfold Quiet
      decide
  have harguments : ∀ a ∈ fieldAttributes f, Quiet a := by
    have hdefault : Quiet "default" ∧ Quiet "skip_serializing_if = \"Option::is_none\"" := by unfold Quiet; decide
    intro a ha
    rw [fieldAttributes, List.mem_append] at ha
    rcases ha with ha | ha
    · split at ha
      · cases ha
      · obtain rfl := List.mem_singleton.mp ha
        exact quiet_of_head? 'r' (by simp) (by decide)
    · split at ha
      · simp only [List.mem_cons, List.not_mem_nil, or_false] at ha
        rcases ha with rfl | rfl
        · exact hdefault.1
        · exact hdefault.2
      · cases ha
  -- there is no attribute where it would have no arguments
  intro w hw
  rw [fieldPieces, List.append_assoc, List.append_assoc, wordsOf_append, List.mem_append,
    ← List.append_assoc] at hw
  rcases hw with hw | hw
  · split at hw
    · cases hw
    · exact quiet_decorated harguments w hw
  · exact hfield w hw

/-- **A record tells nothing**: its words are `Quiet`. -/
theorem quiet_recordPieces {r : Record} (h : ∀ f ∈ r.fields, ∀ n ∈ f.type.records, isName n = true) :
    ∀ w ∈ wordsOf (recordPieces runtime r), Quiet w := by
  have hderive : ∀ a ∈ ["Debug", "Clone", "PartialEq", runtime.spelled ++ "serde::Serialize",
      runtime.spelled ++ "serde::Deserialize"], Quiet a := by
    have hplain : Quiet "Debug" ∧ Quiet "Clone" ∧ Quiet "PartialEq" := by unfold Quiet; decide
    simp [hplain, quiet_spelled runtime]
  have hserde : ∀ a ∈ ["crate = " ++ runtime.quotedRecords], Quiet a :=
    List.forall_mem_singleton.mpr (quiet_of_head? 'c' (by simp) (by decide))
  have hbraces : Quiet "\x7b" ∧ Quiet "\x7d" := by unfold Quiet; decide
  intro w hw
  rw [recordPieces, wordsOf_append, wordsOf_append, wordsOf_braced] at hw
  simp only [List.mem_append, List.mem_singleton, List.mem_flatMap, List.mem_map] at hw
  rcases hw with (hw | hw) | ((hw | rfl) | ⟨e, ⟨f, hf, rfl⟩, hw⟩) | rfl
  · exact quiet_decorated hderive w hw
  · exact quiet_decorated hserde w hw
  · obtain rfl := List.mem_singleton.mp hw
    exact quiet_struct r.name " "
  · exact hbraces.1
  · exact quiet_fieldPieces (h f hf) w hw
  · exact hbraces.2

/-- The constant for the method of an endpoint, as it is written. -/
def methodConstant (m : Method) : String := "const METHOD: Method = Method::" ++ m.variantName ++ ";"

/-- The constant for the pattern of an endpoint, as it is written. -/
def patternConstant (pattern : String) : String := "const PATTERN: &'static str = " ++ Text.quoted pattern ++ ";"

/-- The words of an associated type are `Quiet`. -/
theorem quiet_associatedType {name : String} {t : Option FieldType}
    (h : ∀ n ∈ t.toList.flatMap FieldType.records, isName n = true) :
    ∀ w ∈ wordsOf (associatedType runtime name t), Quiet w := by
  have hwords : wordsOf (associatedType runtime name t) =
      ["type " ++ name ++ " = "] ++ wordsOf (contractType runtime t) ++ [";"] := by
    rw [associatedType, wordsOf_block, wordsOf_append, wordsOf_append, wordsOf_box]
    rfl
  intro w hw
  rw [hwords, List.mem_append, List.mem_append, List.mem_singleton, List.mem_singleton] at hw
  rcases hw with (rfl | hw) | rfl
  · exact quiet_of_head? 't' (by simp) (by decide)
  · cases t with
    | none =>
      obtain rfl : w = "NoData" := List.mem_singleton.mp hw
      unfold Quiet
      decide
    | some t => exact quiet_typePieces (fun n hn => h n (List.mem_flatMap.mpr ⟨t, by simp, hn⟩)) w hw
  · unfold Quiet
    decide

/-- **`documentationPieces text` tells nothing**, whichever form the comment has. -/
theorem segment_documentationPieces (text : String) : Segment (wordsOf (documentationPieces text)) [] := by
  unfold documentationPieces
  split
  · exact .comment (by decide) _
  split
  · have hopen : "/**" ∈ commentMarks := by decide
    have hend : Quiet "*/" := by unfold Quiet; decide
    exact (Segment.comment hopen _).append (.quiet (List.forall_mem_singleton.mpr hend))
  · have hattribute : Quiet ("#[doc = " ++ Text.quoted text ++ "]") :=
      quiet_of_head? '#' (head?_append (head?_append (by decide))) (by decide)
    exact .quiet (List.forall_mem_singleton.mpr hattribute)

/-- The comments on an endpoint tell nothing. -/
theorem segment_documentation (documentation : List String) :
    Segment (wordsOf (documentation.flatMap documentationPieces)) [] := by
  rw [wordsOf_flatMap]
  have hnone : documentation.flatMap (fun _ => ([] : List Mark)) = [] := by simp
  rw [← hnone]
  exact .flatMap fun text _ => segment_documentationPieces text

/-- The words of `endpointPieces`: a comment and a type, the front of an implementation, and associated types. -/
theorem wordsOf_endpoint (m : Method) (documentation : List String) (e : EndpointItem) :
    (endpointPieces runtime m documentation e).flatMap wordsOf =
      (wordsOf (documentation.flatMap documentationPieces) ++ ["pub struct " ++ e.name ++ ";"]) ++
      (["impl", " ", "Endpoint", "for " ++ e.name, " ", "\x7b", methodConstant m, patternConstant e.pattern] ++
        ([("Body", e.body), ("RouteParams", e.routeParams), ("SearchParams", e.searchParams)].flatMap
          (fun t => wordsOf (associatedType runtime t.1 t.2)) ++ ["\x7d"])) := by
  simp only [endpointPieces, List.flatMap_cons, List.flatMap_nil, wordsOf_append, wordsOf_braced, wordsOf_box,
    wordsOf_block, List.append_assoc]
  rfl

/-- **An endpoint tells its constants**, the method and the pattern. -/
theorem segment_endpoint (m : Method) (documentation : List String) {e : EndpointItem}
    (h : ∀ n ∈ (e.body.toList ++ e.routeParams.toList ++ e.searchParams.toList).flatMap FieldType.records,
      isName n = true) :
    Segment ((endpointPieces runtime m documentation e).flatMap wordsOf)
      [.impl (methodConstant m) (patternConstant e.pattern)] := by
  have hstruct : ∀ w ∈ ["pub struct " ++ e.name ++ ";"], Quiet w :=
    List.forall_mem_singleton.mpr (quiet_struct e.name ";")
  -- the types hold names of records only, which begin no item
  have htypes : ∀ w ∈ [("Body", e.body), ("RouteParams", e.routeParams), ("SearchParams", e.searchParams)].flatMap
      (fun t => wordsOf (associatedType runtime t.1 t.2)), Quiet w := by
    intro w hw
    obtain ⟨t, ht, hw⟩ := List.mem_flatMap.mp hw
    refine quiet_associatedType (fun n hn => h n ?_) w hw
    rw [List.flatMap_append, List.flatMap_append, List.mem_append, List.mem_append]
    simp only [List.mem_cons, List.not_mem_nil, or_false] at ht
    rcases ht with rfl | rfl | rfl
    · exact .inl (.inl hn)
    · exact .inl (.inr hn)
    · exact .inr hn
  have hclose : ∀ w ∈ ["\x7d"], Quiet w := List.forall_mem_singleton.mpr (by unfold Quiet; decide)
  have hfor : Quiet ("for " ++ e.name) := quiet_of_head? 'f' (by simp) (by decide)
  have hmethod : Quiet (methodConstant m) := quiet_of_head? 'c' (head?_append (head?_append (by decide))) (by decide)
  have hpattern : Quiet (patternConstant e.pattern) :=
    quiet_of_head? 'c' (head?_append (head?_append (by decide))) (by decide)
  rw [wordsOf_endpoint]
  exact ((segment_documentation documentation).append (.quiet hstruct)).append
    ((Segment.impl hfor hmethod hpattern).append ((Segment.quiet htypes).append (.quiet hclose)))

/-- What an endpoint tells: its method and its pattern, as its constants have them. -/
def implMark (row : Method × String) : Mark := .impl (methodConstant row.1) (patternConstant row.2)

/-- What a row of the table tells. -/
def rowMark (row : Method × String) : Mark := .row ("Method::" ++ row.1.variantName) (Text.quoted row.2)

/-- The methods and patterns of the endpoints of a module, in order. -/
def MethodModule.impls (mm : MethodModule) : List (Method × String) :=
  mm.endpoints.map fun e => (mm.method, e.pattern)

/-- **An item tells its constants** if it is an endpoint, and nothing if it is a record. -/
theorem segment_item {m : Method} {i : ModuleItem} {pieces : List (List Piece)}
    (h : itemPieces? runtime m i = some pieces) (hnames : ∀ n ∈ i.mentions, isName n = true) :
    Segment (pieces.flatMap wordsOf) (i.kind.toList.map fun pattern => implMark (m, pattern)) := by
  cases i with
  | record r =>
    obtain rfl := Option.some.inj h
    rw [List.flatMap_singleton]
    exact .quiet (quiet_recordPieces fun f hf n hn => hnames n (List.mem_flatMap.mpr ⟨f, hf, hn⟩))
  | endpoint e =>
    obtain ⟨documentation, -, h⟩ := Option.bind_eq_some_iff.mp h
    obtain rfl := Option.some.inj h
    exact segment_endpoint m documentation hnames

/-- The items of a module tell what each of them tells. -/
theorem segment_items {m : Method} {items : List ModuleItem} {pieces : List (List (List Piece))}
    (h : items.mapM (itemPieces? runtime m) = some pieces)
    (hnames : ∀ i ∈ items, ∀ n ∈ i.mentions, isName n = true) :
    Segment (pieces.flatten.flatMap wordsOf)
      ((items.filterMap ModuleItem.kind).map fun pattern => implMark (m, pattern)) := by
  induction items generalizing pieces with
  | nil =>
    obtain rfl := Option.some.inj h
    exact .nil
  | cons i rest ih =>
    obtain ⟨first, more, hfirst, hmore, rfl⟩ := exists_of_mapM_cons h
    -- a record is no mark, an endpoint is one
    have hsplit : ((i :: rest).filterMap ModuleItem.kind).map (fun pattern => implMark (m, pattern)) =
        (i.kind.toList.map fun pattern => implMark (m, pattern)) ++
          (rest.filterMap ModuleItem.kind).map fun pattern => implMark (m, pattern) := by
      cases hkind : i.kind <;> simp [hkind]
    rw [List.flatten_cons, List.flatMap_append, hsplit]
    exact (segment_item hfirst (hnames i List.mem_cons_self)).append
      (ih hmore fun j hj => hnames j (List.mem_cons_of_mem i hj))

theorem MethodModule.impls_eq (mm : MethodModule) :
    mm.impls = (mm.items.filterMap ModuleItem.kind).map (Prod.mk mm.method) := by
  have hkinds : mm.items.filterMap ModuleItem.kind = mm.endpoints.map EndpointItem.pattern := by
    rw [MethodModule.endpoints, List.map_filterMap]
    refine List.filterMap_congr fun i _ => ?_
    cases i <;> rfl
  rw [hkinds, List.map_map]
  rfl

/-- **A module tells where it begins, and its endpoints after that**: `mm.impls`. -/
theorem segment_module {mm : MethodModule} {pieces : List Piece} (h : modulePieces? runtime mm = some pieces)
    (hnames : ∀ i ∈ mm.items, ∀ n ∈ i.mentions, isName n = true) :
    Segment (wordsOf pieces) (.module (moduleHead mm.method) :: mm.impls.map implMark) := by
  obtain ⟨items, hitems, h⟩ := Option.bind_eq_some_iff.mp h
  obtain rfl := Option.some.inj h
  have hopen : ∀ w ∈ ["\x7b", "use super::*;"], Quiet w := by unfold Quiet; decide
  have hclose : ∀ w ∈ ["\x7d"], Quiet w := by unfold Quiet; decide
  have himpls : mm.impls.map implMark =
      (mm.items.filterMap ModuleItem.kind).map fun pattern => implMark (mm.method, pattern) := by
    rw [mm.impls_eq, List.map_map]
    rfl
  rw [moduleOf, wordsOf_braced, List.flatMap_cons, himpls]
  have hall := (Segment.module mm.method).append
    ((Segment.quiet hopen).append ((segment_items hitems hnames).append (.quiet hclose)))
  simpa [wordsOf, moduleHead] using hall

/-- The modules of an artifact tell what each of them tells. -/
theorem segment_modules {modules : List MethodModule} {pieces : List (List Piece)}
    (h : modules.mapM (modulePieces? runtime) = some pieces)
    (hnames : ∀ mm ∈ modules, ∀ i ∈ mm.items, ∀ n ∈ i.mentions, isName n = true) :
    Segment (pieces.flatMap wordsOf)
      (modules.flatMap fun mm => .module (moduleHead mm.method) :: mm.impls.map implMark) := by
  induction modules generalizing pieces with
  | nil =>
    obtain rfl := Option.some.inj h
    exact .nil
  | cons mm rest ih =>
    obtain ⟨first, more, hfirst, hmore, rfl⟩ := exists_of_mapM_cons h
    rw [List.flatMap_cons, List.flatMap_cons]
    exact (segment_module hfirst (hnames mm List.mem_cons_self)).append
      (ih hmore fun n hn => hnames n (List.mem_cons_of_mem mm hn))

/-- `importPieces` tells nothing. -/
theorem quiet_importPieces : ∀ w ∈ wordsOf (importPieces runtime), Quiet w := by
  have hwords : wordsOf (importPieces runtime) = wordsOf (decorated "allow" ["unused_imports"]) ++
      ["use " ++ runtime.spelled] ++ ["\x7b", "Endpoint", ",", "Method", ",", "NoData", "\x7d;"] := by
    rw [importPieces, wordsOf_append, wordsOf_append, wordsOf_append, wordsOf_block, List.append_assoc]
    rfl
  have hallow : ∀ a ∈ ["unused_imports"], Quiet a := by unfold Quiet; decide
  have hplain : ∀ w ∈ ["\x7b", "Endpoint", ",", "Method", ",", "NoData", "\x7d;"], Quiet w := by
    unfold Quiet
    decide
  intro w hw
  rw [hwords, List.mem_append, List.mem_append] at hw
  rcases hw with (hw | hw) | hw
  · exact quiet_decorated hallow w hw
  · obtain rfl := List.mem_singleton.mp hw
    exact quiet_of_head? 'u' (head?_append (by decide)) (by decide)
  · exact hplain w hw

/-- `rowPieces row` tells `rowMark row`. -/
theorem segment_row (row : Method × String) : Segment (wordsOf (rowPieces row)) [rowMark row] := by
  have hwords : wordsOf (rowPieces row) =
      ["(", "Method::" ++ row.1.variantName, ",", Text.quoted row.2, ")"] := by
    rw [rowPieces, wordsOf_append, wordsOf_append, wordsOf_listing]
    rfl
  have hquoted : (Text.quoted row.2).toList.head? = some '"' := by
    rw [Text.quoted, String.toList_ofList]
    rfl
  rw [hwords]
  exact .row (quiet_of_head? 'M' (head?_append (by decide)) (by decide)) (quiet_of_head? '"' hquoted (by decide))

theorem segment_rows (table : List (Method × String)) :
    Segment (wordsOf (commas (table.map rowPieces))) (table.map rowMark) := by
  have hcomma : ∀ w ∈ [","], Quiet w := by unfold Quiet; decide
  induction table with
  | nil => exact .nil
  | cons row rest ih =>
    cases rest with
    | nil => exact segment_row row
    | cons next rest =>
      rw [List.map_cons, List.map_cons, commas, wordsOf_append, wordsOf_append, List.map_cons]
      · exact ((segment_row row).append (.quiet hcomma)).append ih
      · simp

/-- **The table tells its rows.** -/
theorem segment_table (table : List (Method × String)) :
    Segment (wordsOf (tablePieces table)) (table.map rowMark) := by
  have hfront : ∀ w ∈ ["pub const ROUTES: &[(", "Method", ",", "&str", ")] = ", "&["], Quiet w := by
    unfold Quiet
    decide
  have hback : ∀ w ∈ ["];"], Quiet w := by unfold Quiet; decide
  have hbox : ∀ {rows : List String} {marks : List Mark}, Segment rows marks →
      Segment (["pub const ROUTES: &[(", "Method", ",", "&str", ")] = ", "&["] ++ (rows ++ ["];"])) marks := by
    intro rows marks hrows
    have happend := (Segment.quiet hfront).append (hrows.append (.quiet hback))
    rwa [List.append_nil, List.nil_append] at happend
  unfold tablePieces
  rw [wordsOf_append, wordsOf_box, wordsOf_append, wordsOf_append, List.append_assoc]
  refine (segment_documentationPieces _).append (hbox ?_)
  cases table with
  | nil => exact .nil
  | cons row rest =>
    rw [wordsOf_listing]
    exact segment_rows (row :: rest)

/-- What an artifact tells: each module with its endpoints, and the rows of the table after them. -/
def told (a : Artifact) : List Mark :=
  (a.modules.flatMap fun mm => .module (moduleHead mm.method) :: mm.impls.map implMark) ++ a.table.map rowMark

/-- **The words of `a.pieces?` tell `a.told`**, and nothing else. -/
theorem segment_pieces {a : Artifact} {pieces : List Piece} (h : a.pieces? runtime = some pieces)
    (hclosed : ∀ mm ∈ a.modules, Closed mm.items) (hvalid : a.isValid runtime = true) :
    Segment (wordsOf pieces) a.told := by
  obtain ⟨modules, hmodules, h⟩ := Option.bind_eq_some_iff.mp h
  obtain rfl := Option.some.inj h
  have hnames : ∀ mm ∈ a.modules, ∀ i ∈ mm.items, ∀ n ∈ i.mentions, isName n = true := by
    intro mm hmm i hi
    have hall := List.all_eq_true.mp (List.all_eq_true.mp hvalid mm hmm)
    exact isName_of_mem_mentions (hclosed mm hmm) hall hi
  have hwords : wordsOf (artifactOf runtime modules a.table) =
      wordsOf (importPieces runtime) ++ (modules.flatMap wordsOf ++ wordsOf (tablePieces a.table)) := by
    have hline : ∀ part : List Piece, wordsOf (part ++ [line]) = wordsOf part := fun part => by
      rw [wordsOf_append]
      exact List.append_nil _
    rw [artifactOf, wordsOf_box, wordsOf_flatMap]
    simp only [hline, List.flatMap_append, List.flatMap_singleton, List.append_assoc]
  rw [hwords]
  exact (Segment.quiet quiet_importPieces).append ((segment_modules hmodules hnames).append (segment_table a.table))

end Parts

end RouteContracts.Artifact
