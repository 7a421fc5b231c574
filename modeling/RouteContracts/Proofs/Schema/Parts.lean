import RouteContracts.Proofs.Schema.Locality

/-! # Checks part by part
A check of an object is made of the checks of its fields, each at the top and on its own, and a check of an array
of those of its items. The outputs stand side by side, and the issues follow each other.

* `Schema.checkFields_eq`, `Schema.checkItems_eq`: **the outputs and the issues of the parts.**
* `Schema.passes_object_iff`, `Schema.passes_array_iff`: what has no issue.
* `Schema.Passes.exists_output`: a value that is there and passes gives an output. -/

namespace RouteContracts

namespace Members

variable {α β : Type}

/-- `get?` after `filterMap`, where names are distinct, gives what the member of that name gives. -/
theorem get?_filterMap {members : Members α} (names : (members.map Prod.fst).Nodup) (g : String × α → Option β)
    {m : String × α} (hm : m ∈ members) :
    get? m.1 (members.filterMap fun m => (g m).map fun v => (m.1, v)) = g m := by
  induction members with
  | nil => cases hm
  | cons head rest ih =>
    obtain ⟨hhead, hrest⟩ := List.nodup_cons.mp names
    rcases List.mem_cons.mp hm with rfl | hmem
    · -- the name does not come again further back
      have hnone : get? m.1 (rest.filterMap fun m => (g m).map fun v => (m.1, v)) = none := by
        rw [get?_eq_none_iff]
        intro hname
        obtain ⟨kept, hkept, hsame⟩ := List.mem_map.mp hname
        obtain ⟨other, hother, heq⟩ := List.mem_filterMap.mp hkept
        obtain ⟨_, -, rfl⟩ := Option.map_eq_some_iff.mp heq
        exact hhead (hsame ▸ List.mem_map_of_mem hother)
      cases hg : g m with
      | none => simpa [hg] using hnone
      | some v => simp [hg, get?]
    · have hne : head.1 ≠ m.1 := fun heq => hhead (heq ▸ List.mem_map_of_mem hmem)
      have hih := ih hrest hmem
      cases hg : g head with
      | none => simpa [hg] using hih
      | some v => simpa [hg, get?, hne] using hih

end Members

namespace Schema

/-- What a field gives for the members of an object, on its own. -/
def checkField (f : String × Schema) (members : Members Json) : Checked :=
  f.2.check (Members.get? f.1 members) [] []

/-- What an item of an array gives, on its own. -/
def checkItem (element : Schema) (item : Json) : Checked := element.check (some item) [] []

/-- **`checkFields` by parts**: each field gives its output and its issues, which are found below its name. -/
theorem checkFields_eq (fields : List (String × Schema)) (members : Members Json) (path : Trail)
    (issues : List Issue) :
    checkFields fields members path issues =
      (fields.filterMap fun f => (checkField f members).output.map fun v => (f.1, v),
        issues ++ fields.flatMap fun f =>
          (checkField f members).issues.map (Issue.below (path ++ [.key f.1]))) := by
  induction fields generalizing issues with
  | nil => simp [checkFields]
  | cons f rest ih =>
    obtain ⟨name, field⟩ := f
    simp only [checkFields]
    rw [check_eq_placed field, ih]
    simp only [Checked.output_placed, Checked.issues_placed, List.flatMap_cons, List.append_assoc]
    refine Prod.ext ?_ rfl
    cases hout : (field.check (Members.get? name members) [] []).output <;> simp [checkField, hout]

/-- **`checkItems` by parts**: each item gives its output and its issues, which are found below its index. -/
theorem checkItems_eq (element : Schema) (items : List Json) (i : Nat) (path : Trail) (issues : List Issue) :
    checkItems (fun item => element.check (some item)) items i path issues =
      (items.map fun item => (checkItem element item).output.getD .null,
        issues ++ (items.zipIdx i).flatMap fun p =>
          (checkItem element p.1).issues.map (Issue.below (path ++ [.index p.2]))) := by
  induction items generalizing i issues with
  | nil => simp [checkItems]
  | cons item rest ih =>
    simp only [checkItems]
    rw [check_eq_placed element, ih]
    simp [checkItem]

/-- `checkFields` gives the same if `checkField` does for each field. -/
theorem checkFields_congr {fields : List (String × Schema)} {members others : Members Json}
    (h : ∀ f ∈ fields, checkField f members = checkField f others) (path : Trail) (issues : List Issue) :
    checkFields fields members path issues = checkFields fields others path issues := by
  rw [checkFields_eq, checkFields_eq]
  refine Prod.ext (List.filterMap_congr fun f hf => ?_) (congrArg (issues ++ ·) (List.flatMap_congr fun f hf => ?_))
  · rw [h f hf]
  · rw [h f hf]

/-- `checkItems` gives the same if `checkItem` does for each item. -/
theorem checkItems_map {element : Schema} {items : List Json} {g : Json → Json}
    (h : ∀ item ∈ items, checkItem element (g item) = checkItem element item) (i : Nat) (path : Trail)
    (issues : List Issue) :
    checkItems (fun item => element.check (some item)) (items.map g) i path issues =
      checkItems (fun item => element.check (some item)) items i path issues := by
  rw [checkItems_eq, checkItems_eq, List.map_map, List.zipIdx_map, List.flatMap_map]
  refine Prod.ext (List.map_congr_left fun item hitem => ?_)
    (congrArg (issues ++ ·) (List.flatMap_congr fun p hp => ?_))
  · rw [Function.comp_apply, h item hitem]
  · have hitem : p.1 ∈ items := List.fst_mem_of_mem_zipIdx hp
    simp only [Prod.map_fst, Prod.map_snd, id_eq, h p.1 hitem]

/-! ## Parts without issues -/

/-- **`.object fields` passes members exactly if each field passes `get?` of its name.** -/
theorem passes_object_iff {fields : List (String × Schema)} {members : Members Json} :
    (Schema.object fields).Passes (some (.object members)) ↔
      ∀ f ∈ fields, f.2.Passes (Members.get? f.1 members) := by
  simp only [passes_iff, check]
  rw [checkFields_eq]
  simp [checkField, List.flatMap_eq_nil_iff]

/-- **`.array element` passes items exactly if `element` passes each.** -/
theorem passes_array_iff {element : Schema} {items : List Json} :
    (Schema.array element).Passes (some (.array items)) ↔ ∀ item ∈ items, element.Passes (some item) := by
  simp only [passes_iff, check]
  rw [checkItems_eq]
  simp only [List.nil_append, List.flatMap_eq_nil_iff, List.map_eq_nil_iff, checkItem]
  conv_rhs => rw [← List.zipIdx_map_fst 0 items]
  rw [List.forall_mem_map]

/-- What passes `.object fields` is an object. -/
theorem Passes.object_shape {fields : List (String × Schema)} {v : Option Json}
    (h : (Schema.object fields).Passes v) : ∃ members, v = some (.object members) := by
  have hissues := passes_iff.mp h
  cases v with
  | none => cases hissues
  | some v =>
    cases v with
    | object members => exact ⟨members, rfl⟩
    | null | bool _ | number _ | string _ | array _ => cases hissues

/-- What passes `.array element` is an array. -/
theorem Passes.array_shape {element : Schema} {v : Option Json} (h : (Schema.array element).Passes v) :
    ∃ items, v = some (.array items) := by
  have hissues := passes_iff.mp h
  cases v with
  | none => cases hissues
  | some v =>
    cases v with
    | array items => exact ⟨items, rfl⟩
    | null | bool _ | number _ | string _ | object _ => cases hissues

/-- `.nullable inner` checks every value but `null` as `inner` does. -/
theorem check_nullable {inner : Schema} {v : Option Json} (hv : v ≠ some .null) (path : Trail)
    (issues : List Issue) : check (.nullable inner) v path issues = inner.check v path issues := by
  match v with
  | some .null => exact absurd rfl hv
  | some (.bool _) | some (.number _) | some (.string _) | some (.array _) | some (.object _) | none => rfl

/-- `expectKind kind` without issue is for a value of that kind, and keeps it. -/
theorem expectKind_some {kind : String} {v : Json} (h : (expectKind kind (some v) [] []).issues = []) :
    v.kind = kind ∧ (expectKind kind (some v) [] []).output = some v := by
  simp only [expectKind] at h ⊢
  split at h
  · next hkind => exact ⟨hkind, by rw [if_pos hkind]⟩
  · cases h

/-- `expectKind kind` has an issue with a missing value. -/
theorem issues_expectKind_none (kind : String) : (expectKind kind none [] []).issues ≠ [] := by
  simp [expectKind, reject]

end Schema

end RouteContracts
