import Mathlib.Data.List.Perm.Subperm
import RouteContracts.Proofs.Schema.Structure

/-! # Equality of descriptors
Equality leaves the order of fields out. On descriptors whose objects name every field once it is an
equivalence, and it misses nothing but that order: two equal descriptors that write the names of their
fields in the same order are the same.

* `Descriptor.Distinct`: every field of an object has a name of its own.
* `Descriptor.same_self`, `Descriptor.same_symm`, `Descriptor.same_trans`: an equivalence.
* `Descriptor.written`: the names of the fields, in the order in which records are written.
* `Descriptor.eq_of_same`: **equality misses nothing but the order of fields.** -/

namespace RouteContracts

namespace Descriptor

/-- A descriptor in which every field of an object has a name of its own. -/
inductive Distinct : Descriptor → Prop where
  | primitive (p : Primitive) : Distinct (.primitive p)
  | object {fields : List (String × Descriptor)} (omittable : NameSet)
      (names : (fields.map Prod.fst).Nodup) (h : ∀ f ∈ fields, Distinct f.2) :
      Distinct (.object fields omittable)
  | array {element : Descriptor} (h : Distinct element) : Distinct (.array element)
  | optional {inner : Descriptor} (h : Distinct inner) : Distinct (.optional inner)
  | nullable {inner : Descriptor} (h : Distinct inner) : Distinct (.nullable inner)

/-! ## An equivalence -/

/-- `fieldsWithin fs gs` exactly if `get?` of each name of `fs` in `gs` finds a descriptor that is the `same`. -/
theorem fieldsWithin_iff {fs gs : List (String × Descriptor)} :
    fieldsWithin fs gs = true ↔ ∀ f ∈ fs, ∃ d, Members.get? f.1 gs = some d ∧ f.2.same d = true := by
  induction fs with
  | nil => simp [fieldsWithin]
  | cons f rest ih =>
    obtain ⟨name, d⟩ := f
    rw [fieldsWithin, Bool.and_eq_true, ih, List.forall_mem_cons]
    cases Members.get? name gs with
    | none => simp
    | some other => simp

/-- `same` of objects: as many fields, `fieldsWithin`, and the same names that may be absent. -/
theorem same_object_iff {fs gs : List (String × Descriptor)} {os ps : NameSet} :
    (Descriptor.object fs os).same (.object gs ps) = true ↔
      fs.length = gs.length ∧ fieldsWithin fs gs = true ∧ os = ps := by
  rw [same, Bool.and_eq_true, Bool.and_eq_true, beq_iff_eq, beq_iff_eq, and_assoc]

/-- What is the `same` as `.primitive p` is `.primitive p`. -/
theorem eq_of_primitive_same {p : Primitive} {b : Descriptor} (h : (Descriptor.primitive p).same b = true) :
    b = .primitive p := by
  cases b with
  | primitive q =>
    have hq : p = q := beq_iff_eq.mp h
    rw [hq]
  | _ => cases h

/-- What is the `same` as an object is an object. -/
theorem exists_of_object_same {fs : List (String × Descriptor)} {omittable : NameSet} {b : Descriptor}
    (h : (Descriptor.object fs omittable).same b = true) :
    ∃ gs, b = .object gs omittable ∧ fs.length = gs.length ∧ fieldsWithin fs gs = true := by
  cases b with
  | object gs ps =>
    obtain ⟨hlength, hwithin, rfl⟩ := same_object_iff.mp h
    exact ⟨gs, rfl, hlength, hwithin⟩
  | _ => cases h

/-- What is the `same` as an array is an array. -/
theorem exists_of_array_same {a b : Descriptor} (h : (Descriptor.array a).same b = true) :
    ∃ b', b = .array b' ∧ a.same b' = true := by
  cases b with
  | array b' => exact ⟨b', rfl, h⟩
  | _ => cases h

/-- What is the `same` as `.optional a` is `.optional` of the `same`. -/
theorem exists_of_optional_same {a b : Descriptor} (h : (Descriptor.optional a).same b = true) :
    ∃ b', b = .optional b' ∧ a.same b' = true := by
  cases b with
  | optional b' => exact ⟨b', rfl, h⟩
  | _ => cases h

/-- What is the `same` as `.nullable a` is `.nullable` of the `same`. -/
theorem exists_of_nullable_same {a b : Descriptor} (h : (Descriptor.nullable a).same b = true) :
    ∃ b', b = .nullable b' ∧ a.same b' = true := by
  cases b with
  | nullable b' => exact ⟨b', rfl, h⟩
  | _ => cases h

/-- **`same` is reflexive** on descriptors that are `Distinct`. -/
theorem same_self {d : Descriptor} (hd : d.Distinct) : d.same d = true := by
  induction hd with
  | primitive p => exact beq_self_eq_true p
  | object omittable names _ ih =>
    rw [same_object_iff]
    refine ⟨rfl, fieldsWithin_iff.mpr fun f hf => ?_, rfl⟩
    exact ⟨f.2, Members.get?_of_mem names hf, ih f hf⟩
  | array _ ih | optional _ ih | nullable _ ih => exact ih

/-- `fieldsWithin` as many fields have a permutation of their names. -/
theorem names_perm_of_fieldsWithin {fs gs : List (String × Descriptor)} (names : (fs.map Prod.fst).Nodup)
    (hlength : fs.length = gs.length) (h : fieldsWithin fs gs = true) :
    (fs.map Prod.fst).Perm (gs.map Prod.fst) := by
  have hsub : fs.map Prod.fst ⊆ gs.map Prod.fst := by
    intro name hname
    obtain ⟨f, hf, rfl⟩ := List.mem_map.mp hname
    obtain ⟨d, hd, -⟩ := fieldsWithin_iff.mp h f hf
    exact List.mem_map.mpr ⟨(f.1, d), Members.mem_of_get? hd, rfl⟩
  have hperm := names.subperm hsub
  exact hperm.perm_of_length_le (by simp [hlength])

/-- `fieldsWithin` as many fields can be turned round: each of `gs` has a field of `fs` that is the `same`. -/
theorem exists_left_of_fieldsWithin {fs gs : List (String × Descriptor)} (names : (fs.map Prod.fst).Nodup)
    (hlength : fs.length = gs.length) (h : fieldsWithin fs gs = true) {g : String × Descriptor} (hg : g ∈ gs) :
    ∃ f ∈ fs, f.1 = g.1 ∧ f.2.same g.2 = true := by
  have hperm := names_perm_of_fieldsWithin names hlength h
  obtain ⟨f, hf, hname⟩ := List.mem_map.mp (hperm.mem_iff.mpr (List.mem_map_of_mem hg))
  obtain ⟨d, hd, hsame⟩ := fieldsWithin_iff.mp h f hf
  rw [hname, Members.get?_of_mem (hperm.nodup_iff.mp names) hg] at hd
  obtain rfl := Option.some.inj hd
  exact ⟨f, hf, hname, hsame⟩

/-- **`same` is symmetric.** -/
theorem same_symm {a b : Descriptor} (ha : a.Distinct) (h : a.same b = true) : b.same a = true := by
  induction ha generalizing b with
  | primitive p =>
    rw [eq_of_primitive_same h]
    exact beq_self_eq_true p
  | object omittable names _ ih =>
    obtain ⟨gs, rfl, hlength, hwithin⟩ := exists_of_object_same h
    refine same_object_iff.mpr ⟨hlength.symm, fieldsWithin_iff.mpr fun g hg => ?_, rfl⟩
    -- the names are distinct and as many, so every field on the right answers one on the left
    obtain ⟨f, hf, hname, hsame⟩ := exists_left_of_fieldsWithin names hlength hwithin hg
    exact ⟨f.2, hname ▸ Members.get?_of_mem names hf, ih f hf hsame⟩
  | array _ ih =>
    obtain ⟨b, rfl, h⟩ := exists_of_array_same h
    exact ih h
  | optional _ ih =>
    obtain ⟨b, rfl, h⟩ := exists_of_optional_same h
    exact ih h
  | nullable _ ih =>
    obtain ⟨b, rfl, h⟩ := exists_of_nullable_same h
    exact ih h

/-- **`same` is transitive.** -/
theorem same_trans {a b c : Descriptor} (ha : a.Distinct) (hab : a.same b = true)
    (hbc : b.same c = true) : a.same c = true := by
  induction ha generalizing b c with
  | primitive p =>
    obtain rfl := eq_of_primitive_same hab
    exact hbc
  | object omittable names _ ih =>
    obtain ⟨gs, rfl, hlength, hwithin⟩ := exists_of_object_same hab
    obtain ⟨hs, rfl, hlength', hwithin'⟩ := exists_of_object_same hbc
    refine same_object_iff.mpr ⟨hlength.trans hlength', fieldsWithin_iff.mpr fun f hf => ?_, rfl⟩
    -- a field goes to an equal one of the same name, and that to another one
    obtain ⟨d, hd, hsame⟩ := fieldsWithin_iff.mp hwithin f hf
    obtain ⟨d', hd', hsame'⟩ := fieldsWithin_iff.mp hwithin' (f.1, d) (Members.mem_of_get? hd)
    exact ⟨d', hd', ih f hf hsame hsame'⟩
  | array _ ih =>
    obtain ⟨b, rfl, hab⟩ := exists_of_array_same hab
    obtain ⟨c, rfl, hbc⟩ := exists_of_array_same hbc
    exact ih hab hbc
  | optional _ ih =>
    obtain ⟨b, rfl, hab⟩ := exists_of_optional_same hab
    obtain ⟨c, rfl, hbc⟩ := exists_of_optional_same hbc
    exact ih hab hbc
  | nullable _ ih =>
    obtain ⟨b, rfl, hab⟩ := exists_of_nullable_same hab
    obtain ⟨c, rfl, hbc⟩ := exists_of_nullable_same hbc
    exact ih hab hbc

/-- What is the `same` as a `Distinct` descriptor is `Distinct`. -/
theorem Distinct.of_same {a b : Descriptor} (ha : a.Distinct) (h : a.same b = true) : b.Distinct := by
  induction ha generalizing b with
  | primitive p =>
    rw [eq_of_primitive_same h]
    exact .primitive p
  | object omittable names _ ih =>
    obtain ⟨gs, rfl, hlength, hwithin⟩ := exists_of_object_same h
    have hperm := names_perm_of_fieldsWithin names hlength hwithin
    refine .object omittable (hperm.nodup_iff.mp names) fun g hg => ?_
    obtain ⟨f, hf, -, hsame⟩ := exists_left_of_fieldsWithin names hlength hwithin hg
    exact ih f hf hsame
  | array _ ih =>
    obtain ⟨b, rfl, h⟩ := exists_of_array_same h
    exact .array (ih h)
  | optional _ ih =>
    obtain ⟨b, rfl, h⟩ := exists_of_optional_same h
    exact .optional (ih h)
  | nullable _ ih =>
    obtain ⟨b, rfl, h⟩ := exists_of_nullable_same h
    exact .nullable (ih h)

/-! ## The order of fields -/

mutual

/-- **The names of the fields of all objects**, in the order in which records are written: those of the objects inside
of fields come before those of the fields. -/
def written : Descriptor → List String
  | .primitive _ => []
  | .object fields _ => fieldsWritten fields ++ fields.map Prod.fst
  | .array d | .optional d | .nullable d => d.written

/-- The names of the fields of the objects inside of some fields. -/
def fieldsWritten : List (String × Descriptor) → List String
  | [] => []
  | (_, d) :: rest => d.written ++ fieldsWritten rest

end

/-- `fieldsWithin` fields of the same names in the same order are the `same` one by one. -/
theorem forall₂_of_fieldsWithin {fs gs : List (String × Descriptor)} (names : (fs.map Prod.fst).Nodup)
    (hnames : fs.map Prod.fst = gs.map Prod.fst) (h : fieldsWithin fs gs = true) :
    List.Forall₂ (fun f g => f.1 = g.1 ∧ f.2.same g.2 = true) fs gs := by
  rw [List.forall₂_iff_get]
  have hlength : fs.length = gs.length := by simpa using congrArg List.length hnames
  refine ⟨hlength, fun i hi hi' => ?_⟩
  have hname : (fs.get ⟨i, hi⟩).1 = (gs.get ⟨i, hi'⟩).1 := by
    have := congrArg (fun l => l[i]?) hnames
    simpa [hi, hi'] using this
  obtain ⟨d, hd, hsame⟩ := fieldsWithin_iff.mp h _ (List.get_mem fs ⟨i, hi⟩)
  rw [hname, Members.get?_of_mem (hnames ▸ names) (List.get_mem gs ⟨i, hi'⟩)] at hd
  obtain rfl := Option.some.inj hd
  exact ⟨hname, hsame⟩

/-- Fields that are the `same` one by one are equal when they have the same names `written`, after whatever. -/
theorem eq_of_forall₂ {fs gs : List (String × Descriptor)}
    (h : List.Forall₂ (fun f g => f.1 = g.1 ∧ f.2.same g.2 = true) fs gs)
    (ih : ∀ f ∈ fs, ∀ b, f.2.same b = true → ∀ before before', before ++ f.2.written = before' ++ b.written →
      f.2 = b ∧ before = before')
    {before before' : List String} (hwritten : before ++ fieldsWritten fs = before' ++ fieldsWritten gs) :
    fs = gs ∧ before = before' := by
  induction h generalizing before before' with
  | nil => exact ⟨rfl, by simpa [fieldsWritten] using hwritten⟩
  | @cons f g rest rest' hfg _ ihrest =>
    rw [fieldsWritten, fieldsWritten, ← List.append_assoc, ← List.append_assoc] at hwritten
    obtain ⟨hrest, hbefore⟩ := ihrest (fun f hf => ih f (List.mem_cons_of_mem _ hf)) hwritten
    obtain ⟨hd, hbefore⟩ := ih f (List.mem_cons_self ..) g.2 hfg.2 _ _ hbefore
    exact ⟨by rw [hrest, Prod.ext hfg.1 hd], hbefore⟩

/-- **Descriptors that are the `same` and have the same names `written` are equal**, whatever is written before them. -/
theorem eq_of_same {a b : Descriptor} (ha : a.Distinct) (h : a.same b = true) {before before' : List String}
    (hwritten : before ++ a.written = before' ++ b.written) : a = b ∧ before = before' := by
  induction ha generalizing b before before' with
  | primitive p =>
    rw [eq_of_primitive_same h] at hwritten ⊢
    exact ⟨rfl, by simpa [written] using hwritten⟩
  | object omittable names _ ih =>
    obtain ⟨gs, rfl, hlength, hwithin⟩ := exists_of_object_same h
    rw [written, written, ← List.append_assoc, ← List.append_assoc] at hwritten
    -- the names of the object itself are written last
    obtain ⟨hinside, hnames⟩ := List.append_inj' hwritten (by simpa using hlength)
    obtain ⟨hfields, hbefore⟩ := eq_of_forall₂ (forall₂_of_fieldsWithin names hnames hwithin)
      (fun f hf b hb before before' hw => ih f hf hb hw) hinside
    exact ⟨by rw [hfields], hbefore⟩
  | array _ ih =>
    obtain ⟨b, rfl, h⟩ := exists_of_array_same h
    obtain ⟨rfl, hbefore⟩ := ih h hwritten
    exact ⟨rfl, hbefore⟩
  | optional _ ih =>
    obtain ⟨b, rfl, h⟩ := exists_of_optional_same h
    obtain ⟨rfl, hbefore⟩ := ih h hwritten
    exact ⟨rfl, hbefore⟩
  | nullable _ ih =>
    obtain ⟨b, rfl, h⟩ := exists_of_nullable_same h
    obtain ⟨rfl, hbefore⟩ := ih h hwritten
    exact ⟨rfl, hbefore⟩

end Descriptor

end RouteContracts
