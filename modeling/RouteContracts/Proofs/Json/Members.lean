import RouteContracts.Json.Reader
import RouteContracts.Proofs.Schema.Structure

/-! # Members with distinct names
`Members.insert` and `Members.erase` keep the names of members distinct, and all objects are read by insertion. Where
names are distinct, look-up does not depend on the order, so it does not matter that `Members.erase` changes it.

* `Members.nodup_insert`, `Members.ofList_spec`: members that are inserted one after the other.
* `Members.erase_perm`: **what is left when a name is removed.** `Members.get?_erase_self`, `Members.get?_erase_of_ne`:
  how it is looked up.
* `Json.nodup_of_read?`: **the object of a JSON text has distinct names.** -/

namespace RouteContracts

namespace Members

variable {α : Type} {members members' : Members α} {name other : String}

/-! ## Insertion -/

theorem mem_insert {value : α} {m : String × α} (h : m ∈ insert name value members) :
    m = (name, value) ∨ m ∈ members := by
  induction members with
  | nil => exact .inl (List.mem_singleton.mp h)
  | cons old rest ih =>
    rw [insert] at h
    split at h
    · next hkey =>
      rcases List.mem_cons.mp h with rfl | h
      · exact .inl (by simp [hkey])
      · exact .inr (List.mem_cons_of_mem _ h)
    · rcases List.mem_cons.mp h with rfl | h
      · exact .inr List.mem_cons_self
      · exact (ih h).imp_right (List.mem_cons_of_mem _)

/-- **`insert name value` keeps names distinct.** -/
theorem nodup_insert (name : String) (value : α) (h : (members.map Prod.fst).Nodup) :
    ((insert name value members).map Prod.fst).Nodup := by
  induction members with
  | nil => exact List.nodup_singleton name
  | cons old rest ih =>
    rw [List.map_cons, List.nodup_cons] at h
    rw [insert]
    split
    · exact List.nodup_cons.mpr h
    · next hkey =>
      -- a name behind the head is the inserted one or an old one, and the head is neither
      refine List.nodup_cons.mpr ⟨fun hmem => ?_, ih h.2⟩
      obtain ⟨m, hm, hname⟩ := List.mem_map.mp hmem
      rcases mem_insert hm with rfl | hm
      · exact hkey hname.symm
      · exact h.1 (hname ▸ List.mem_map_of_mem hm)

/-- The members of `ofList pairs` are from `pairs` and have distinct names. -/
theorem ofList_spec (pairs : List (String × α)) :
    ((ofList pairs).map Prod.fst).Nodup ∧ ∀ m ∈ ofList pairs, m ∈ pairs := by
  -- the fold may start anywhere: it ends with what it started from and what it is given
  have hall : ∀ start : Members α, (start.map Prod.fst).Nodup →
      let result := pairs.foldl (fun members m => insert m.1 m.2 members) start
      (result.map Prod.fst).Nodup ∧ ∀ m ∈ result, m ∈ start ∨ m ∈ pairs := by
    induction pairs with
    | nil => exact fun start h => ⟨h, fun m hm => .inl hm⟩
    | cons p pairs ih =>
      intro start h
      obtain ⟨hnodup, hmem⟩ := ih _ (nodup_insert p.1 p.2 h)
      refine ⟨hnodup, fun m hm => ?_⟩
      rcases hmem m hm with hm | hm
      · rcases mem_insert hm with rfl | hm
        · exact .inr List.mem_cons_self
        · exact .inl hm
      · exact .inr (List.mem_cons_of_mem p hm)
  obtain ⟨hnodup, hmem⟩ := hall [] List.nodup_nil
  exact ⟨hnodup, fun m hm => (hmem m hm).resolve_left List.not_mem_nil⟩

/-! ## Removal -/

/-- `get? name` does not depend on the order of members with distinct names. -/
theorem get?_perm (h : members.Perm members') (hn : (members.map Prod.fst).Nodup) (name : String) :
    get? name members = get? name members' := by
  cases hget : get? name members' with
  | none =>
    rw [get?_eq_none_iff] at hget ⊢
    exact fun hmem => hget ((h.map Prod.fst).mem_iff.mp hmem)
  | some value => exact get?_of_mem hn (h.mem_iff.mpr (mem_of_get? hget))

/-- **`erase name members` is `members.filter (·.1 ≠ name)` in some order**: the last member takes the place of the one
that goes. -/
theorem erase_perm (hn : (members.map Prod.fst).Nodup) :
    (erase name members).Perm (members.filter fun m => m.1 ≠ name) := by
  induction members with
  | nil => exact .nil
  | cons m rest ih =>
    obtain ⟨key, value⟩ := m
    obtain ⟨hkey, hrest⟩ := List.nodup_cons.mp hn
    rw [erase]
    split
    · next heq =>
      subst heq
      have hkept : rest.filter (fun m => m.1 ≠ key) = rest :=
        List.filter_eq_self.mpr fun m hm => decide_eq_true fun heq => hkey (List.mem_map.mpr ⟨m, hm, heq⟩)
      rw [List.filter_cons_of_neg (by simp), hkept]
      refine List.perm_append_comm.trans (.of_eq ?_)
      cases hlast : rest.getLast? with
      | none => rw [List.getLast?_eq_none_iff.mp hlast]; rfl
      | some last => exact List.dropLast_append_getLast? last hlast
    · next hne =>
      rw [List.filter_cons_of_pos (by simpa using hne)]
      exact (ih hrest).cons _

theorem nodup_erase (name : String) (hn : (members.map Prod.fst).Nodup) : ((erase name members).map Prod.fst).Nodup :=
  ((erase_perm hn).map Prod.fst).nodup_iff.mpr (hn.sublist (List.filter_sublist.map Prod.fst))

/-- `get? name (members.erase name) = none`. -/
theorem get?_erase_self (name : String) (hn : (members.map Prod.fst).Nodup) : get? name (members.erase name) = none := by
  rw [get?_eq_none_iff]
  intro hmem
  obtain ⟨m, hm, hname⟩ := List.mem_map.mp hmem
  have hkept := (List.mem_filter.mp ((erase_perm hn).mem_iff.mp hm)).2
  exact of_decide_eq_true hkept hname

/-- **`get? other (members.erase name) = get? other members`** for every other name. -/
theorem get?_erase_of_ne (h : other ≠ name) (hn : (members.map Prod.fst).Nodup) :
    get? other (members.erase name) = get? other members := by
  rw [get?_perm (erase_perm hn) (nodup_erase name hn)]
  clear hn
  induction members with
  | nil => rfl
  | cons m rest ih =>
    obtain ⟨key, value⟩ := m
    rw [List.filter_cons]
    split
    · rw [get?, get?, ih]
    · next hgone =>
      have hkey : key = name := by simpa using hgone
      rw [ih, get?, if_neg fun heq => h (heq.symm.trans hkey)]

end Members

/-! ## Reading -/

namespace Json

/-- The members of `v` have distinct names, if it is an object. Nothing is said of the values in it. -/
def DistinctTop (v : Json) : Prop := ∀ members, v = .object members → (members.map Prod.fst).Nodup

/-- The members that an open object has so far have distinct names. -/
def Frame.Distinct : Frame → Prop
  | .array _ => True
  | .object members _ => (members.map Prod.fst).Nodup

/-- The members that have been read have distinct names. -/
def Expecting.Distinct : Expecting → Prop
  | .value | .valueOrEnd => True
  | .nameOrEnd members | .name members | .colon members _ => (members.map Prod.fst).Nodup
  | .more v => v.DistinctTop

/-- A scalar token is `DistinctTop`. -/
def Token.Distinct : Token → Prop
  | .scalar v => v.DistinctTop
  | .mark _ => True

theorem DistinctTop.array (items : List Json) : (array items).DistinctTop := fun _ heq => by cases heq

theorem DistinctTop.object {members : Members Json} (h : (members.map Prod.fst).Nodup) : (object members).DistinctTop :=
  fun _ heq => Json.object.inj heq ▸ h

theorem distinct_token? {s rest : List Char} {t : Token} (h : token? s = some (t, rest)) : t.Distinct := by
  unfold token? at h
  split at h
  · obtain ⟨rfl, -⟩ := Prod.mk.inj (Option.some.inj h)
    exact fun _ heq => by cases heq
  · obtain ⟨rfl, -⟩ := Prod.mk.inj (Option.some.inj h)
    exact fun _ heq => by cases heq
  · obtain ⟨rfl, -⟩ := Prod.mk.inj (Option.some.inj h)
    exact fun _ heq => by cases heq
  · obtain ⟨read, -, h⟩ := Option.bind_eq_some_iff.mp h
    obtain ⟨rfl, -⟩ := Prod.mk.inj (Option.some.inj h)
    exact fun _ heq => by cases heq
  · split at h
    · obtain ⟨rfl, -⟩ := Prod.mk.inj (Option.some.inj h)
      trivial
    · obtain ⟨read, -, h⟩ := Option.bind_eq_some_iff.mp h
      obtain ⟨rfl, -⟩ := Prod.mk.inj (Option.some.inj h)
      exact fun _ heq => by cases heq
  · cases h

theorem distinct_tokensWithin {fuel : Nat} {s : List Char} {ts : List Token} (h : tokensWithin fuel s = some ts) :
    ∀ t ∈ ts, t.Distinct := by
  induction fuel generalizing s ts with
  | zero =>
    cases s with
    | nil => exact Option.some.inj h ▸ List.forall_mem_nil _
    | cons c s => cases h
  | succ fuel ih =>
    cases s with
    | nil => exact Option.some.inj h ▸ List.forall_mem_nil _
    | cons c s =>
      rw [tokensWithin] at h
      split at h
      · exact ih h
      · obtain ⟨⟨t, rest⟩, ht, h⟩ := Option.bind_eq_some_iff.mp h
        obtain ⟨more, hmore, h⟩ := Option.bind_eq_some_iff.mp h
        obtain rfl := Option.some.inj h
        exact List.forall_mem_cons.mpr ⟨distinct_token? ht, ih hmore⟩

/-- **What `assemble` makes of tokens is `DistinctTop`**, if all that has been read so far has distinct names. -/
theorem distinctTop_assemble {limit : Nat} {ts : List Token} {frames : List Frame} {e : Expecting} {v : Json}
    (hts : ∀ t ∈ ts, t.Distinct) (hframes : ∀ f ∈ frames, f.Distinct) (he : e.Distinct)
    (h : assemble limit frames e ts = some v) : v.DistinctTop := by
  induction ts generalizing frames e with
  | nil =>
    unfold assemble at h
    split at h
    · obtain rfl := Option.some.inj h
      exact he
    · cases h
    all_goals contradiction
  | cons t ts ih =>
    obtain ⟨ht, hrest⟩ := List.forall_mem_cons.mp hts
    have hopened : ∀ {frames : List Frame} {c : Char}, (∀ f ∈ frames, f.Distinct) →
        assemble.opened limit frames c ts = some v → v.DistinctTop := by
      intro frames c hframes h
      unfold assemble.opened at h
      split at h
      · cases h
      split at h
      · exact ih (e := .valueOrEnd) hrest hframes trivial h
      split at h
      · exact ih (e := .nameOrEnd []) hrest hframes List.nodup_nil h
      · cases h
    have harray : ∀ {frames : List Frame} (items : List Json), (∀ f ∈ frames, f.Distinct) →
        ∀ f ∈ .array items :: frames, f.Distinct := fun _ hframes => List.forall_mem_cons.mpr ⟨trivial, hframes⟩
    unfold assemble at h
    split at h
    all_goals first | contradiction | skip
    -- one case for each rule, in its order
    · next w _ heq =>
      obtain ⟨rfl, rfl⟩ := List.cons.inj heq
      exact ih hrest hframes (e := .more w) ht h
    · next w _ heq =>
      obtain ⟨rfl, rfl⟩ := List.cons.inj heq
      exact ih hrest (harray [] hframes) (e := .more w) ht h
    · next heq =>
      obtain ⟨rfl, rfl⟩ := List.cons.inj heq
      exact hopened hframes h
    · next heq =>
      obtain ⟨rfl, rfl⟩ := List.cons.inj heq
      exact ih hrest hframes (e := .more (.array [])) (.array []) h
    · next heq =>
      obtain ⟨rfl, rfl⟩ := List.cons.inj heq
      exact hopened (harray [] hframes) h
    · next members _ heq =>
      obtain ⟨rfl, rfl⟩ := List.cons.inj heq
      exact ih hrest hframes (e := .more (.object members)) (.object he) h
    · next members name _ heq =>
      obtain ⟨rfl, rfl⟩ := List.cons.inj heq
      exact ih hrest hframes (e := .colon members name) he h
    · next members name _ heq =>
      obtain ⟨rfl, rfl⟩ := List.cons.inj heq
      exact ih hrest hframes (e := .colon members name) he h
    · next members name _ heq =>
      obtain ⟨rfl, rfl⟩ := List.cons.inj heq
      have hframe : (Frame.object members name).Distinct := he
      exact ih hrest (e := .value) (List.forall_mem_cons.mpr ⟨hframe, hframes⟩) trivial h
    · next items frames _ _ heq =>
      obtain ⟨rfl, rfl⟩ := List.cons.inj heq
      exact ih hrest (e := .value) (harray _ (List.forall_mem_cons.mp hframes).2) trivial h
    · next items frames w _ heq =>
      obtain ⟨rfl, rfl⟩ := List.cons.inj heq
      exact ih hrest (e := .more (.array (w :: items).reverse)) (List.forall_mem_cons.mp hframes).2 (.array _) h
    · next members name frames w _ heq =>
      obtain ⟨rfl, rfl⟩ := List.cons.inj heq
      obtain ⟨hmembers, hframes⟩ := List.forall_mem_cons.mp hframes
      exact ih hrest hframes (e := .name (members.insert name w)) (Members.nodup_insert name w hmembers) h
    · next members name frames w _ heq =>
      obtain ⟨rfl, rfl⟩ := List.cons.inj heq
      obtain ⟨hmembers, hframes⟩ := List.forall_mem_cons.mp hframes
      exact ih hrest hframes (e := .more (.object (members.insert name w)))
        (.object (Members.nodup_insert name w hmembers)) h

/-- **The object that `Json.read?` gives has distinct names**, however often the text repeats one. -/
theorem nodup_of_read? {text : String} {members : Members Json} (h : read? text = some (.object members)) :
    (members.map Prod.fst).Nodup := by
  obtain ⟨ts, hts, h⟩ := Option.bind_eq_some_iff.mp h
  exact distinctTop_assemble (e := .value) (distinct_tokensWithin hts) (List.forall_mem_nil _) trivial h members rfl

end Json

end RouteContracts
