import Mathlib.Data.List.Forall2
import RouteContracts.Source.File

/-! # What parsers accept
A parser is said by what it gives for trees, `run`, where nothing but the value and the trees behind it counts.
Each combinator has its equation for `run`, so a rule is opened step by step.

* `run_bind`, `run_bind_of`: one step after another.
* `Repeats`: how a repeated step goes on. `Repeats.run_many`: **`many` leaves what the repeated step does.**
* `run_commaSeparated_commaTrees`: **things between commas are read** where each is a `ReadsPart`.
* `Decides p ok ts`: `p` reads `ts` in some goes exactly if `ok`. `Decides.append`, `Decides.flatten`,
  `Decides.run_toEnd`: **whole files and modules from their items.** -/

namespace RouteContracts.Source

/-- The trees of an attribute with `body` in its brackets. -/
def attributeTrees (body : List Tree) : List Tree := [.mark '#' false, .group .bracket body]

/-- `tss` with commas between. -/
def commaTrees (tss : List (List Tree)) : List Tree := (tss.intersperse [.mark ',' false]).flatten

theorem commaTrees_singleton (ts : List Tree) : commaTrees [ts] = ts := List.append_nil ts

theorem commaTrees_cons_cons (ts us : List Tree) (uss : List (List Tree)) :
    commaTrees (ts :: us :: uss) = ts ++ .mark ',' false :: commaTrees (us :: uss) := rfl

theorem commaTrees_pair (ts us : List Tree) : commaTrees [ts, us] = ts ++ .mark ',' false :: us := by
  rw [commaTrees_cons_cons, commaTrees_singleton]

namespace Tree

theorem sizes_append (ts us : List Tree) : sizes (ts ++ us) = sizes ts + sizes us := by
  induction ts with
  | nil => rw [List.nil_append, sizes, Nat.zero_add]
  | cons t ts ih => rw [List.cons_append, sizes, sizes, ih, Nat.add_assoc]

theorem length_le_sizes (ts : List Tree) : ts.length ≤ sizes ts := by
  induction ts with
  | nil => exact Nat.zero_le _
  | cons t ts ih =>
    have hsize : 1 ≤ size t := by cases t <;> simp [size]
    rw [List.length_cons, sizes]
    omega

end Tree

theorem Peek.nothing_append {ts : List Tree} (hne : ts ≠ []) (rest : List Tree) :
    Peek.nothing (ts ++ rest) = false := by
  cases ts with
  | nil => exact absurd rfl hne
  | cons => rfl

namespace Parser

variable {α β γ : Type}

/-- The value of `p ts` and the trees behind it, without the `read` ones. -/
def run (p : Parser α) (ts : List Tree) : Option (α × List Tree) := (p ts).map fun r => (r.value, r.rest)

theorem isSome_run (p : Parser α) (ts : List Tree) : (p ts).isSome = (run p ts).isSome := by
  unfold run
  cases p ts <;> rfl

/-! ## One step after another -/

theorem run_bind (p : Parser α) (f : α → Parser β) (ts : List Tree) :
    run (p >>= f) ts = (run p ts).bind fun r => run (f r.1) r.2 := by
  show Option.map _ (bind p f ts) = _
  unfold bind run
  cases p ts with
  | none => rfl
  | some r =>
    simp only [Option.map_some, Option.bind_some]
    cases f r.value r.rest <;> rfl

theorem run_bind_of {p : Parser α} {a : α} {ts us : List Tree} (h : run p ts = some (a, us)) (f : α → Parser β) :
    run (p >>= f) ts = run (f a) us := by
  rw [run_bind, h]
  rfl

theorem run_bind_none {p : Parser α} {ts : List Tree} (h : run p ts = none) (f : α → Parser β) :
    run (p >>= f) ts = none := by
  rw [run_bind, h]
  rfl

variable (ts : List Tree)

@[simp] theorem run_pure (a : α) : run (Pure.pure a : Parser α) ts = some (a, ts) := rfl

@[simp] theorem run_bind_pure (a : α) (f : α → Parser β) : run (Pure.pure a >>= f) ts = run (f a) ts :=
  run_bind_of rfl f

@[simp] theorem run_bind_return (a : α) (f : α → Parser β) : run (pure a >>= f) ts = run (f a) ts :=
  run_bind_of rfl f

@[simp] theorem run_bind_bind (p : Parser α) (q : α → Parser β) (f : β → Parser γ) :
    run (p >>= q >>= f) ts = run (p >>= fun a => q a >>= f) ts := by
  rw [run_bind, run_bind, run_bind]
  cases run p ts with
  | none => rfl
  | some r => exact (run_bind _ _ _).symm

@[simp] theorem run_bind_looking (peek : List Tree → Bool) (f : Bool → Parser β) :
    run (looking peek >>= f) ts = run (f (peek ts)) ts := run_bind_of rfl f

@[simp] theorem run_bind_ahead (f : List Tree → Parser β) : run (ahead >>= f) ts = run (f ts) ts := run_bind_of rfl f

@[simp] theorem run_bind_require (peek : List Tree → Bool) (f : Unit → Parser β) :
    run (require peek >>= f) ts = if peek ts then run (f ()) ts else none := by
  rw [run_bind]
  by_cases h : peek ts <;> simp [run, require, h]

/-! ## Choices -/

@[simp] theorem run_ite (c : Prop) [Decidable c] (p q : Parser α) :
    run (if c then p else q) ts = if c then run p ts else run q ts := by
  split <;> rfl

@[simp] theorem run_whenNext (peek : List Tree → Bool) (p : Parser α) (a : α) :
    run (whenNext peek p a) ts = if peek ts then run p ts else some (a, ts) := by
  by_cases h : peek ts <;> simp [run, whenNext, h]

@[simp] theorem run_bind_whenNext (peek : List Tree → Bool) (p : Parser α) (a : α) (f : α → Parser β) :
    run (whenNext peek p a >>= f) ts = if peek ts then run (p >>= f) ts else run (f a) ts := by
  rw [run_bind, run_bind, run_whenNext]
  split <;> rfl

@[simp] theorem run_ifNext (peek : List Tree → Bool) (p q : Parser α) :
    run (ifNext peek p q) ts = if peek ts then run p ts else run q ts := by
  by_cases h : peek ts <;> simp [run, ifNext, h]

@[simp] theorem run_bind_ifNext (peek : List Tree → Bool) (p q : Parser α) (f : α → Parser β) :
    run (ifNext peek p q >>= f) ts = if peek ts then run (p >>= f) ts else run (q >>= f) ts := by
  rw [run_bind, run_ifNext, run_bind, run_bind]
  split <;> rfl

/-! ## Marks and words -/

@[simp] theorem run_mark (s : String) :
    run (mark s) ts = if Peek.op s ts then some ((), ts.drop s.toList.length) else none := by
  rw [String.length_toList]
  by_cases h : Peek.op s ts <;> simp [run, mark, h]

@[simp] theorem run_bind_mark (s : String) (f : Unit → Parser β) :
    run (mark s >>= f) ts = if Peek.op s ts then run (f ()) (ts.drop s.toList.length) else none := by
  rw [run_bind, run_mark]
  split <;> rfl

@[simp] theorem run_bind_markIf (s : String) (f : Bool → Parser β) :
    run (markIf s >>= f) ts = if Peek.op s ts then run (f true) (ts.drop s.toList.length) else run (f false) ts := by
  unfold markIf
  rw [run_bind_whenNext, run_bind_bind, run_bind_mark]
  split <;> simp [*]

@[simp] theorem run_keyword (k w : String) :
    run (keyword k) (.word w :: ts) = if w = k then some ((), ts) else none := by
  unfold keyword
  rw [run_bind]
  unfold tree run
  by_cases h : w = k <;> simp [h, Pure.pure, pure]

@[simp] theorem run_bind_keyword (k w : String) (f : Unit → Parser β) :
    run (keyword k >>= f) (.word w :: ts) = if w = k then run (f ()) ts else none := by
  rw [run_bind, run_keyword]
  split <;> rfl

@[simp] theorem run_bind_keywordIf (k : String) (f : Bool → Parser β) :
    run (keywordIf k >>= f) ts = if Peek.keyword k ts then run (f true) (ts.drop 1) else run (f false) ts := by
  unfold keywordIf
  rw [run_bind_whenNext]
  cases ts with
  | nil => rfl
  | cons t ts =>
    cases t with
    | word w =>
      rw [run_bind_bind, run_bind_keyword]
      by_cases h : w = k <;> simp [Peek.keyword, h]
    | mark | literal | group => rfl

@[simp] theorem run_bind_anyWord (w : String) (f : String → Parser β) :
    run (anyWord >>= f) (.word w :: ts) = run (f w) ts := run_bind_of rfl f

theorem run_identifier (w : String) :
    run identifier (.word w :: ts) = if Peek.reserved.contains w then none else some (w, ts) := by
  unfold identifier run
  cases h : Peek.reserved.contains w <;> simp only [Peek.identifier, h] <;> rfl

@[simp] theorem run_bind_identifier (w : String) (f : String → Parser β) :
    run (identifier >>= f) (.word w :: ts) = if Peek.reserved.contains w then none else run (f w) ts := by
  rw [run_bind, run_identifier]
  split <;> rfl

theorem run_bind_identifierOrBlank {w : String} (hw : Peek.reserved.contains w = false) (f : String → Parser β) :
    run (identifierOrBlank >>= f) (.word w :: ts) = run (f w) ts := by
  refine run_bind_of ?_ f
  unfold identifierOrBlank run
  simp only [Peek.identifier, hw]
  rfl

/-! ## Groups -/

theorem run_group (d e : Delimiter) (p : Parser α) (content : List Tree) :
    run (group d p) (.group e content :: ts) =
      if d = e then (run p content).bind fun r => if r.2.isEmpty then some (r.1, ts) else none else none := by
  unfold group run
  by_cases h : d = e
  · cases hp : p content with
    | none => simp [h, hp]
    | some r =>
      cases hr : r.rest.isEmpty <;> simp_all
  · simp [h]

/-- `group d p` reads `.group d ts` where `p` reads `ts` to the end. -/
theorem run_group_of {p : Parser α} {a : α} {ts : List Tree} (h : run p ts = some (a, [])) (d : Delimiter)
    (rest : List Tree) : run (group d p) (.group d ts :: rest) = some (a, rest) := by
  rw [run_group, if_pos rfl, h]
  rfl

@[simp] theorem run_bind_anyGroup (d : Delimiter) (content : List Tree) (f : Delimiter × List Tree → Parser β) :
    run (anyGroup >>= f) (.group d content :: ts) = run (f (d, content)) ts := run_bind_of rfl f

@[simp] theorem run_sized (p : Nat → Parser α) :
    run (Rule.sized p) ts = run (p (2 * Tree.sizes ts + 8)) ts := rfl

theorem run_sized_of {p : Nat → Parser α} {r : Option (α × List Tree)} (h : ∀ fuel, run (p (fuel + 8)) ts = r) :
    run (Rule.sized p) ts = r := h _

theorem exists_run_sized {p : Nat → Parser α} {rest : List Tree}
    (h : ∀ fuel, ∃ a, run (p (fuel + 8)) ts = some (a, rest)) : ∃ a, run (Rule.sized p) ts = some (a, rest) := h _

theorem exists_run_shown {p : Parser α} {a : α} {ts rest : List Tree} (h : run p ts = some (a, rest)) :
    ∃ read, run (shown p) ts = some ((a, read), rest) := by
  obtain ⟨r, hr, heq⟩ := Option.map_eq_some_iff.mp h
  obtain ⟨rfl, rfl⟩ := Prod.mk.inj heq
  refine ⟨r.read, ?_⟩
  unfold run shown
  rw [hr]
  rfl

/-- `fold step a` is `a` where `step a` gives none. -/
theorem run_fold_of {step : α → Parser (Option α)} {a : α} {ts rest : List Tree}
    (h : run (step a) ts = some (none, rest)) : run (fold step a) ts = some (a, rest) := by
  have hfold : run (fold step a) ts = run (foldSteps step (ts.length + 1) a) ts := rfl
  rw [hfold, foldSteps, run_bind_of h]
  rfl

/-! ## Repetition -/

variable {ts}

/-- How `step` goes on over trees, and the trees that it leaves: `none` if it fails. Each go reads something. -/
inductive Repeats (step : Parser (Option α)) : List Tree → Option (List Tree) → Prop where
  | stop {ts rest : List Tree} (h : run step ts = some (none, rest)) : Repeats step ts (some rest)
  | fail {ts : List Tree} (h : run step ts = none) : Repeats step ts none
  | more {ts : List Tree} (a : α) (us : List Tree) {left : Option (List Tree)} (h : run step ts = some (some a, us))
      (hlength : us.length < ts.length) (hmore : Repeats step us left) : Repeats step ts left

theorem Repeats.run_iterate {step : Parser (Option α)} {ts : List Tree} {left : Option (List Tree)}
    (h : Repeats step ts left) {fuel : Nat} (hfuel : ts.length < fuel) :
    (run (iterate step fuel) ts).map Prod.snd = left := by
  induction h generalizing fuel with
  | stop h =>
    obtain ⟨fuel, rfl⟩ : ∃ n, fuel = n + 1 := ⟨fuel - 1, by omega⟩
    exact congrArg (Option.map Prod.snd) (run_bind_of h _)
  | fail h =>
    obtain ⟨fuel, rfl⟩ : ∃ n, fuel = n + 1 := ⟨fuel - 1, by omega⟩
    exact congrArg (Option.map Prod.snd) (run_bind_none h _)
  | @more ts a us left h hlength _ ih =>
    obtain ⟨fuel, rfl⟩ : ∃ n, fuel = n + 1 := ⟨fuel - 1, by omega⟩
    rw [← ih (show us.length < fuel by omega)]
    refine (congrArg (Option.map Prod.snd) (run_bind_of h _)).trans ?_
    show Option.map _ (run (iterate step fuel >>= _) us) = _
    rw [run_bind]
    cases run (iterate step fuel) us <;> rfl

/-- `Repeats` over `tss.flatten` where `step` reads each of `tss`. -/
theorem Repeats.flatten {step : Parser (Option α)} {tss : List (List Tree)} (hne : ∀ ts ∈ tss, ts ≠ [])
    (hstep : ∀ ts ∈ tss, ∀ rest, ∃ a, run step (ts ++ rest) = some (some a, rest)) (us : List Tree)
    {left : Option (List Tree)} (h : Repeats step us left) : Repeats step (tss.flatten ++ us) left := by
  induction tss with
  | nil => exact h
  | cons ts tss ih =>
    rw [List.forall_mem_cons] at hne hstep
    obtain ⟨a, ha⟩ := hstep.1 (tss.flatten ++ us)
    have hlength : 0 < ts.length := List.length_pos_iff.mpr hne.1
    rw [List.flatten_cons, List.append_assoc]
    refine .more a _ ha ?_ (ih hne.2 hstep.2)
    simp only [List.length_append]
    omega

/-- **`many step` leaves what `Repeats` says.** -/
theorem Repeats.run_many {step : Parser (Option α)} {ts : List Tree} {left : Option (List Tree)}
    (h : Repeats step ts left) : (run (many step) ts).map Prod.snd = left :=
  h.run_iterate (Nat.lt_succ_self _)

/-- `many step` reads up to where `step` stops. -/
theorem Repeats.exists_run {step : Parser (Option α)} {ts rest : List Tree} (h : Repeats step ts (some rest)) :
    ∃ as, run (many step) ts = some (as, rest) := by
  obtain ⟨⟨as, us⟩, hrun, rfl⟩ := Option.map_eq_some_iff.mp h.run_many
  exact ⟨as, hrun⟩

theorem Repeats.run_none {step : Parser (Option α)} {ts : List Tree} (h : Repeats step ts none) :
    run (many step) ts = none := Option.map_eq_none_iff.mp h.run_many

/-! ## Things one after another -/

/-- What comes behind one of several things between commas: nothing or a comma. -/
inductive EndsPart : List Tree → Prop where
  | nil : EndsPart []
  | comma (ts : List Tree) : EndsPart (.mark ',' false :: ts)

/-- `p` reads `ts` in front of what `EndsPart`. -/
def ReadsPart (p : Parser α) (ts : List Tree) : Prop :=
  ts ≠ [] ∧ ∀ rest, EndsPart rest → ∃ a, run p (ts ++ rest) = some (a, rest)

/-- **`commaSeparated p` reads `commaTrees tss`** where each of `tss` is a `ReadsPart`. -/
theorem run_commaSeparated_commaTrees {p : Parser α} {tss : List (List Tree)}
    (hp : ∀ ts ∈ tss, ReadsPart p ts) :
    ∃ as, run (commaSeparated p) (commaTrees tss) = some (as, []) := by
  unfold commaSeparated
  refine Repeats.exists_run ?_
  induction tss with
  | nil => exact .stop (by simp [commaTrees, Peek.nothing])
  | cons ts tss ih =>
    rw [List.forall_mem_cons] at hp
    obtain ⟨⟨hne, hts⟩, htss⟩ := hp
    have hnothing : ∀ rest, Peek.nothing (ts ++ rest) = false := Peek.nothing_append hne
    cases tss with
    | nil =>
      obtain ⟨a, ha⟩ := hts [] .nil
      rw [commaTrees_singleton, ← List.append_nil ts]
      refine .more a [] ?_ ?_ (.stop (by simp [Peek.nothing]))
      · simp only [run_bind_looking, hnothing]
        rw [if_neg Bool.false_ne_true, run_bind_of ha]
        simp [Peek.nothing]
      · rw [List.append_nil]
        exact List.length_pos_iff.mpr hne
    | cons us uss =>
      obtain ⟨a, ha⟩ := hts _ (.comma (commaTrees (us :: uss)))
      rw [commaTrees_cons_cons]
      refine .more a _ ?_ ?_ (ih htss)
      · simp only [run_bind_looking, hnothing]
        rw [if_neg Bool.false_ne_true, run_bind_of ha]
        simp [Peek.nothing, Peek.op, Peek.operator]
      · simp only [List.length_append, List.length_cons]
        omega

/-- `commaSeparated p` reads `tss.flatten` where `p` reads each of `tss` up to a comma of its own. -/
theorem run_commaSeparated {p : Parser α} {tss : List (List Tree)}
    (hp : ∀ ts ∈ tss, ts ≠ [] ∧ ∀ rest, ∃ a, run p (ts ++ rest) = some (a, .mark ',' false :: rest)) :
    ∃ as, run (commaSeparated p) tss.flatten = some (as, []) := by
  unfold commaSeparated
  rw [← List.append_nil (List.flatten _)]
  refine Repeats.exists_run (.flatten (fun ts hts => (hp ts hts).1) ?_ _ (.stop (by simp [Peek.nothing])))
  intro ts hts rest
  obtain ⟨hne, hreads⟩ := hp ts hts
  obtain ⟨a, ha⟩ := hreads rest
  have hnothing : Peek.nothing (ts ++ rest) = false := Peek.nothing_append hne rest
  refine ⟨a, ?_⟩
  simp only [run_bind_looking, hnothing]
  rw [if_neg Bool.false_ne_true, run_bind_of ha]
  simp [Peek.nothing, Peek.op, Peek.operator]

/-- One go of `toEnd p`. -/
def untilNothing (p : Parser (List Item)) : Parser (Option (List Item)) := do
  if ← looking Peek.nothing then return none
  let items ← p
  return some items

/-- `p` reads `ts` in some goes if `ok`, and else fails on them, whatever comes behind. -/
structure Decides (p : Parser (List Item)) (ok : Prop) (ts : List Tree) : Prop where
  reads : ok → ∀ us left, Repeats (untilNothing p) us left → Repeats (untilNothing p) (ts ++ us) left
  refuses : ¬ok → ∀ us, Repeats (untilNothing p) (ts ++ us) none

namespace Decides

variable {p : Parser (List Item)} {ok ok' : Prop} {us : List Tree}

theorem one (hne : ts ≠ []) (hreads : ok → ∀ us, ∃ items, run p (ts ++ us) = some (items, us))
    (hrefuses : ¬ok → ∀ us, run p (ts ++ us) = none) : Decides p ok ts := by
  have hnothing : ∀ us, Peek.nothing (ts ++ us) = false := Peek.nothing_append hne
  constructor
  · intro hok us left h
    obtain ⟨items, hitems⟩ := hreads hok us
    have hlength : 0 < ts.length := List.length_pos_iff.mpr hne
    refine .more items us ?_ ?_ h
    · unfold untilNothing
      simp [hnothing, run_bind_of hitems]
    · rw [List.length_append]
      omega
  · intro hok us
    refine .fail ?_
    unfold untilNothing
    simp [hnothing, run_bind_none (hrefuses hok us)]

/-- `Decides` of trees that `p` reads in every case. -/
theorem always (hne : ts ≠ []) (hreads : ∀ us, ∃ items, run p (ts ++ us) = some (items, us)) : Decides p True ts :=
  one hne (fun _ => hreads) fun h => absurd trivial h

theorem nil : Decides p True [] := ⟨fun _ _ _ h => h, fun h => absurd trivial h⟩

theorem append (h : Decides p ok ts) (h' : ok → Decides p ok' us) : Decides p (ok ∧ ok') (ts ++ us) := by
  constructor
  · intro hok vs left hvs
    rw [List.append_assoc]
    exact h.reads hok.1 _ _ ((h' hok.1).reads hok.2 _ _ hvs)
  · intro hok vs
    rw [List.append_assoc]
    by_cases hfirst : ok
    · exact h.reads hfirst _ _ ((h' hfirst).refuses (fun h => hok ⟨hfirst, h⟩) vs)
    · exact h.refuses hfirst _

theorem congr (h : Decides p ok ts) (hiff : ok ↔ ok') : Decides p ok' ts := by
  rwa [← propext hiff]

/-- `Decides` of `tss.flatten`, where each of `tss` is decided by a member of `xs`: all of them have to be `ok`. -/
theorem flatten {α : Type} {oks : α → Prop} {xs : List α} {tss : List (List Tree)}
    (h : List.Forall₂ (fun x ts => Decides p (oks x) ts) xs tss) : Decides p (∀ x ∈ xs, oks x) tss.flatten := by
  induction h with
  | nil => exact nil.congr ⟨fun _ _ hx => absurd hx List.not_mem_nil, fun _ => trivial⟩
  | cons h _ ih => exact (h.append fun _ => ih).congr List.forall_mem_cons.symm

/-- **`toEnd p` reads `ts` to the end if `ok`, and else fails.** -/
theorem run_toEnd (h : Decides p ok ts) :
    (ok → ∃ items, run (Rule.toEnd p) ts = some (items, [])) ∧ (¬ok → run (Rule.toEnd p) ts = none) := by
  constructor
  · intro hok
    have hrepeats := h.reads hok [] (some []) (.stop (by unfold untilNothing; simp [Peek.nothing]))
    rw [List.append_nil] at hrepeats
    obtain ⟨found, hfound⟩ := hrepeats.exists_run
    exact ⟨found.flatten, run_bind_of hfound _⟩
  · intro hok
    have hrepeats := h.refuses hok []
    rw [List.append_nil] at hrepeats
    exact run_bind_none hrepeats.run_none _

end Decides

end Parser

end RouteContracts.Source
