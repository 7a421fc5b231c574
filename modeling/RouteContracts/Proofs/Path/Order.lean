import Mathlib.Order.Basic
import RouteContracts.Path

/-! # The order of paths
Paths are ordered by their components: first by kind, names by their characters. The order is linear, up to
equality of components, so a list of paths can be sorted in one way only.

* `Component.compare_eq`: the order of components as one comparison after another.
* `Path.before_trans`, `Path.before_total`: the order of paths is one.
* `Path.same_of_before_of_before`: **paths that come before each other are equal by components.** -/

namespace RouteContracts

/-! ## Components -/

namespace Component

/-- `Component.compare` is lexicographic in `kindOrder` and `text`: only names have texts that can differ. -/
theorem compare_eq (a b : Component) :
    a.compare b = compareLex (compareOn kindOrder) (compareOn text) a b := by
  cases a <;> cases b <;> rfl

instance : Std.TransCmp Component.compare := by
  have h : Component.compare = compareLex (compareOn kindOrder) (compareOn text) :=
    funext fun a => funext fun b => compare_eq a b
  rw [h]
  infer_instance

instance : Std.LawfulEqCmp Component.compare where
  eq_of_compare {a b} h := by
    rw [compare_eq, compareLex, Ordering.then_eq_eq] at h
    obtain ⟨hkind, htext⟩ := h
    have hkind : a.kindOrder = b.kindOrder := Std.LawfulEqOrd.eq_of_compare hkind
    have htext : a.text = b.text := Std.LawfulEqOrd.eq_of_compare htext
    cases a <;> cases b <;> simp_all [kindOrder, text]

end Component

/-! ## Paths -/

namespace Path

/-- `compareComponents` is `List.compareLex Component.compare`. -/
theorem compareComponents_eq (as bs : List Component) :
    compareComponents as bs = List.compareLex Component.compare as bs := by
  induction as generalizing bs with
  | nil => cases bs <;> rfl
  | cons a as ih =>
    cases bs with
    | nil => rfl
    | cons b bs =>
      rw [compareComponents, List.compareLex_cons_cons, ih]

/-- `p.before q` says that `List.compareLex` of the components is `isLE`. -/
theorem before_iff {p q : Path} :
    p.before q = true ↔ (List.compareLex Component.compare p.components q.components).isLE = true := by
  rw [before, compareComponents_eq]
  cases List.compareLex Component.compare p.components q.components <;> decide

theorem before_trans {p q r : Path} (hpq : p.before q = true) (hqr : q.before r = true) :
    p.before r = true :=
  before_iff.mpr (Std.TransCmp.isLE_trans (before_iff.mp hpq) (before_iff.mp hqr))

theorem before_total (p q : Path) : p.before q = true ∨ q.before p = true := by
  have hswap : List.compareLex Component.compare q.components p.components =
      (List.compareLex Component.compare p.components q.components).swap := Std.OrientedCmp.eq_swap
  rw [before_iff, before_iff, hswap]
  cases List.compareLex Component.compare p.components q.components <;> decide

/-- **`before` is antisymmetric up to `same`.** -/
theorem same_of_before_of_before {p q : Path} (hpq : p.before q = true) (hqp : q.before p = true) :
    p.same q = true := by
  have heq := Std.OrientedCmp.isLE_antisymm (before_iff.mp hpq) (before_iff.mp hqp)
  exact beq_iff_eq.mpr (Std.LawfulEqCmp.eq_of_compare heq)

end Path

end RouteContracts
