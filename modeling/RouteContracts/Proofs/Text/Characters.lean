import RouteContracts.Text.Blank

/-! # Characters
What the proofs about texts share about single characters and about lists of them.

* `Text.forall_mem_of_all`: a property that is decided member by member.
* `Text.toNat_bounds`, `Text.isDigit_toNat`: the code points of characters and of digits.
* `Text.mem_intercalate`: the characters of joined words. -/

namespace RouteContracts.Text

/-- `∀ c ∈ cs, p c` by `cs.all`. Deciding the statement itself could go through all characters that there are. -/
theorem forall_mem_of_all {p : Char → Prop} [DecidablePred p] {cs : List Char}
    (h : cs.all (fun c => decide (p c)) = true) : ∀ c ∈ cs, p c :=
  fun c hc => of_decide_eq_true (List.all_eq_true.mp h c hc)

/-- `c.toNat` is below `0x110000`, and not half of a pair. -/
theorem toNat_bounds (c : Char) : c.toNat < 0x110000 ∧ (c.toNat < 0xD800 ∨ 0xE000 ≤ c.toNat) := by
  have h := c.valid
  simp only [UInt32.isValidChar, Nat.isValidChar] at h
  simp only [Char.toNat]
  omega

/-- `48 ≤ c.toNat ≤ 57` for a digit. -/
theorem isDigit_toNat {c : Char} (h : c.isDigit = true) : 48 ≤ c.toNat ∧ c.toNat ≤ 57 := by
  simp only [Char.isDigit, Bool.and_eq_true, decide_eq_true_eq, ge_iff_le, UInt32.le_iff_toNat_le] at h
  exact h

/-- A character of `[sep].intercalate ws` is `sep` or stands in one of the words. -/
theorem mem_intercalate {sep c : Char} {ws : List (List Char)} (hc : c ∈ [sep].intercalate ws) :
    c = sep ∨ ∃ w ∈ ws, c ∈ w := by
  induction ws with
  | nil => exact absurd hc List.not_mem_nil
  | cons w ws ih =>
    cases ws with
    | nil =>
      rw [List.intercalate_singleton] at hc
      exact .inr ⟨w, List.mem_cons_self .., hc⟩
    | cons v ws =>
      rw [List.intercalate_cons_cons, List.mem_append, List.mem_append, List.mem_singleton] at hc
      rcases hc with (hc | hc) | hc
      · exact .inr ⟨w, List.mem_cons_self .., hc⟩
      · exact .inl hc
      · rcases ih hc with hc | ⟨u, hu, hc⟩
        · exact .inl hc
        · exact .inr ⟨u, List.mem_cons_of_mem _ hu, hc⟩

end RouteContracts.Text
