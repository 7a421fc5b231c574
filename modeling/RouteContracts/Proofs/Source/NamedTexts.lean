import Mathlib.Data.List.Forall2
import RouteContracts.Proofs.Source.Scanning

/-! # Texts with names in them
A generated text consists of fixed parts and of names. What is read of it depends on the names alone: if all of them
are words the text is read to its end, and at the first one that is none nothing goes on.

* `Steps.fixed`: a fixed part is read by computation. `Scannable`: a name that is read whole or not at all.
* `Reading ns p Q`: from `p` on the names `ns` come, and a place with `Q` behind them. `Reading.bind`: **readings
  compose.**
* `Yields ns x T`: a text with the names `ns` is read as trees with `T`. `Yields.append`, `Yields.flatMap`:
  **texts one after another.**
* `ReadAs x ts`: a text is read as `ts` where no word goes on behind it. -/

namespace RouteContracts.Source.Lexer

/-! ## Reading names -/

variable {around : List (Delimiter × List Tree)} {here : List Tree} {s : List Char}

/-- `Steps` over `x` where `scan` goes over it in `k` steps, whatever comes behind. -/
theorem Steps.fixed {x : List Char} {around' : List (Delimiter × List Tree)} {here' : List Tree} (k : Nat)
    (hk : k ≤ x.length) (h : ∀ fuel, scan (fuel + k) around here (x ++ s) = scan fuel around' here' s) :
    Steps ⟨around, here, x ++ s⟩ ⟨around', here', s⟩ := by
  refine ⟨k, ?_, h⟩
  show k + s.length ≤ (x ++ s).length
  rw [List.length_append]
  omega

/-- A name that is read whole or not at all: it `isWord` or else `IsNameLike`. -/
def Scannable (n : String) : Prop := isWord n = false → IsNameLike n

/-- What is read from a place in a text with the names `ns`: if all of them are words, the text is read up to a place
for which `Q` holds, and else it is not read at all. -/
structure Reading (ns : List String) (p : Place) (Q : Place → Prop) : Prop where
  steps : (∀ n ∈ ns, isWord n = true) → ∃ q, Q q ∧ Steps p q
  stuck : (∃ n ∈ ns, isWord n = false) → Stuck p

namespace Reading

variable {ns ms : List String} {p q : Place} {Q R : Place → Prop}

theorem of_steps (h : Steps p q) (hq : Q q) : Reading [] p Q :=
  ⟨fun _ => ⟨q, hq, h⟩, fun ⟨_, hn, _⟩ => absurd hn List.not_mem_nil⟩

/-- `Reading` composes. -/
theorem bind (h : Reading ns p Q) (h' : ∀ q, Q q → Reading ms q R) : Reading (ns ++ ms) p R := by
  constructor
  · intro hall
    rw [List.forall_mem_append] at hall
    obtain ⟨q, hq, hsteps⟩ := h.steps hall.1
    obtain ⟨r, hr, hmore⟩ := (h' q hq).steps hall.2
    exact ⟨r, hr, hsteps.trans hmore⟩
  · rintro ⟨n, hn, hword⟩
    by_cases hall : ∀ n ∈ ns, isWord n = true
    · -- all names up to the place are words, so the other one comes behind it
      obtain ⟨q, hq, hsteps⟩ := h.steps hall
      rcases List.mem_append.mp hn with hn | hn
      · rw [hall n hn] at hword
        cases hword
      · exact hsteps.stuck ((h' q hq).stuck ⟨n, hn, hword⟩)
    · simp only [not_forall, Bool.not_eq_true] at hall
      obtain ⟨m, hm, hword⟩ := hall
      exact h.stuck ⟨m, hm, hword⟩

/-- `Reading` behind `Steps`. -/
theorem behind (hsteps : Steps p q) (h : Reading ns q Q) : Reading ns p Q := by
  have h := (of_steps (Q := (· = q)) hsteps rfl).bind fun r hr => hr ▸ h
  rwa [List.nil_append] at h

theorem mono (h : Reading ns p Q) (hQ : ∀ q, Q q → R q) : Reading ns p R :=
  ⟨fun hall => (h.steps hall).imp fun q hq => ⟨hQ q hq.1, hq.2⟩, h.stuck⟩

/-- `Reading` a name. -/
theorem name {n : String} (hn : Scannable n) (hs : EndsWord s)
    (h : Reading ms ⟨around, .word n :: here, s⟩ Q) : Reading (n :: ms) ⟨around, here, n.toList ++ s⟩ Q := by
  have hname : Reading [n] ⟨around, here, n.toList ++ s⟩ (· = ⟨around, .word n :: here, s⟩) := by
    constructor
    · exact fun hall => ⟨_, rfl, .word (hall n (List.mem_singleton.mpr rfl)) hs⟩
    · rintro ⟨m, hm, hword⟩
      rw [List.mem_singleton] at hm
      subst hm
      exact stuck_word (hn hword) hword
  exact hname.bind fun q hq => hq ▸ h

end Reading

/-! ## Readings wherever a text stands -/

/-- `Reading ns` over `x` wherever it stands, which adds some `ts` with `T ts` to the trees. -/
def Yields (ns : List String) (x : List Char) (T : List Tree → Prop) : Prop :=
  ∀ around here s, Reading ns ⟨around, here, x ++ s⟩ fun q => ∃ ts, T ts ∧ q = ⟨around, ts.reverse ++ here, s⟩

theorem Yields.append {ns ms : List String} {x y : List Char} {T U : List Tree → Prop} (h : Yields ns x T)
    (h' : Yields ms y U) : Yields (ns ++ ms) (x ++ y) fun ts => ∃ us vs, T us ∧ U vs ∧ ts = us ++ vs := by
  intro around here s
  rw [List.append_assoc]
  refine (h around here _).bind ?_
  rintro _ ⟨us, hus, rfl⟩
  refine (h' around _ s).mono ?_
  rintro _ ⟨vs, hvs, rfl⟩
  exact ⟨_, ⟨us, vs, hus, hvs, rfl⟩, by simp⟩

/-- `Yields` of `xs.flatMap code`, from `Yields` of each `code x`. -/
theorem Yields.flatMap {α : Type} {names : α → List String} {code : α → List Char} {T : α → List Tree → Prop}
    {xs : List α} (h : ∀ x ∈ xs, Yields (names x) (code x) (T x)) :
    Yields (xs.flatMap names) (xs.flatMap code) fun ts => ∃ tss, List.Forall₂ T xs tss ∧ ts = tss.flatten := by
  induction xs with
  | nil => exact fun around here s => .of_steps (.refl _) ⟨[], ⟨[], .nil, rfl⟩, rfl⟩
  | cons x xs ih =>
    intro around here s
    rw [List.flatMap_cons, List.flatMap_cons, List.append_assoc]
    refine (h x (List.mem_cons_self ..) around here _).bind ?_
    rintro _ ⟨ts, hts, rfl⟩
    refine (ih (fun y hy => h y (List.mem_cons_of_mem _ hy)) around _ s).mono ?_
    rintro _ ⟨_, ⟨tss, htss, rfl⟩, rfl⟩
    exact ⟨_, ⟨ts :: tss, .cons hts htss, rfl⟩, by simp⟩

/-- `Steps` over `x` wherever it stands in front of what `EndsWord`, which add `ts` to the trees. -/
def ReadAs (x : List Char) (ts : List Tree) : Prop :=
  ∀ around here s, EndsWord s → Steps ⟨around, here, x ++ s⟩ ⟨around, ts.reverse ++ here, s⟩

/-- No suffix of a literal stands where `EndsWord` holds. -/
theorem isIdentStart_of_endsWord (hs : EndsWord s) : ∀ c ∈ s.head?, Text.isIdentStart c = false := by
  intro c hc
  rw [← Bool.not_eq_true]
  intro hstart
  have hpart := (hs c hc).1
  rw [Text.isIdentPart_of_isIdentStart hstart] at hpart
  cases hpart

theorem ReadAs.quoted (t : String) : ReadAs (Text.quoted t).toList [.literal (Text.quoted t)] :=
  fun _ _ _ hs => .quoted t (isIdentStart_of_endsWord hs)

end RouteContracts.Source.Lexer
