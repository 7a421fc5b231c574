/-! # Debouncing
A debouncer turns bursts of changes into one flush per quiet period. Instants are supplied by the
caller, in milliseconds.

* `Debouncer.notify`: a change starts the quiet period anew.
* `Debouncer.poll`: true exactly once, when the quiet period is over.
* `Debouncer.takePending`: drops what is pending. -/

namespace RouteContracts

/-- A quiet period and what is pending. -/
structure Debouncer where
  /-- How long the quiet period lasts. -/
  window : Nat
  /-- When a pending flush is due. -/
  deadline : Option Int
deriving DecidableEq, Repr, Inhabited

namespace Debouncer

/-- A debouncer with nothing pending. -/
def new (window : Nat) : Debouncer := ⟨window, none⟩

/-- Whether nothing is pending. -/
def isIdle (d : Debouncer) : Bool := d.deadline.isNone

/-- Records a change: the deadline is `now + window`, whatever it was before. -/
def notify (d : Debouncer) (now : Int) : Debouncer := { d with deadline := some (now + d.window) }

/-- Tells whether the deadline is not after `now`, and drops it then. -/
def poll (d : Debouncer) (now : Int) : Bool × Debouncer :=
  match d.deadline with
  | some due => if due ≤ now then (true, { d with deadline := none }) else (false, d)
  | none => (false, d)

/-- Drops the deadline, and tells whether there was one. -/
def takePending (d : Debouncer) : Bool × Debouncer := (d.deadline.isSome, { d with deadline := none })

@[simp] theorem deadline_notify (d : Debouncer) (now : Int) :
    (d.notify now).deadline = some (now + d.window) := rfl

@[simp] theorem window_notify (d : Debouncer) (now : Int) : (d.notify now).window = d.window := rfl

@[simp] theorem isIdle_notify (d : Debouncer) (now : Int) : (d.notify now).isIdle = false := rfl

@[simp] theorem isIdle_takePending (d : Debouncer) : d.takePending.2.isIdle = true := rfl

theorem takePending_eq (d : Debouncer) : d.takePending.1 = !d.isIdle := by
  cases h : d.deadline <;> simp [takePending, isIdle, h]

/-- `(d.poll now).2 = d` where `poll` answers `false`. -/
theorem poll_of_not_due {d : Debouncer} {now : Int} (h : (d.poll now).1 = false) : (d.poll now).2 = d := by
  unfold poll at h ⊢
  cases hd : d.deadline with
  | none => rfl
  | some due =>
    rw [hd] at h
    dsimp only at h ⊢
    split at h
    · cases h
    · next hlater => rw [if_neg hlater]

end Debouncer

end RouteContracts
