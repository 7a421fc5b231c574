import RouteContracts.Proofs.Controller.Emission

/-! # Emissions that are missed
A look at the clock drops what is pending before it emits. When the emission fails, the registry stays as it is, but
nothing is pending any more, so that no later look at the clock emits until another change has an effect: the emission
is **missed**. As long as none is missed, a registry that was not emitted is pending.

* `Controller.tick_of_not_due`, `Controller.tick_of_due`: what a look at the clock does.
* `Controller.Attempted`: the states of a controller whose emissions may fail, with whether one is missed.
* `Controller.Accounted`: the invariant. Each kind of step keeps it.
* `Controller.pending_unless_missed`: **what was not emitted is pending, unless it was missed.** -/

namespace RouteContracts

namespace Debouncer

/-- `poll` is `true` only with a deadline that is past, which it drops. -/
theorem exists_of_poll {d : Debouncer} {now : Int} (h : (d.poll now).1 = true) :
    ∃ due, d.deadline = some due ∧ due ≤ now ∧ (d.poll now).2 = d.takePending.2 := by
  unfold poll at h ⊢
  cases hd : d.deadline with
  | none => rw [hd] at h; cases h
  | some due =>
    rw [hd] at h
    dsimp only at h ⊢
    split at h
    · next hdue => exact ⟨due, rfl, hdue, by rw [if_pos hdue]; rfl⟩
    · cases h

/-- With a deadline that is past, `poll` is `true`. -/
theorem poll_of_due {d : Debouncer} {due now : Int} (hd : d.deadline = some due) (hdue : due ≤ now) :
    (d.poll now).1 = true := by
  rw [poll, hd]
  dsimp only
  rw [if_pos hdue]

end Debouncer

namespace Controller

variable {ω ε : Type} {sink : Sink ω ε} {c : Controller} {now : Int}

/-! ## Looks at the clock -/

/-- The controller after `takePending`. -/
def dropPending (c : Controller) : Controller := { c with debouncer := c.debouncer.takePending.2 }

@[simp] theorem registry_dropPending (c : Controller) : c.dropPending.registry = c.registry := rfl

@[simp] theorem isIdle_dropPending (c : Controller) : c.dropPending.debouncer.isIdle = true := rfl

/-- When `poll` is `false`, `tick` does nothing. -/
theorem tick_of_not_due (h : (c.debouncer.poll now).1 = false) (sink : Sink ω ε) (w : ω) :
    c.tick sink now w = (.ok false, c, w) := by
  unfold tick
  dsimp only
  rw [h, Debouncer.poll_of_not_due h]
  rfl

/-- When `isIdle` holds, `tick` does nothing. -/
theorem tick_of_idle (h : c.debouncer.isIdle = true) (sink : Sink ω ε) (now : Int) (w : ω) :
    c.tick sink now w = (.ok false, c, w) := by
  refine tick_of_not_due ?_ sink w
  rw [Debouncer.poll, Option.isNone_iff_eq_none.mp h]

/-- **When `poll` is `true`, `tick` drops the deadline and emits**, however `sink.emit` ends. -/
theorem tick_of_due (h : (c.debouncer.poll now).1 = true) (sink : Sink ω ε) (w : ω) :
    c.tick sink now w =
      ((sink.emit c.registry w).1.map fun _ => true, c.dropPending, (sink.emit c.registry w).2) := by
  obtain ⟨-, -, -, hdropped⟩ := Debouncer.exists_of_poll h
  unfold tick
  dsimp only
  rw [h, hdropped]
  rfl

/-- **`tick` fails exactly as `sink.emit` does, when the deadline is past**; then the deadline is dropped, and nothing
else changes but the world. -/
theorem tick_of_error {w : ω} {e : ε} (h : (c.tick sink now w).1 = .error e) :
    (sink.emit c.registry w).1 = .error e ∧
      c.tick sink now w = (.error e, c.dropPending, (sink.emit c.registry w).2) := by
  cases hdue : (c.debouncer.poll now).1 with
  | false => rw [tick_of_not_due hdue] at h; cases h
  | true =>
    rw [tick_of_due hdue] at h ⊢
    cases hemit : (sink.emit c.registry w).1 with
    | ok _ => rw [hemit] at h; cases h
    | error e' =>
      rw [hemit] at h
      obtain rfl := Except.error.inj h
      exact ⟨rfl, rfl⟩

/-! ## Changes -/

/-- A `handleChange` without effect leaves the controller as it is. -/
theorem handleChange_of_unchanged {files : Files} {path : Path} (h : (c.handleChange files path now).1 = false) :
    (c.handleChange files path now).2 = c := by
  rcases cases_handleChange files path now c with hsame | ⟨id, -, -, hchanged⟩
  · rw [hsame]
  · rw [hchanged] at h
    cases h

/-- A `handleChange` with an effect notifies the debouncer. -/
theorem debouncer_of_changed {files : Files} {path : Path} (h : (c.handleChange files path now).1 = true) :
    (c.handleChange files path now).2.debouncer = c.debouncer.notify now := by
  rcases cases_handleChange files path now c with hsame | ⟨id, -, -, hchanged⟩
  · rw [hsame] at h
    cases h
  · rw [hchanged]

/-- A `handleChange` with an effect is pending: `isIdle` does not hold. -/
theorem not_idle_of_changed {files : Files} {path : Path} (h : (c.handleChange files path now).1 = true) :
    (c.handleChange files path now).2.debouncer.isIdle = false := by
  rw [debouncer_of_changed h, Debouncer.isIdle_notify]

/-- An `applyFinding` with an effect moves `generation` by one. -/
theorem generation_applyFinding {id : String} {path : Path} {r : Registry} {f : Finding}
    (h : (applyFinding id path r f).1 = true) : (applyFinding id path r f).2.generation = r.generation + 1 := by
  cases f with
  | unfit => cases h
  | gone =>
    simp only [applyFinding, Registry.removeSource] at h ⊢
    split at h
    · cases h
    · next hkept => rw [if_neg hkept]; rfl
  | analyzed a =>
    simp only [applyFinding, Registry.merge] at h ⊢
    cases hget : Routes.get? id r.routes with
    | none => rfl
    | some old =>
      rw [hget] at h
      dsimp only at h ⊢
      split at h
      · cases h
      · next hsame => rw [if_neg hsame]; rfl

/-- A `handleChange` with an effect moves `generation` by one. -/
theorem generation_of_changed {files : Files} {path : Path} (h : (c.handleChange files path now).1 = true) :
    (c.handleChange files path now).2.registry.generation = c.registry.generation + 1 := by
  rcases cases_handleChange files path now c with hsame | ⟨id, -, happlied, hchanged⟩
  · rw [hsame] at h
    cases h
  · rw [hchanged]
    exact generation_applyFinding happlied

/-! ## States in which emissions may have failed -/

/-- Whether an emission is missed after a `tick` with some result: yes after `.error`, no after `.ok true`, and as
before after `.ok false`. -/
def missedAfter (missed : Bool) : Except ε Bool → Bool
  | .error _ => true
  | .ok emitted => missed && !emitted

/-- **The states of a controller whose emissions may fail**, and the world around it, with the registry that was emitted
last. They begin with an `adopt` that is emitted. Then, in any order, there are `handleChange`s, `tick`s, and changes of
the world. An emission is missed when it failed and no change has had an effect since. -/
inductive Attempted (sink : Sink ω ε) : Bool → Controller → ω × Option Registry → Prop
  /-- A full scan, successfully emitted. -/
  | started {c c' : Controller} {w w' : ω × Option Registry} {outcomes : List Project.Outcome}
      (scanned : outcomes.Perm (c.project.outcomes (sink.files w.1)))
      (adopted : c.adopt sink.recording outcomes w = (.ok (), c', w')) : Attempted sink false c' w'
  /-- One change. -/
  | handled {missed : Bool} {c : Controller} {w : ω × Option Registry} (before : Attempted sink missed c w) (path : Path)
      (now : Int) : Attempted sink (missed && !(c.handleChange (sink.files w.1) path now).1)
        (c.handleChange (sink.files w.1) path now).2 w
  /-- One look at the clock. -/
  | ticked {missed : Bool} {c : Controller} {w : ω × Option Registry} (before : Attempted sink missed c w) (now : Int) :
      Attempted sink (missedAfter missed (c.tick sink.recording now w).1) (c.tick sink.recording now w).2.1
        (c.tick sink.recording now w).2.2
  /-- The world changes by itself. -/
  | passed {missed : Bool} {c : Controller} {w : ω × Option Registry} (before : Attempted sink missed c w)
      (change : ω → ω) : Attempted sink missed c (change w.1, w.2)

/-- **Where no emission is missed** the controller is `Settled`: something is pending, or the registry is the one that
was emitted last. **Where one is missed**, nothing is pending. -/
structure Accounted (missed : Bool) (c : Controller) (last : Option Registry) : Prop where
  settled : missed = false → c.Settled last
  idle : missed = true → c.debouncer.isIdle = true

variable {missed : Bool} {last : Option Registry} {w : ω × Option Registry}

/-- `handleChange` keeps `Accounted`. -/
theorem Accounted.handleChange (h : Accounted missed c last) (files : Files) (path : Path) (now : Int) :
    Accounted (missed && !(c.handleChange files path now).1) (c.handleChange files path now).2 last := by
  -- an effect makes the change pending, whether an emission was missed before or not
  cases hchanged : (c.handleChange files path now).1 with
  | false =>
    rw [handleChange_of_unchanged hchanged, Bool.not_false, Bool.and_true]
    exact h
  | true =>
    rw [Bool.not_true, Bool.and_false]
    refine ⟨fun _ hidle => ?_, fun hmissed => nomatch hmissed⟩
    exact nomatch (not_idle_of_changed hchanged).symm.trans hidle

/-- `tick` keeps `Accounted`, also when it fails. -/
theorem Accounted.tick (h : Accounted missed c w.2) (now : Int) :
    Accounted (missedAfter missed (c.tick sink.recording now w).1) (c.tick sink.recording now w).2.1
      (c.tick sink.recording now w).2.2.2 := by
  cases hdue : (c.debouncer.poll now).1 with
  | false =>
    rw [tick_of_not_due hdue, missedAfter, Bool.not_false, Bool.and_true]
    exact h
  | true =>
    rw [tick_of_due hdue]
    dsimp only
    -- nothing is pending now, which is right only if the registry was emitted
    cases hemit : (sink.recording.emit c.registry w).1 with
    | error e => exact ⟨fun hmissed => (nomatch hmissed), fun _ => rfl⟩
    | ok _ =>
      refine ⟨fun _ _ => Sink.noted_of_emit hemit, fun hmissed => ?_⟩
      rw [Except.map, missedAfter, Bool.not_true, Bool.and_false] at hmissed
      cases hmissed

/-- **Every state that is `Attempted` is `Accounted`.** -/
theorem Attempted.accounted (h : Attempted sink missed c w) : Accounted missed c w.2 := by
  induction h with
  | started scanned adopted =>
    have hsettled := Settled.of_adopt (congrArg Prod.fst adopted)
    rw [adopted] at hsettled
    exact ⟨fun _ => hsettled, fun hmissed => nomatch hmissed⟩
  | handled before path now ih => exact ih.handleChange _ path now
  | ticked before now ih => exact ih.tick now
  | passed before change ih => exact ih

/-- **What was not emitted is pending, unless it was missed.** When a `tick` fails, the registry and the note stay as
they are, but the deadline is dropped (`c.dropPending`), and every later `tick` does nothing. With a deadline, every
`tick` from it on attempts the emission. So where the registry is not the one that was emitted last, something is
pending exactly if `missed = false`: if no emission has failed since the last change that had an effect. -/
theorem pending_unless_missed (h : Attempted sink missed c w) :
    (∀ now e, (c.tick sink.recording now w).1 = .error e → ∃ after : ω × Option Registry,
      c.tick sink.recording now w = (.error e, c.dropPending, after) ∧ after.2 = w.2 ∧
      c.dropPending.registry = c.registry ∧ c.dropPending.debouncer.isIdle = true ∧
      ∀ later world, c.dropPending.tick sink.recording later world = (.ok false, c.dropPending, world)) ∧
    (c.debouncer.isIdle = false → ∃ due, c.debouncer.deadline = some due ∧
      ∀ now, due ≤ now → (c.tick sink.recording now w).1 = (sink.emit c.registry w.1).1.map fun _ => true) ∧
    (w.2 ≠ some c.registry → (c.debouncer.isIdle = false ↔ missed = false)) := by
  refine ⟨fun now e herror => ?_, fun hpending => ?_, fun hunemitted => ⟨fun hpending => ?_, fun hmissed => ?_⟩⟩
  · obtain ⟨hemit, htick⟩ := tick_of_error herror
    -- the recording sink notes a registry only when it was emitted
    refine ⟨_, htick, ?_, registry_dropPending c, isIdle_dropPending c,
      fun later world => tick_of_idle (isIdle_dropPending c) _ later world⟩
    rw [Sink.emit_recording] at hemit ⊢
    dsimp only at hemit ⊢
    rw [hemit]
    rfl
  · cases hdeadline : c.debouncer.deadline with
    | none => rw [Debouncer.isIdle, hdeadline] at hpending; cases hpending
    | some due =>
      refine ⟨due, rfl, fun now hdue => ?_⟩
      rw [tick_of_due (Debouncer.poll_of_due hdeadline hdue)]
      rfl
  · -- what was missed is pending no more
    rw [← Bool.not_eq_true]
    intro hmissed
    have hidle := h.accounted.idle hmissed
    rw [hpending] at hidle
    cases hidle
  · rw [← Bool.not_eq_true]
    exact fun hidle => hunemitted (h.accounted.settled hmissed hidle)

end Controller

/-! ## A deletion that is not written

After the first scan the only endpoint file is deleted. The change is handled, but nothing can be written when the flush
is due, 300 ms later. -/

namespace Session.Unwritten

open Displacement (project upper first bare opened noticed changed_noticed)

/-- A sink that fails while it is barred. -/
def sink : Sink (Files × Bool) Unit := ⟨Prod.fst, fun _ w => (if w.2 then .error () else .ok (), w)⟩

/-- What is around the controller when the flush is due: the file is gone, `sink` is barred, and the registry of the
first scan was emitted last. -/
def barred : (Files × Bool) × Option Registry := ((bare, true), some opened.controller.registry)

/-- The `adopt` of `opened` is emitted and noted. -/
theorem adopt_opened :
    (Controller.new project 300).adopt sink.recording (project.outcomes first) ((first, false), none) =
      (.ok (), opened.controller, ((first, false), some opened.controller.registry)) := rfl

theorem attempted_noticed : Controller.Attempted sink false noticed barred := by
  have hstarted : Controller.Attempted sink false opened.controller
      ((first, false), some opened.controller.registry) :=
    .started (w := ((first, false), none)) (List.Perm.refl _) adopt_opened
  exact (hstarted.passed fun _ => (bare, true)).handled upper 0

theorem debouncer_noticed : noticed.debouncer = opened.controller.debouncer.notify 0 := by
  have hproject : opened.controller.project = project := rfl
  have hid : project.routeId? bare upper = some "/" := by decide +kernel
  exact Controller.debouncer_handleChange hproject hid changed_noticed 0

/-- The `tick` at the deadline attempts the emission, fails, and drops the deadline. -/
theorem tick_noticed : noticed.tick sink.recording 300 barred = (.error (), noticed.dropPending, barred) := by
  have hdue : (noticed.debouncer.poll 300).1 = true := by rw [debouncer_noticed]; rfl
  rw [Controller.tick_of_due hdue]
  rfl

/-- The deletion of `upper` has an effect. -/
theorem changed_upper : (opened.controller.handleChange bare upper 0).1 = true := by
  by_contra h
  have hsame : noticed = opened.controller := Controller.handleChange_of_unchanged (Bool.eq_false_iff.mpr h)
  have hidle := congrArg (fun c : Controller => c.debouncer.isIdle) hsame
  rw [debouncer_noticed] at hidle
  cases hidle

/-- The registry of `noticed`, without the route, is not the one that was emitted last. -/
theorem unemitted_noticed : barred.2 ≠ some noticed.registry := by
  intro h
  have hgeneration : noticed.registry.generation = opened.controller.registry.generation + 1 :=
    Controller.generation_of_changed changed_upper
  rw [← Option.some.inj h] at hgeneration
  exact Nat.succ_ne_self _ hgeneration.symm

/-- The deletion is pending as long as nothing is missed; the `tick` that fails drops it, and a later one does nothing,
although the registry was not emitted. -/
theorem pending_unless_missed_noticed :
    Controller.Attempted sink false noticed barred ∧ noticed.debouncer.isIdle = false ∧
      (noticed.tick sink.recording 300 barred).1 = .error () ∧
      noticed.dropPending.tick sink.recording 600 ((bare, false), barred.2) =
        (.ok false, noticed.dropPending, ((bare, false), barred.2)) := by
  obtain ⟨hfailed, -, hpending⟩ := Controller.pending_unless_missed attempted_noticed
  have herror : (noticed.tick sink.recording 300 barred).1 = .error () := congrArg Prod.fst tick_noticed
  obtain ⟨_, -, -, -, -, hlater⟩ := hfailed 300 () herror
  exact ⟨attempted_noticed, (hpending unemitted_noticed).mpr rfl, herror, hlater 600 _⟩

/-- **A failed emission is forgotten**: `isIdle` holds after it, although the registry is not the one that was emitted
last. -/
theorem failed_emission_forgotten :
    Controller.Attempted sink false noticed barred ∧
      (noticed.tick sink.recording 300 barred).1 = .error () ∧
      Controller.Attempted sink true (noticed.tick sink.recording 300 barred).2.1
        (noticed.tick sink.recording 300 barred).2.2 ∧
      (noticed.tick sink.recording 300 barred).2.1.debouncer.isIdle = true ∧
      (noticed.tick sink.recording 300 barred).2.2.2 ≠ some (noticed.tick sink.recording 300 barred).2.1.registry := by
  have hafter := attempted_noticed.ticked 300
  rw [tick_noticed] at hafter ⊢
  exact ⟨attempted_noticed, rfl, hafter, rfl, unemitted_noticed⟩

end Session.Unwritten

end RouteContracts
