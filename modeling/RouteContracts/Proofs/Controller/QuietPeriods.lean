import RouteContracts.Proofs.Controller.Effects

/-! # Quiet periods
What is pending is told by the history alone: the latest change, as long as nothing was flushed since. It is due when
the quiet period after it is over. So a controller emits exactly then, and a burst of changes is emitted once, when it
is over.

* `Mark`, `Mark.Waiting`: **the latest change that waits to be flushed**, by what was noted of each step.
* `Debouncer.Tracks`: the invariant. `Debouncer.poll_iff_waiting`: **a poll is true exactly when that change is old
  enough.**
* `Controller.history`, `Controller.emissions`: what is noted of events, and the registries that are emitted.
* `Controller.emissions_of_burst`: **of a burst at most one registry is emitted, the last one.**
* `Controller.quiet_periods`: the three of them. -/

namespace RouteContracts

/-! ## Histories -/

/-- What is noted of a step. -/
inductive Mark where
  /-- A change at an instant. -/
  | change (now : Int)
  /-- What was pending is flushed, or dropped. -/
  | flush
  /-- Neither. -/
  | nothing
deriving DecidableEq, Repr

namespace Mark

/-- **The change at the instant `now` waits**: `.change now` was noted, and only `.nothing` after it. -/
def Waiting (history : List Mark) (now : Int) : Prop :=
  ∃ front back, history = front ++ .change now :: back ∧ ∀ m ∈ back, m = .nothing

/-- The instant of a `.change`. -/
def change? : Mark → Option Int
  | .change now => some now
  | _ => none

/-- The instants of the changes in `history`. -/
def changes (history : List Mark) : List Int := history.filterMap change?

variable {history : List Mark} {now : Int}

/-- Nothing is `Waiting` at first. -/
theorem not_waiting_nil : ¬Waiting [] now := by
  rintro ⟨front, back, hsplit, -⟩
  simp at hsplit

/-- Behind `history ++ [m]`, `now` is `Waiting` if `m = .change now`, or if `m = .nothing` and it was `Waiting`
before. -/
theorem waiting_concat {m : Mark} : Waiting (history ++ [m]) now ↔
    m = .change now ∨ m = .nothing ∧ Waiting history now := by
  constructor
  · rintro ⟨front, back, hsplit, hback⟩
    -- the change is noted last, or something is noted behind it
    rcases List.eq_nil_or_concat back with rfl | ⟨back, m', rfl⟩
    · left
      exact List.singleton_inj.mp (List.append_inj_right' hsplit rfl)
    · right
      rw [List.concat_eq_append] at hsplit hback
      rw [← List.cons_append, ← List.append_assoc] at hsplit
      obtain ⟨hhistory, hm⟩ := List.append_inj' hsplit rfl
      obtain ⟨hback, hlast⟩ := List.forall_mem_append.mp hback
      refine ⟨?_, front, back, hhistory, hback⟩
      rw [List.singleton_inj.mp hm]
      exact hlast m' (List.mem_singleton_self m')
  · rintro (rfl | ⟨rfl, front, back, rfl, hback⟩)
    · exact ⟨history, [], rfl, by simp⟩
    · refine ⟨front, back ++ [.nothing], by simp, List.forall_mem_append.mpr ⟨hback, ?_⟩⟩
      exact List.forall_mem_singleton.mpr rfl

end Mark

open Mark (Waiting changes)

/-! ## The debouncer -/

namespace Debouncer

/-- A call of a debouncer. -/
inductive Call where
  /-- A change is recorded. -/
  | notify (now : Int)
  /-- It is asked whether a flush is due. -/
  | poll (now : Int)
  /-- What is pending is dropped. -/
  | takePending

/-- `d.call c`: what is noted of `c`, and the debouncer after it. -/
def call (d : Debouncer) : Call → Mark × Debouncer
  | .notify now => (.change now, d.notify now)
  | .poll now => (if (d.poll now).1 then .flush else .nothing, (d.poll now).2)
  | .takePending => (.flush, d.takePending.2)

/-- `d.calls cs`: what is noted of `cs`, one after the other, and the debouncer after them. -/
def calls (d : Debouncer) : List Call → List Mark × Debouncer
  | [] => ([], d)
  | c :: rest => ((d.call c).1 :: (calls (d.call c).2 rest).1, (calls (d.call c).2 rest).2)

/-- **The state of a debouncer follows from what was noted**: it has the deadline `now + window` exactly while `now` is
`Waiting`. -/
structure Tracks (window : Nat) (history : List Mark) (d : Debouncer) : Prop where
  /-- The quiet period is always as long. -/
  window_eq : d.window = window
  /-- What is pending, and when it is due. -/
  deadline_iff : ∀ due, d.deadline = some due ↔ ∃ now, Waiting history now ∧ due = now + window

namespace Tracks

variable {d : Debouncer} {window : Nat} {history : List Mark}

/-- A debouncer that `isIdle` `Tracks` the empty history. -/
theorem of_idle (h : d.isIdle = true) : Tracks d.window [] d := by
  refine ⟨rfl, fun due => ?_⟩
  rw [Option.isNone_iff_eq_none.mp h]
  constructor
  · intro hsome
    cases hsome
  · rintro ⟨now, hwaiting, -⟩
    exact absurd hwaiting Mark.not_waiting_nil

/-- **`d.poll t` is `true` exactly when a change is `Waiting` since `now` with `now + window ≤ t`.** -/
theorem poll_iff (h : Tracks window history d) (t : Int) :
    (d.poll t).1 = true ↔ ∃ now, Waiting history now ∧ now + window ≤ t := by
  constructor
  · intro hpoll
    obtain ⟨due, hdeadline, hdue, -⟩ := exists_of_poll hpoll
    obtain ⟨now, hwaiting, rfl⟩ := (h.deadline_iff due).mp hdeadline
    exact ⟨now, hwaiting, hdue⟩
  · rintro ⟨now, hwaiting, hdue⟩
    exact poll_of_due ((h.deadline_iff _).mpr ⟨now, hwaiting, rfl⟩) hdue

theorem nothing (h : Tracks window history d) : Tracks window (history ++ [.nothing]) d := by
  refine ⟨h.window_eq, fun due => ?_⟩
  simp [h.deadline_iff due, Mark.waiting_concat]

theorem notify (h : Tracks window history d) (now : Int) :
    Tracks window (history ++ [.change now]) (d.notify now) := by
  refine ⟨h.window_eq, fun due => ?_⟩
  simp only [deadline_notify, h.window_eq, Mark.waiting_concat, Mark.change.injEq, Option.some.injEq,
    reduceCtorEq, false_and, or_false, exists_eq_left']
  exact eq_comm

/-- `takePending` leaves nothing `Waiting`. -/
theorem takePending (h : Tracks window history d) : Tracks window (history ++ [.flush]) d.takePending.2 := by
  refine ⟨h.window_eq, fun due => ?_⟩
  simp [Debouncer.takePending, Mark.waiting_concat]

/-- **`poll` keeps `Tracks`**, also when it drops the deadline. -/
theorem poll (h : Tracks window history d) (t : Int) :
    Tracks window (history ++ [if (d.poll t).1 then .flush else .nothing]) (d.poll t).2 := by
  cases hpoll : (d.poll t).1 with
  | false =>
    rw [poll_of_not_due hpoll, if_neg Bool.false_ne_true]
    exact h.nothing
  | true =>
    obtain ⟨-, -, -, hdropped⟩ := exists_of_poll hpoll
    rw [hdropped, if_pos rfl]
    exact h.takePending

/-- **A `Call` keeps `Tracks`.** -/
theorem call (h : Tracks window history d) (c : Call) : Tracks window (history ++ [(d.call c).1]) (d.call c).2 := by
  cases c with
  | notify now => exact h.notify now
  | poll t => exact h.poll t
  | takePending => exact h.takePending

/-- **`Call`s keep `Tracks`**, by induction on the list. -/
theorem calls (h : Tracks window history d) (cs : List Call) :
    Tracks window (history ++ (d.calls cs).1) (d.calls cs).2 := by
  induction cs generalizing d history with
  | nil => simpa [Debouncer.calls] using h
  | cons c rest ih =>
    have hrest := ih (h.call c)
    rwa [List.append_assoc, List.singleton_append] at hrest

end Tracks

/-- **After any `Call`s of `new window`, `poll t` is `true` exactly when a change is `Waiting` since `now` with `now +
window ≤ t`.** -/
theorem poll_iff_waiting (window : Nat) (cs : List Call) (t : Int) :
    (((new window).calls cs).2.poll t).1 = true ↔
      ∃ now, Waiting ((new window).calls cs).1 now ∧ now + window ≤ t := by
  have hnew : Tracks window [] (new window) := .of_idle (d := new window) rfl
  exact (hnew.calls cs).poll_iff t

end Debouncer

/-! ## Events -/

namespace Controller

variable {ω ε : Type} {sink : Sink ω ε} {w : ω} {c : Controller}

/-- What is noted of an event: `.change` when `handleChange` has an effect, and `.flush` when `tick` emits. -/
def mark (sink : Sink ω ε) (w : ω) (c : Controller) : Event ω → Mark
  | .changed path now => if (c.handleChange (sink.files w) path now).1 then .change now else .nothing
  | .woken now => match (c.tick sink now w).1 with
    | .ok true => .flush
    | _ => .nothing
  | .passed _ => .nothing

/-- What is noted of events, one after the other. -/
def history (sink : Sink ω ε) : List (Event ω) → ω → Controller → List Mark
  | [], _, _ => []
  | event :: rest, w, c =>
    c.mark sink w event :: history sink rest (c.step sink event w).2.2 (c.step sink event w).2.1

/-- The registries that `tick`s emit. -/
def emissions (sink : Sink ω ε) : List (Event ω) → ω → Controller → List Registry
  | [], _, _ => []
  | event :: rest, w, c =>
    (if c.mark sink w event = .flush then [c.registry] else []) ++
      emissions sink rest (c.step sink event w).2.2 (c.step sink event w).2.1

/-- The instant of an event. -/
def Event.time? : Event ω → Option Int
  | .changed _ now => some now
  | .woken now => some now
  | .passed _ => none

/-- The instants of events. -/
def times (events : List (Event ω)) : List Int := events.filterMap Event.time?

/-! ### Steps -/

/-- **`tick` with a sink that `NeverFails`**: it answers what `poll` does, and emits when that is `true`. -/
theorem tick_ok (hsink : sink.NeverFails) (c : Controller) (now : Int) (w : ω) :
    c.tick sink now w = (.ok (c.debouncer.poll now).1, { c with debouncer := (c.debouncer.poll now).2 },
      if (c.debouncer.poll now).1 then (sink.emit c.registry w).2 else w) := by
  unfold tick
  dsimp only
  split
  · next hdue => rw [hsink, hdue]; rfl
  · next hdue => rw [Bool.eq_false_iff.mpr hdue]

theorem steps_cons (hsink : sink.NeverFails) (event : Event ω) (rest : List (Event ω)) (w : ω) (c : Controller) :
    c.steps sink (event :: rest) w =
      (c.step sink event w).2.1.steps sink rest (c.step sink event w).2.2 := by
  rw [steps, show c.step sink event w = (.ok (), (c.step sink event w).2) from
    Prod.ext (step_ok hsink event w c) rfl]

theorem mark_woken (hsink : sink.NeverFails) (now : Int) :
    c.mark sink w (.woken now) = if (c.debouncer.poll now).1 then .flush else .nothing := by
  rw [mark, tick_ok hsink]
  cases (c.debouncer.poll now).1 <;> rfl

/-- **`step` keeps `Tracks`**, with `c.mark` for what is noted. -/
theorem tracks_step (hsink : sink.NeverFails) {window : Nat} {history : List Mark}
    (h : c.debouncer.Tracks window history) (event : Event ω) :
    (c.step sink event w).2.1.debouncer.Tracks window (history ++ [c.mark sink w event]) := by
  cases event with
  | passed change => exact h.nothing
  | woken now =>
    rw [mark_woken hsink, step, tick_ok hsink]
    exact h.poll now
  | changed path now =>
    show (c.handleChange (sink.files w) path now).2.debouncer.Tracks window _
    cases hchanged : (c.handleChange (sink.files w) path now).1 with
    | false =>
      rw [handleChange_of_unchanged hchanged, mark, hchanged]
      exact h.nothing
    | true =>
      rw [debouncer_of_changed hchanged, mark, hchanged]
      exact h.notify now

/-- **`steps` keep `Tracks`**, with `c.history` for what is noted. -/
theorem exists_steps_tracks (hsink : sink.NeverFails) {window : Nat} (events : List (Event ω)) {before : List Mark}
    (h : c.debouncer.Tracks window before) : ∃ c' w', c.steps sink events w = (.ok (), c', w') ∧
      c'.debouncer.Tracks window (before ++ c.history sink events w) := by
  induction events generalizing c w before with
  | nil => exact ⟨c, w, rfl, (List.append_nil before).symm ▸ h⟩
  | cons event rest ih =>
    obtain ⟨c', w', hrest, htracks⟩ := ih (w := (c.step sink event w).2.2) (tracks_step hsink h event)
    rw [List.append_assoc, List.singleton_append] at htracks
    exact ⟨c', w', (steps_cons hsink event rest w c).trans hrest, htracks⟩

/-! ### Bursts -/

/-- Each `.change` of `history` comes within `window` of the one before, the first one within `window` of `last`. -/
def Dense (window : Nat) (last : Int) (history : List Mark) : Prop :=
  (last :: changes history).IsChain fun a b : Int => b < a + window

theorem dense_change {window : Nat} {last now : Int} {history : List Mark} :
    Dense window last (.change now :: history) ↔ now < last + window ∧ Dense window now history :=
  List.isChain_cons_cons

theorem dense_cons {window : Nat} {last : Int} {m : Mark} {history : List Mark} (hm : m.change? = none) :
    Dense window last (m :: history) ↔ Dense window last history := by
  rw [Dense, changes, List.filterMap_cons_none hm]
  exact Iff.rfl

/-- An event with the mark `.nothing` leaves the controller as it is. -/
theorem step_of_nothing (hsink : sink.NeverFails) {event : Event ω} (h : c.mark sink w event = .nothing) :
    (c.step sink event w).2.1 = c := by
  cases event with
  | passed change => rfl
  | changed path now =>
    refine handleChange_of_unchanged (Bool.eq_false_iff.mpr fun hchanged => ?_)
    rw [mark, if_pos hchanged] at h
    cases h
  | woken now =>
    have hdue : (c.debouncer.poll now).1 = false := by
      refine Bool.eq_false_iff.mpr fun hdue => ?_
      rw [mark_woken hsink, if_pos hdue] at h
      cases h
    rw [step, tick_of_not_due hdue]

/-- The mark `.flush` is only that of `.woken now`, at or after the deadline; then nothing is pending. -/
theorem exists_of_flush (hsink : sink.NeverFails) {event : Event ω} (h : c.mark sink w event = .flush) :
    ∃ now due, event = .woken now ∧ c.debouncer.deadline = some due ∧ due ≤ now ∧
      (c.step sink event w).2.1 = c.dropPending := by
  cases event with
  | passed change => cases h
  | changed path now =>
    rw [mark] at h
    split at h <;> cases h
  | woken now =>
    rw [mark_woken hsink] at h
    split at h
    · next hpoll =>
      obtain ⟨due, hdeadline, hdue, -⟩ := Debouncer.exists_of_poll hpoll
      exact ⟨now, due, rfl, hdeadline, hdue, by rw [step, tick_of_due hpoll]⟩
    · cases h

/-- The mark `.change now` is only that of a change at `now` that has an effect; then the debouncer is notified. -/
theorem exists_of_change (hsink : sink.NeverFails) {event : Event ω} {now : Int}
    (h : c.mark sink w event = .change now) :
    event.time? = some now ∧ (c.step sink event w).2.1.debouncer = c.debouncer.notify now := by
  cases event with
  | passed change => cases h
  | woken t =>
    rw [mark_woken hsink] at h
    split at h <;> cases h
  | changed path t =>
    rw [mark] at h
    split at h
    · next hchanged =>
      obtain rfl := Mark.change.inj h
      exact ⟨rfl, debouncer_of_changed hchanged⟩
    · cases h

theorem mem_times_cons {event : Event ω} {rest : List (Event ω)} {t : Int} :
    t ∈ times (event :: rest) ↔ event.time? = some t ∨ t ∈ times rest := by
  simp [times]

/-- **After a burst, nothing is emitted**: when nothing is pending and the window is over, a `Dense` history has no
further change. -/
theorem emissions_after (hsink : sink.NeverFails) {window : Nat} {last : Int} (events : List (Event ω))
    (hidle : c.debouncer.isIdle = true) (hlate : ∀ now ∈ times events, last + window ≤ now)
    (hdense : Dense window last (c.history sink events w)) :
    c.emissions sink events w = [] ∧ (c.steps sink events w).2.1 = c := by
  -- only what is outside the controller changes from event to event
  induction events generalizing w with
  | nil => exact ⟨rfl, rfl⟩
  | cons event rest ih =>
    have hrest : ∀ now ∈ times rest, last + window ≤ now := fun now hnow =>
      hlate now (mem_times_cons.mpr (.inr hnow))
    rw [history] at hdense
    rw [emissions, steps_cons hsink]
    cases hmark : c.mark sink w event with
    | nothing =>
      rw [hmark, dense_cons rfl, step_of_nothing hsink hmark] at hdense
      rw [step_of_nothing hsink hmark]
      exact ih hrest hdense
    | flush =>
      -- nothing is pending that could be flushed
      obtain ⟨now, due, -, hdeadline, -⟩ := exists_of_flush hsink hmark
      rw [Option.isNone_iff_eq_none.mp hidle] at hdeadline
      cases hdeadline
    | change now =>
      -- a change comes too late for the burst
      rw [hmark, dense_change] at hdense
      have htime := hlate now (mem_times_cons.mpr (.inl (exists_of_change hsink hmark).1))
      omega

/-- **While a burst is pending**, the rest of it is emitted at most once, with the last registry. -/
theorem emissions_pending (hsink : sink.NeverFails) {window : Nat} {last : Int} (events : List (Event ω))
    (hwindow : c.debouncer.window = window) (hdeadline : c.debouncer.deadline = some (last + window))
    (hsorted : (times events).Pairwise (· ≤ ·)) (hdense : Dense window last (c.history sink events w)) :
    c.emissions sink events w = [] ∨ c.emissions sink events w = [(c.steps sink events w).2.1.registry] := by
  -- until the flush the deadline is a quiet period after the latest change of the burst, and each change moves both
  induction events generalizing w c last with
  | nil => exact .inl rfl
  | cons event rest ih =>
    rw [history] at hdense
    rw [emissions, steps_cons hsink]
    have hsortedRest : (times rest).Pairwise (· ≤ ·) :=
      hsorted.sublist ((List.sublist_cons_self event rest).filterMap _)
    cases hmark : c.mark sink w event with
    | nothing =>
      rw [hmark, dense_cons rfl, step_of_nothing hsink hmark] at hdense
      rw [step_of_nothing hsink hmark]
      exact ih hwindow hdeadline hsortedRest hdense
    | change now =>
      -- the quiet period starts anew
      rw [hmark, dense_change] at hdense
      have hnotify := (exists_of_change hsink hmark).2
      refine ih ?_ ?_ hsortedRest hdense.2
      · rw [hnotify, Debouncer.window_notify, hwindow]
      · rw [hnotify, Debouncer.deadline_notify, hwindow]
    | flush =>
      -- the flush drops what is pending, and the quiet period is over for all that comes later
      obtain ⟨now, due, rfl, hdue, hnow, hstep⟩ := exists_of_flush hsink hmark
      obtain rfl := Option.some.inj (hdeadline.symm.trans hdue)
      rw [hmark, dense_cons rfl, hstep] at hdense
      rw [hstep, if_pos rfl]
      obtain ⟨hnone, hregistry⟩ := emissions_after hsink rest (isIdle_dropPending c)
        (fun later hlater => hnow.trans ((List.pairwise_cons.mp hsorted).1 later hlater)) hdense
      rw [hnone, hregistry]
      exact .inr rfl

/-- **A burst is emitted at most once, with its last registry**: when it begins with a change that has an effect, events
come in the order of time, and each change that has an effect comes within the window of the one before. -/
theorem emissions_of_burst (hsink : sink.NeverFails) {path : Path} {now : Int} {rest : List (Event ω)}
    (hchanged : (c.handleChange (sink.files w) path now).1 = true)
    (hsorted : (times (.changed path now :: rest : List (Event ω))).Pairwise (· ≤ ·))
    (hspaced : (changes (c.history sink (.changed path now :: rest) w)).IsChain
      fun a b : Int => b < a + c.debouncer.window) :
    c.emissions sink (.changed path now :: rest) w = [] ∨
      c.emissions sink (.changed path now :: rest) w =
        [(c.steps sink (.changed path now :: rest) w).2.1.registry] := by
  have hmark : c.mark sink w (.changed path now) = .change now := if_pos hchanged
  have hnotify := (exists_of_change hsink hmark).2
  rw [history, hmark] at hspaced
  rw [emissions, steps_cons hsink, hmark, if_neg (by simp), List.nil_append]
  -- from here on a change is waiting, and every later one comes before it is due
  refine emissions_pending hsink rest ?_ ?_ (List.pairwise_cons.mp hsorted).2 hspaced
  · rw [hnotify, Debouncer.window_notify]
  · rw [hnotify, Debouncer.deadline_notify]

/-- **Quiet periods are exact.** After any `Call`s of a debouncer, `poll t` is `true` exactly when a change is `Waiting`
since `now`, so with no flush after it, and `now + window ≤ t`. Where the sink `NeverFails`, whatever happened to a
controller with nothing pending at first, `tick` emits, and emits the registry, exactly when a change with an effect is
`Waiting` in `c.history` and as old as the window. And a burst of changes, each within the window of the one before, is
emitted by at most one `tick`, with its last registry. -/
theorem quiet_periods :
    (∀ (window : Nat) (cs : List Debouncer.Call) (t : Int),
      (((Debouncer.new window).calls cs).2.poll t).1 = true ↔
        ∃ now, Waiting ((Debouncer.new window).calls cs).1 now ∧ now + window ≤ t) ∧
    ∀ (ω ε : Type) (sink : Sink ω ε), sink.NeverFails →
      (∀ (events : List (Event ω)) (w : ω) (c : Controller), c.debouncer.isIdle = true →
        ∃ c' w', c.steps sink events w = (.ok (), c', w') ∧
          ∀ t, ∃ emitted, (c'.tick sink t w').1 = .ok emitted ∧
            (emitted = true ↔ ∃ now, Waiting (c.history sink events w) now ∧ now ≤ t - c.debouncer.window) ∧
            (c'.tick sink t w').2.2 = if emitted then (sink.emit c'.registry w').2 else w') ∧
      ∀ (path : Path) (now : Int) (rest : List (Event ω)) (w : ω) (c : Controller),
        (c.handleChange (sink.files w) path now).1 = true →
        (times (.changed path now :: rest : List (Event ω))).Pairwise (· ≤ ·) →
        ((changes (c.history sink (.changed path now :: rest) w)).IsChain
          fun a b : Int => b < a + c.debouncer.window) →
        c.emissions sink (.changed path now :: rest) w = [] ∨
          c.emissions sink (.changed path now :: rest) w =
            [(c.steps sink (.changed path now :: rest) w).2.1.registry] := by
  refine ⟨Debouncer.poll_iff_waiting, fun ω ε sink hsink => ⟨fun events w c hidle => ?_, ?_⟩⟩
  · obtain ⟨c', w', hsteps, htracks⟩ := exists_steps_tracks (w := w) hsink events (.of_idle hidle)
    refine ⟨c', w', hsteps, fun t => ⟨(c'.debouncer.poll t).1, ?_, ?_, ?_⟩⟩
    · rw [tick_ok hsink]
    · rw [htracks.poll_iff t]
      exact exists_congr fun now => and_congr_right fun _ => ⟨fun h => by omega, fun h => by omega⟩
    · rw [tick_ok hsink]
  · intro path now rest w c hchanged hsorted hspaced
    exact emissions_of_burst hsink hchanged hsorted hspaced

end Controller

/-! ## A deletion that is flushed

After the first scan the only endpoint file is deleted. The change is handled at the instant 0, and the quiet period of
300 ms is over at the instant 300. -/

namespace Session.Displacement

/-- What is noted of the deletion of `upper`. -/
theorem history_deletion :
    opened.controller.history sink [.passed fun _ => bare, .changed upper 0] first = [.nothing, .change 0] := by
  have hchange : opened.controller.mark sink bare (.changed upper 0) = .change 0 := if_pos Unwritten.changed_upper
  simp only [Controller.history, Controller.step]
  rw [hchange]
  rfl

/-- The deletion is the only change. -/
theorem changes_deletion :
    Mark.changes (opened.controller.history sink [.changed upper 0, .woken 300] bare) = [0] := by
  have hchange : opened.controller.mark sink bare (.changed upper 0) = .change 0 := if_pos Unwritten.changed_upper
  rw [Controller.history, hchange, Controller.history, Controller.mark_woken neverFails]
  split <;> rfl

/-- `poll` is `true` 300 ms after the latest change. The `tick` at the instant 300 emits the deletion, and the burst
that is this one change is emitted at most once. -/
theorem quiet_periods_noticed :
    (((Debouncer.new 300).calls [.notify 0, .poll 299, .notify 200]).2.poll 500).1 = true ∧
      sink.NeverFails ∧ opened.controller.debouncer.isIdle = true ∧
      (∃ c' w', opened.controller.steps sink [.passed fun _ => bare, .changed upper 0] first = (.ok (), c', w') ∧
        (c'.tick sink 300 w').1 = .ok true) ∧
      (opened.controller.handleChange bare upper 0).1 = true ∧
      (opened.controller.emissions sink [.changed upper 0, .woken 300] bare = [] ∨
        opened.controller.emissions sink [.changed upper 0, .woken 300] bare =
          [(opened.controller.steps sink [.changed upper 0, .woken 300] bare).2.1.registry]) := by
  obtain ⟨hpoll, hcontroller⟩ := Controller.quiet_periods
  obtain ⟨hticks, hbursts⟩ := hcontroller Files Unit sink neverFails
  have hnoted : ((Debouncer.new 300).calls [.notify 0, .poll 299, .notify 200]).1 =
      [.change 0, .nothing, .change 200] := rfl
  refine ⟨?_, neverFails, rfl, ?_, Unwritten.changed_upper, ?_⟩
  · rw [hpoll, hnoted]
    exact ⟨200, ⟨[.change 0, .nothing], [], rfl, by simp⟩, by decide⟩
  · obtain ⟨c', w', hsteps, htick⟩ :=
      hticks [.passed fun _ => bare, .changed upper 0] first opened.controller rfl
    obtain ⟨emitted, hemitted, hwhen, -⟩ := htick 300
    rw [history_deletion] at hwhen
    obtain rfl := hwhen.mpr ⟨0, ⟨[.nothing], [], rfl, by simp⟩, by decide⟩
    exact ⟨c', w', hsteps, hemitted⟩
  · refine hbursts upper 0 [.woken 300] bare opened.controller Unwritten.changed_upper (by decide) ?_
    rw [changes_deletion]
    exact .singleton 0

end Session.Displacement

end RouteContracts
