import RouteContracts.Proofs.Controller.Rescan

/-! # What has been emitted
No change of the registry is lost on the way to the artifact: a controller either has something pending, or
its registry is the one that was emitted last. Every step keeps this, except for an emission that fails.

* `Sink.recording`: a sink that notes what it took last. `Controller.Reached`: **the states of a controller**
  after a full scan, while files come and go around it.
* `Controller.Settled`: the invariant. Each kind of step keeps it.
* `Controller.emitted_of_idle`: **with nothing pending, the registry is the one that was emitted last**; and
  a stream of events that ends well leaves it so, whatever failed before. -/

namespace RouteContracts

section Emission

variable {ω ε : Type}

namespace Sink

/-- `sink` together with the registry that it took last: `emit` notes it beside the world. -/
def recording (sink : Sink ω ε) : Sink (ω × Option Registry) ε where
  files w := sink.files w.1
  emit r w :=
    let (result, after) := sink.emit r w.1
    (result, after, if result.isOk then some r else w.2)

/-- `sink.emit` is `.ok ()` for every registry and every world. -/
def NeverFails (sink : Sink ω ε) : Prop := ∀ r w, (sink.emit r w).1 = .ok ()

variable {sink : Sink ω ε} {r : Registry}

@[simp] theorem files_recording (sink : Sink ω ε) (w : ω × Option Registry) :
    sink.recording.files w = sink.files w.1 := rfl

theorem emit_recording (sink : Sink ω ε) (r : Registry) (w : ω × Option Registry) :
    sink.recording.emit r w =
      ((sink.emit r w.1).1, (sink.emit r w.1).2, if (sink.emit r w.1).1.isOk then some r else w.2) := rfl

/-- What `sink.recording` emits successfully is noted: the note is `some r`. -/
theorem noted_of_emit {w : ω × Option Registry} (h : (sink.recording.emit r w).1 = .ok ()) :
    (sink.recording.emit r w).2.2 = some r := by
  rw [emit_recording] at h ⊢
  dsimp only at h ⊢
  rw [h]
  rfl

theorem NeverFails.recording (h : sink.NeverFails) : sink.recording.NeverFails := fun r w => h r w.1

end Sink

namespace Controller

/-! ## The states of a controller -/

/-- An event of `sink` as one of `sink.recording`, which leaves the note as it is. -/
def Event.noting : Event ω → Event (ω × Option Registry)
  | .changed path now => .changed path now
  | .woken now => .woken now
  | .passed change => .passed fun w => (change w.1, w.2)

/-- **The states of a controller** and the world around it, with the registry that was emitted last. They begin with an
`adopt` that is emitted. Then, in any order, there are further `adopt`s of outcomes in any order, `handleChange`s,
`tick`s, and changes of the world. -/
inductive Reached (sink : Sink ω ε) : Controller → ω × Option Registry → Prop
  /-- A full scan, successfully emitted. -/
  | started {c c' : Controller} {w w' : ω × Option Registry} {outcomes : List Project.Outcome}
      (scanned : outcomes.Perm (c.project.outcomes (sink.files w.1)))
      (adopted : c.adopt sink.recording outcomes w = (.ok (), c', w')) : Reached sink c' w'
  /-- A further full scan. -/
  | rescanned {c : Controller} {w : ω × Option Registry} (before : Reached sink c w)
      {outcomes : List Project.Outcome} (scanned : outcomes.Perm (c.project.outcomes (sink.files w.1))) :
      Reached sink (c.adopt sink.recording outcomes w).2.1 (c.adopt sink.recording outcomes w).2.2
  /-- One change. -/
  | handled {c : Controller} {w : ω × Option Registry} (before : Reached sink c w) (path : Path) (now : Int) :
      Reached sink (c.handleChange (sink.files w.1) path now).2 w
  /-- One look at the clock. -/
  | ticked {c : Controller} {w : ω × Option Registry} (before : Reached sink c w) (now : Int) :
      Reached sink (c.tick sink.recording now w).2.1 (c.tick sink.recording now w).2.2
  /-- The world changes by itself. -/
  | passed {c : Controller} {w : ω × Option Registry} (before : Reached sink c w) (change : ω → ω) :
      Reached sink c (change w.1, w.2)

/-! ## The invariant -/

/-- **Something is pending, or the registry is the one that was emitted last**: `¬c.debouncer.isIdle`, or `last = some
c.registry`. -/
def Settled (c : Controller) (last : Option Registry) : Prop :=
  c.debouncer.isIdle = true → last = some c.registry

variable {sink : Sink ω ε} {c c' : Controller} {w w' : ω × Option Registry}

/-- Where `applyFinding` tells no effect, the registry is as it was. -/
theorem registry_of_not_changed {id : String} {path : Path} {r : Registry} {f : Finding}
    (h : (applyFinding id path r f).1 = false) : (applyFinding id path r f).2 = r := by
  cases f with
  | unfit => rfl
  | gone =>
    simp only [applyFinding, Registry.removeSource] at h ⊢
    split at h
    · next hkept => rw [if_pos hkept]
    · cases h
  | analyzed a =>
    simp only [applyFinding, Registry.merge] at h ⊢
    cases hget : Routes.get? id r.routes with
    | none =>
      rw [hget] at h
      cases h
    | some old =>
      rw [hget] at h
      dsimp only at h ⊢
      split at h
      · next hsame => rw [if_pos hsame]
      · cases h

/-- The result of `applyFinding` when `path`, whose `routeId?` is `id`, is handled. -/
def applied (files : Files) (path : Path) (id : String) (c : Controller) : Bool × Registry :=
  applyFinding id (c.project.absolute path) c.registry (finding files c.project (c.project.absolute path))

/-- Without a `routeId?`, `handleChange` leaves the controller as it is. -/
theorem handleChange_foreign {files : Files} {path : Path} (h : c.project.routeId? files path = none) (now : Int) :
    c.handleChange files path now = (false, c) := by
  rw [Controller.handleChange, h]

/-- **`handleChange` by `applied`**: where that tells an effect, the registry is the one it gives and the debouncer is
notified; else nothing changes. -/
theorem handleChange_eq {files : Files} {path : Path} {id : String} (hid : c.project.routeId? files path = some id)
    (now : Int) : c.handleChange files path now =
      if (applied files path id c).1 then
        (true, { c with registry := (applied files path id c).2, debouncer := c.debouncer.notify now })
      else (false, c) := by
  unfold Controller.handleChange
  rw [hid]
  dsimp only
  split
  · next hchanged => exact (if_pos hchanged).symm
  · next hchanged =>
    rw [registry_of_not_changed (Bool.eq_false_iff.mpr hchanged)]
    exact (if_neg hchanged).symm

/-- **`handleChange` has an effect and notifies the debouncer**, or it leaves the controller as it is. -/
theorem cases_handleChange (files : Files) (path : Path) (now : Int) (c : Controller) :
    c.handleChange files path now = (false, c) ∨
      ∃ id, c.project.routeId? files path = some id ∧ (applied files path id c).1 = true ∧
        c.handleChange files path now =
          (true, { c with registry := (applied files path id c).2, debouncer := c.debouncer.notify now }) := by
  cases hid : c.project.routeId? files path with
  | none => exact .inl (handleChange_foreign hid now)
  | some id =>
    rw [handleChange_eq hid]
    split
    · next hchanged => exact .inr ⟨id, rfl, hchanged, rfl⟩
    · exact .inl rfl

/-- After a `handleChange` with an effect the debouncer is `c.debouncer.notify now`. -/
theorem debouncer_handleChange {p : Project} (hp : c.project = p) {files : Files} {path : Path} {id : String}
    (hid : p.routeId? files path = some id)
    (hchanged : (applyFinding id (p.absolute path) c.registry (finding files p (p.absolute path))).1 = true)
    (now : Int) : (c.handleChange files path now).2.debouncer = c.debouncer.notify now := by
  subst hp
  rw [handleChange_eq hid, if_pos (show (applied files path id c).1 = true from hchanged)]

/-- **`handleChange` keeps `Settled`**: what has an effect is pending. -/
theorem Settled.handleChange {last : Option Registry} (h : c.Settled last) (files : Files) (path : Path)
    (now : Int) : (c.handleChange files path now).2.Settled last := by
  rcases cases_handleChange files path now c with hsame | ⟨id, -, -, hchanged⟩
  · rw [hsame]
    exact h
  · rw [hchanged]
    intro hidle
    cases hidle

/-- `adopt` with `sink.recording` is `adopt` with `sink`, and the note is the new registry, where the sink
`NeverFails`. -/
theorem adopt_recording (hsink : sink.NeverFails) (outcomes : List Project.Outcome) (w : ω)
    (last : Option Registry) (c : Controller) :
    c.adopt sink.recording outcomes (w, last) =
      (.ok (), (c.adopt sink outcomes w).2.1, (c.adopt sink outcomes w).2.2,
        some (c.adopt sink outcomes w).2.1.registry) := by
  have hemit := sink.emit_recording (c.registry.replaceAll (analysesOf outcomes)).2 (w, last)
  rw [hsink] at hemit
  have hresult := congrArg Prod.fst hemit
  have hafter := congrArg Prod.snd hemit
  exact Prod.ext hresult (Prod.ext rfl hafter)

/-- **An `adopt` that is emitted establishes `Settled`**, whatever was before. -/
theorem Settled.of_adopt {outcomes : List Project.Outcome}
    (h : (c.adopt sink.recording outcomes w).1 = .ok ()) :
    (c.adopt sink.recording outcomes w).2.1.Settled (c.adopt sink.recording outcomes w).2.2.2 :=
  fun _ => Sink.noted_of_emit h

/-- **A `tick` that ends well keeps `Settled`.** -/
theorem Settled.tick (h : c.Settled w.2) {now : Int} {due : Bool}
    (htick : (c.tick sink.recording now w).1 = .ok due) :
    (c.tick sink.recording now w).2.1.Settled (c.tick sink.recording now w).2.2.2 := by
  unfold Controller.tick at htick ⊢
  dsimp only at htick ⊢
  -- a due tick that succeeds has just emitted, and one that is not due leaves everything as it is
  split at htick
  · next hdue =>
    rw [if_pos hdue]
    intro _
    refine Sink.noted_of_emit ?_
    dsimp only at htick
    cases hemit : (sink.recording.emit c.registry w).1 with
    | ok _ => rfl
    | error e =>
      rw [hemit] at htick
      cases htick
  · next hdue =>
    rw [if_neg hdue]
    dsimp only
    rw [Debouncer.poll_of_not_due (Bool.eq_false_iff.mpr hdue)]
    exact h

/-- **A `step` that ends well keeps `Settled`.** -/
theorem Settled.step (h : c.Settled w.2) (event : Event ω)
    (hstep : (c.step sink.recording event.noting w).1 = .ok ()) :
    (c.step sink.recording event.noting w).2.1.Settled (c.step sink.recording event.noting w).2.2.2 := by
  cases event with
  | changed path now => exact h.handleChange _ path now
  | passed change => exact h
  | woken now =>
    simp only [Controller.step, Event.noting] at hstep ⊢
    cases htick : (c.tick sink.recording now w).1 with
    | ok due => exact h.tick htick
    | error e =>
      rw [htick] at hstep
      cases hstep

/-! ## States -/

/-- With a sink that `NeverFails` every `tick` ends well. -/
theorem exists_tick_ok (hsink : sink.NeverFails) (c : Controller) (now : Int) (w : ω) :
    ∃ due, (c.tick sink now w).1 = .ok due := by
  unfold Controller.tick
  dsimp only
  split
  · exact ⟨true, by dsimp only; rw [hsink]; rfl⟩
  · exact ⟨false, rfl⟩

/-- **Every `Reached` state is `Settled`**, where the sink `NeverFails`. -/
theorem Reached.settled (hsink : sink.NeverFails) (h : Reached sink c w) : c.Settled w.2 := by
  induction h with
  | started scanned adopted =>
    have hsettled := Settled.of_adopt (congrArg Prod.fst adopted)
    rwa [adopted] at hsettled
  | rescanned before scanned ih => exact .of_adopt (hsink.recording _ _)
  | handled before path now ih => exact ih.handleChange _ path now
  | ticked before now ih =>
    obtain ⟨due, htick⟩ := exists_tick_ok hsink.recording _ now _
    exact ih.tick htick
  | passed before change ih => exact ih

/-! ## Streams -/

/-- A `step` with `sink.recording` is one with `sink`, but for the note. -/
theorem step_recording (sink : Sink ω ε) (event : Event ω) (w : ω × Option Registry) (c : Controller) :
    ∃ last, c.step sink.recording event.noting w =
      ((c.step sink event w.1).1, (c.step sink event w.1).2.1, (c.step sink event w.1).2.2, last) := by
  cases event with
  | changed path now => exact ⟨w.2, rfl⟩
  | passed change => exact ⟨w.2, rfl⟩
  | woken now =>
    unfold Controller.step Event.noting Controller.tick
    dsimp only
    split
    · exact ⟨_, rfl⟩
    · exact ⟨w.2, rfl⟩

/-- **`steps` that end well keep `Settled`**, and recording does not disturb them. -/
theorem Settled.steps {events : List (Event ω)} {w : ω} {last : Option Registry} {c : Controller}
    (h : c.Settled last) {c' : Controller} {w' : ω} (hsteps : c.steps sink events w = (.ok (), c', w')) :
    ∃ last', c.steps sink.recording (events.map Event.noting) (w, last) = (.ok (), c', w', last') ∧
      c'.Settled last' := by
  induction events generalizing w last c with
  | nil =>
    obtain ⟨rfl, rfl⟩ := Prod.mk.inj (Prod.mk.inj hsteps).2
    exact ⟨last, rfl, h⟩
  | cons event rest ih =>
    obtain ⟨noted, hrecorded⟩ := step_recording sink event (w, last) c
    rw [Controller.steps] at hsteps
    rw [List.map_cons, Controller.steps, hrecorded]
    cases hresult : c.step sink event w with
    | mk result after =>
      rw [hresult] at hsteps hrecorded
      cases result with
      | error e => cases hsteps
      | ok _ =>
        have hnoted : (c.step sink.recording event.noting (w, last)).1 = .ok () := by rw [hrecorded]
        have hkept := Settled.step (w := (w, last)) h event hnoted
        rw [hrecorded] at hkept
        exact ih hkept hsteps

/-- `finish` emits what is pending; then the registry is the one that was emitted last. -/
theorem Settled.finish {w : ω} {last : Option Registry} {c : Controller} (h : c.Settled last)
    {c' : Controller} {w' : ω} (hfinish : c.finish sink w = (.ok (), c', w')) :
    c.finish sink.recording (w, last) = (.ok (), c', w', some c'.registry) := by
  unfold Controller.finish at hfinish ⊢
  dsimp only at hfinish ⊢
  rw [Debouncer.takePending_eq] at hfinish ⊢
  -- with nothing pending the last emission stands, else the one made here is the last
  cases hidle : c.debouncer.isIdle with
  | true =>
    rw [hidle] at hfinish
    obtain ⟨rfl, rfl⟩ := Prod.mk.inj (Prod.mk.inj hfinish).2
    rw [h hidle]
    rfl
  | false =>
    rw [hidle] at hfinish
    obtain ⟨hresult, hrest⟩ := Prod.mk.inj hfinish
    obtain ⟨rfl, rfl⟩ := Prod.mk.inj hrest
    simp only [Bool.not_false, if_true, Sink.emit_recording, hresult]
    rfl

/-- With a sink that `NeverFails` every `step` ends well. -/
theorem step_ok (hsink : sink.NeverFails) (event : Event ω) (w : ω) (c : Controller) :
    (c.step sink event w).1 = .ok () := by
  cases event with
  | changed path now => rfl
  | passed change => rfl
  | woken now =>
    obtain ⟨due, htick⟩ := exists_tick_ok hsink c now w
    simp only [Controller.step, htick]
    rfl

/-- With a sink that `NeverFails` every `run` ends well. -/
theorem exists_run_ok (hsink : sink.NeverFails) (events : List (Event ω)) (w : ω) (c : Controller) :
    ∃ c' w', c.run sink events w = (.ok (), c', w') := by
  induction events generalizing w c with
  | nil =>
    simp only [Controller.run, Controller.steps, Controller.finish]
    split
    · exact ⟨_, _, Prod.ext (hsink _ _) rfl⟩
    · exact ⟨_, _, rfl⟩
  | cons event rest ih =>
    obtain ⟨c', w', hrest⟩ := ih (c.step sink event w).2.2 (c.step sink event w).2.1
    refine ⟨c', w', ?_⟩
    rw [Controller.run, Controller.steps, show c.step sink event w =
      (.ok (), (c.step sink event w).2.1, (c.step sink event w).2.2) from
        Prod.ext (step_ok hsink event w c) rfl]
    exact hrest

/-- **Nothing is lost between the registry and what is emitted.** Where the sink `NeverFails`, a `Reached` state whose
debouncer `isIdle` has emitted its registry last: `w.2 = some c.registry`. And whatever fails, a `run` that begins with
something pending or with its registry emitted, and ends well, ends with its registry emitted. -/
theorem emitted_of_idle (sink : Sink ω ε) :
    (sink.NeverFails → ∀ (c : Controller) (w : ω × Option Registry), Reached sink c w →
      c.debouncer.isIdle = true → w.2 = some c.registry) ∧
    ∀ (events : List (Event ω)) (w w' : ω) (last : Option Registry) (c c' : Controller),
      c.debouncer.isIdle = false ∨ last = some c.registry → c.run sink events w = (.ok (), c', w') →
        c.run sink.recording (events.map Event.noting) (w, last) = (.ok (), c', w', some c'.registry) := by
  refine ⟨fun hsink c w h hidle => h.settled hsink hidle, fun events w w' last c c' hentry hrun => ?_⟩
  have hsettled : c.Settled last := fun hidle =>
    hentry.resolve_left fun hpending => Bool.false_ne_true (hpending.symm.trans hidle)
  unfold Controller.run at hrun ⊢
  cases hsteps : c.steps sink events w with
  | mk result rest =>
    obtain ⟨between, after⟩ := rest
    rw [hsteps] at hrun
    cases result with
    | error e => cases hrun
    | ok _ =>
      obtain ⟨noted, hrecorded, hkept⟩ := hsettled.steps hsteps
      rw [hrecorded]
      exact hkept.finish hrun

end Controller

end Emission

/-! ## An endpoint file that is deleted

After the first scan the only endpoint file is deleted. The change is handled, and the flush is due 300 ms
later. -/

namespace Session.Displacement

/-- The files and the registry that was emitted by the first scan. -/
def scanned : Files × Option Registry := (first, some opened.controller.registry)

/-- The controller after the deletion was handled on `bare`. -/
def noticed : Controller := (opened.controller.handleChange bare upper 0).2

/-- The `tick` at the deadline: its result, the controller after it, and the world with the note. -/
def flushed : Except Unit Bool × Controller × (Files × Option Registry) :=
  noticed.tick sink.recording 300 (bare, scanned.2)

/-- The deletion and the look at the clock as events of `run`. -/
def deletion : List (Controller.Event Files) := [.passed fun _ => bare, .changed upper 0, .woken 300]

theorem neverFails : sink.NeverFails := fun _ _ => rfl

/-- `opened` has a route whose source is `upper`. -/
theorem exists_route_opened : ∃ route ∈ opened.controller.registry.routes, route.source = upper := by
  obtain ⟨a, ha, -⟩ := exists_outcome_upper
  have hupper : upper ∈ project.discover first := discover_first ▸ List.mem_singleton_self upper
  have hroutes : opened.controller.registry.routes =
      Registry.routesOf (Controller.analysesOf (project.outcomes first)) := Registry.routes_replaceAll_empty _
  have hget := orderly_first.get?_scan (List.Perm.refl _) hupper ha
  exact ⟨_, hroutes ▸ Routes.mem_of_get? hget, Project.source_of_outcome ha⟩

/-- The `finding` of the deletion has an effect. -/
theorem changed_noticed :
    (Controller.applyFinding "/" (project.absolute upper) opened.controller.registry
      (Controller.finding bare project (project.absolute upper))).1 = true := by
  have hgone : Controller.finding bare project upper = .gone := by
    rw [Controller.finding, holds_upper_bare]
    rfl
  obtain ⟨route, hroute, hsource⟩ := exists_route_opened
  have hfewer : (opened.controller.registry.routes.filter fun route => !route.source.same upper).length <
      opened.controller.registry.routes.length :=
    List.length_filter_lt_length_iff_exists.mpr ⟨route, hroute, by simp [hsource, Path.same_iff]⟩
  rw [discoverable_upper.absolute anchored, hgone]
  simp only [Controller.applyFinding, Registry.removeSource]
  rw [if_neg hfewer.ne]

theorem isIdle_flushed : flushed.2.1.debouncer.isIdle = true := by
  have hproject : opened.controller.project = project := rfl
  have hid : project.routeId? bare upper = some "/" := by decide +kernel
  have hpending : noticed.debouncer = opened.controller.debouncer.notify 0 :=
    Controller.debouncer_handleChange hproject hid changed_noticed 0
  unfold flushed Controller.tick
  rw [hpending]
  rfl

/-- The scan of `opened` is emitted and noted. -/
theorem adopt_scanned :
    (Controller.new project 300).adopt sink.recording (project.outcomes first) (first, none) =
      (.ok (), opened.controller, scanned) :=
  Controller.adopt_recording neverFails _ _ _ _

theorem reached_flushed : Controller.Reached sink flushed.2.1 flushed.2.2 := by
  have hstarted : Controller.Reached sink opened.controller scanned :=
    .started (w := (first, none)) (List.Perm.refl _) adopt_scanned
  exact ((hstarted.passed fun _ => bare).handled upper 0).ticked 300

/-- After the flush of the deletion `isIdle` holds, and the note is the registry without the route. -/
theorem emitted_flushed :
    sink.NeverFails ∧ Controller.Reached sink flushed.2.1 flushed.2.2 ∧
      flushed.2.1.debouncer.isIdle = true ∧ flushed.2.2.2 = some flushed.2.1.registry ∧
      ∃ c' w', opened.controller.run sink deletion first = (.ok (), c', w') ∧
        opened.controller.run sink.recording (deletion.map Controller.Event.noting)
          (first, some opened.controller.registry) = (.ok (), c', w', some c'.registry) := by
  obtain ⟨c', w', hrun⟩ := Controller.exists_run_ok neverFails deletion first opened.controller
  refine ⟨neverFails, reached_flushed, isIdle_flushed, ?_, c', w', hrun, ?_⟩
  · exact (Controller.emitted_of_idle sink).1 neverFails _ _ reached_flushed isIdle_flushed
  · exact (Controller.emitted_of_idle sink).2 deletion first w' _ opened.controller c' (.inr rfl) hrun

end Session.Displacement

end RouteContracts
