import RouteContracts.Proofs.Program.UpToDate

/-! # Emissions are all or nothing
Whatever step of an emission fails, the files are as they were, but for directories that were made. When none
fails, the text is at one location, and the other ones are as they were. So the artifact is found as it was, or
with the whole text.

* `Files.extends_of_failed`: **a failed emission adds directories**, and nothing else.
* `Files.Replaced`: files in which a text took the place of what was at a location.
* `Files.exists_replaced_of_emit`: **a successful emission** puts the text at the location that the artifact's path
  names.
* `Registry.emit_all_or_nothing`: both, for the artifact of a registry. -/

namespace RouteContracts

namespace Files

variable {s : EmitSurroundings} {f g after made : Files} {artifact p : Path} {text : String} {temporary l : Location}

/-! ## Reading -/

theorem holdsText_iff : f.holdsText p text = true ↔ f.read p = .ok text := by
  unfold holdsText
  cases f.read p <;> simp

/-- What `read` gives is the text at a location that `locate` finds. -/
theorem exists_of_read (h : f.read p = .ok text) :
    ∃ l, f.locate true p = .ok (.found l (.text text)) ∧ f.entry? l = some (.text text) := by
  unfold read at h
  split at h
  · cases h
  · cases h
  · next l content hlocate =>
    obtain rfl := Except.ok.inj h
    refine ⟨l, hlocate, ?_⟩
    unfold locate at hlocate
    split at hlocate
    · cases hlocate
    split at hlocate
    · cases hlocate
    · exact entry?_of_walk_file _ _ _ hlocate
  · cases h
  · cases h

namespace Extends

/-- **`read` is kept by `Extends`**: with directories added, every text is read as before. -/
theorem read (h : f.Extends g) (hread : f.read p = .ok text) : g.read p = .ok text := by
  obtain ⟨l, hlocate, -⟩ := exists_of_read hread
  have hfound : g.locate true p = .ok (.found l (.text text)) := by
    unfold locate at hlocate ⊢
    split at hlocate
    · cases hlocate
    split at hlocate
    · cases hlocate
    · next hempty husable =>
      have hstart : g.start p = f.start p := by rw [start, start, h.here]
      rw [if_neg hempty, if_neg husable, hstart]
      exact walk_of_kept (fun other kept _ => h.kept other kept) _ _ _ hlocate
  rw [Files.read, hfound]

/-- What `read` gives in files that `Extends` others is a text of these. -/
theorem exists_of_read (h : f.Extends g) (hread : g.read p = .ok text) : ∃ l, f.entry? l = some (.text text) := by
  obtain ⟨l, -, hentry⟩ := Files.exists_of_read hread
  refine ⟨l, ?_⟩
  cases hf : f.entry? l with
  | some e => rw [← hentry, h.kept l e hf]
  | none =>
    -- only directories are added
    rcases h.added l hf with hadded | hadded
    · cases hadded.symm.trans hentry
    · cases hadded.symm.trans hentry

end Extends

/-! ## Failures -/

/-- **After a failed `emit` the files `Extends` those before**, whatever step fails: the temporary file is gone, and no
other file is touched. -/
theorem extends_of_failed {why : FileError} (hs : s.Fresh f artifact)
    (h : f.emit s artifact text = (.error why, after)) : f.Extends after := by
  unfold emit at h
  split at h
  · cases (Prod.mk.inj h).1
  split at h
  · obtain rfl := (Prod.mk.inj h).2
    exact .refl f
  split at h
  · obtain rfl := (Prod.mk.inj h).2
    exact (furnished_directoriesLeft f _).extends
  next made hmade =>
  have hextends := (furnished_makeDirectories hmade).extends
  split at h
  · next dir hdir =>
    have hfree := hs made dir hmade hdir
    suffices hmade : made = after from hmade ▸ hextends
    -- from here on the temporary file is there, and each failure removes it
    unfold emitIn at h
    split at h
    · exact (Prod.mk.inj h).2
    dsimp only at h
    split at h
    · exact hfree.erase_put _ ▸ (Prod.mk.inj h).2
    -- the text goes over the empty file that was made under the same name
    rw [put_put] at h
    split at h
    · exact hfree.erase_put _ ▸ (Prod.mk.inj h).2
    unfold persist at h
    split at h
    · cases (Prod.mk.inj h).1
    · exact hfree.erase_put _ ▸ (Prod.mk.inj h).2
  · obtain rfl := (Prod.mk.inj h).2
    exact hextends

/-! ## Success -/

/-- **`replaceable` in other files**: the same location, if these have the directories and the links, and no directory
is at the location. -/
theorem replaceable_of_kept (h : f.replaceable p = .ok l) (hhere : g.workingDirectory = f.workingDirectory)
    (hkept : ∀ other kept, (kept = .directory ∨ ∃ target, kept = .link target) → f.entry? other = some kept →
      g.entry? other = some kept) (hl : g.entry? l ≠ some .directory) : g.replaceable p = .ok l := by
  unfold replaceable at h ⊢
  split at h
  · cases h
  next hempty =>
  split at h
  · cases h
  next husable =>
  rw [if_neg hempty, if_neg husable]
  split at h
  · cases h
  next last front _ =>
  split at h
  · cases h
  · cases h
  · next d hwalk =>
    have hthere : g.walk true maxLinks (g.start p) front.reverse = .ok (.found d .directory) := by
      -- a walk to a directory needs the directories and the links on the way only
      rw [show g.start p = f.start p by rw [start, start, hhere]]
      refine walk_of_kept (fun other kept hwhich => hkept other kept ?_) _ _ _ hwalk
      rcases hwhich with hdirectory | hlink | hdirectory
      · exact .inl hdirectory
      · exact .inr hlink
      · exact .inl hdirectory
    rw [hthere]
    dsimp only
    split at h
    · cases h
    next hdots =>
    split at h
    · cases h
    next hsize =>
    split at h
    · cases h
    next hend =>
    rw [if_neg hdots, if_neg hsize, if_neg hend]
    -- only the last step looks at the place itself
    unfold replaceableIn at h ⊢
    split at h
    · cases h
    obtain rfl := Except.ok.inj h
    split
    · next hdirectory => exact absurd hdirectory hl
    · rfl
  · cases h

/-- **Files in which a text took the place of what was at a location.** Elsewhere directories are added, where nothing
was before. -/
structure Replaced (f g : Files) (l : Location) (text : String) : Prop where
  here : g.workingDirectory = f.workingDirectory
  /-- The text is there. -/
  text : g.entry? l = some (.text text)
  /-- All that was elsewhere is there. -/
  kept : ∀ other e, other ≠ l → f.entry? other = some e → g.entry? other = some e
  /-- Where nothing was elsewhere, there is nothing, or a directory. -/
  added : ∀ other, other ≠ l → f.entry? other = none → g.entry? other = none ∨ g.entry? other = some .directory

namespace Emits

variable (h : f.Emits after artifact text made temporary l)

include h

theorem replaced : f.Replaced after l text := by
  have hextends := h.furnished.extends
  refine ⟨h.here, h.entry?_self, fun other e hne hother => ?_, fun other hne hother => ?_⟩
  · rw [h.entry?_of_ne hne]
    exact hextends.kept other e hother
  · rw [h.entry?_of_ne hne]
    exact hextends.added other hother

/-- `replaceable` gives the location where the text would be put without the temporary file. -/
theorem replaceable_made : made.replaceable artifact = .ok l := by
  refine replaceable_of_kept h.replaceable rfl (fun other kept hwhich hother => ?_) h.not_directory
  refine entry?_of_put h.root hother ?_
  rintro rfl
  simp at hwhich

end Emits

/-- **After a successful `emit`** the artifact holds the text already, or the files are `Replaced` at the location that
`replaceable` gives. -/
theorem exists_replaced_of_emit (hs : s.Fresh f artifact) (h : f.emit s artifact text = (.ok (), after)) :
    f.read artifact = .ok text ∧ after = f ∨
      ∃ made l, f.Extends made ∧ made.replaceable artifact = .ok l ∧ f.Replaced after l text ∧
        (after.read artifact = .ok text ∨
          after.read artifact = .error .notADirectory ∧ ∃ target, f.entry? l = some (.link target)) := by
  rcases exists_of_emit hs h with ⟨hholds, hsame⟩ | ⟨made, temporary, l, hemits⟩
  · exact .inl ⟨holdsText_iff.mp hholds, hsame⟩
  · refine .inr ⟨made, l, hemits.furnished.extends, hemits.replaceable_made, hemits.replaced, ?_⟩
    -- the path leads to the text, but for a link that it led through, which is a file now
    rcases hemits.locate with hfound | ⟨herror, hlink⟩
    · exact .inl (by rw [read, hfound])
    · exact .inr ⟨by rw [read, herror], hlink⟩

end Files

/-! ## The artifact of a registry -/

/-- **`Registry.emit` is all or nothing.** Where the temporary file is `Fresh`, `.error` leaves files that `Extends`
those before: each path at which a text was read still leads to that text, and no other text is read anywhere. And `.ok`
leaves files that are `Replaced`: the whole `artifactText?` is at the location that the path of the artifact names, and
all other files are as they were. By its path it is read there, but for one that leads through the very link that was
replaced. Where the artifact held that text, nothing is done. -/
theorem Registry.emit_all_or_nothing (r : Registry) (s : EmitSurroundings) (f : Files) (artifact : Path)
    (runtime : String) :
    (s.Fresh f artifact →
      (∀ why after, r.emit s f artifact runtime = (.error why, after) → f.Extends after ∧
        (∀ p text, f.read p = .ok text → after.read p = .ok text) ∧
        ∀ p text, after.read p = .ok text → ∃ l, f.entry? l = some (.text text)) ∧
      ∀ after, r.emit s f artifact runtime = (.ok (), after) → ∃ text, r.artifactText? runtime = some text ∧
        (f.read artifact = .ok text ∧ after = f ∨
          ∃ made l, f.Extends made ∧ made.replaceable artifact = .ok l ∧ f.Replaced after l text ∧
            (after.read artifact = .ok text ∨
              after.read artifact = .error .notADirectory ∧ ∃ target, f.entry? l = some (.link target)))) ∧
    ∀ text, r.artifactText? runtime = some text → f.read artifact = .ok text →
      r.emit s f artifact runtime = (.ok (), f) := by
  cases htext : r.artifactText? runtime with
  | none =>
    -- a registry without a text fails before it looks at a file
    have hemit : r.emit s f artifact runtime = (.error .unwritable, f) := by rw [Registry.emit, htext]
    refine ⟨fun hs => ⟨fun why after h => ?_, fun after h => ?_⟩, fun text h => nomatch h⟩
    · obtain rfl := (Prod.mk.inj (hemit.symm.trans h)).2
      have hextends := Files.Extends.refl f
      exact ⟨hextends, fun p text => hextends.read, fun p text => hextends.exists_of_read⟩
    · cases hemit.symm.trans h
  | some text =>
    have hemit : r.emit s f artifact runtime =
        ((f.emit s artifact text).1.mapError .failed, (f.emit s artifact text).2) := by rw [Registry.emit, htext]
    rw [hemit]
    -- the failure, the success, and an artifact that holds the text already
    refine ⟨fun hs => ⟨fun why after h => ?_, fun after h => ?_⟩, fun text' htext' hread => ?_⟩
    · obtain ⟨hresult, rfl⟩ := Prod.mk.inj h
      cases hfailed : (f.emit s artifact text).1 with
      | ok _ =>
        rw [hfailed] at hresult
        cases hresult
      | error e =>
        have hextends := Files.extends_of_failed hs (Prod.ext hfailed rfl)
        exact ⟨hextends, fun p text => hextends.read, fun p text => hextends.exists_of_read⟩
    · obtain ⟨hresult, rfl⟩ := Prod.mk.inj h
      refine ⟨text, rfl, ?_⟩
      cases hdone : (f.emit s artifact text).1 with
      | error e =>
        rw [hdone] at hresult
        cases hresult
      | ok _ =>
        exact Files.exists_replaced_of_emit hs (Prod.ext hdone rfl)
    · obtain rfl := Option.some.inj htext'
      rw [Files.emit, if_pos (Files.holdsText_iff.mpr hread)]
      rfl

/-! ## A failure at the last step

The artifact of a registry is written beside the companion files. Either nothing fails, or the temporary file
cannot take the artifact's place. -/

namespace Session.InTheWay

/-- Surroundings in which the last step, `.persist`, fails. -/
def barred : EmitSurroundings := ⟨"tmp", fun step => if step = .persist then some .busy else none⟩

theorem fresh_barred : barred.Fresh files beside := fresh (by decide)

/-- No artifact is there at first. -/
theorem read_beside : files.read beside = .error .notFound := by
  have hlocate : files.locate true beside = .ok (.vacant [".routegen", "api.rs"]) := by
    rw [Displacement.locate_of_isWalked files isWalked_beside, files.walk_of_directory _ _ looksUp_dir entry?_dir]
    exact files.walk_of_none _ _ looksUp_api (entry?_artifact "api.rs")
  rw [Files.read, hlocate]

theorem dir_beside : artifactDirectory beside = ⟨"/.routegen"⟩ := by decide

/-- With `barred` the last step fails, and the temporary file is removed. -/
theorem emit_barred (text : String) : files.emit barred beside text = (.error .busy, files) := by
  have hstale : ¬files.holdsText beside text = true := by
    rw [Files.holdsText_iff, read_beside]
    exact (nomatch ·)
  have hremoved := isFree_temporary.erase_put (.text text)
  rw [Files.emit, if_neg hstale]
  simp only [barred, dir_beside, makeDirectories_dir, find?_dir, Files.emitIn, Files.put_put, hremoved, reduceCtorEq,
    if_false, if_true, Option.none_or]

/-- `Registry.emit` writes the artifact as a whole, or, with `barred`, not at all; and where it is written, it is not
written again. -/
theorem emit_all_or_nothing_beside : (EmitSurroundings.calm "tmp").Fresh files beside ∧ barred.Fresh files beside ∧
    ∃ (r : Registry) (text : String), r.artifactText? "routegen" = some text ∧
      r.emit (.calm "tmp") files beside "routegen" = (.ok (), after "api.rs" text) ∧
      (after "api.rs" text).read beside = .ok text ∧
      r.emit barred files beside "routegen" = (.error (.failed .busy), files) ∧ files.Extends files ∧
      r.emit barred (after "api.rs" text) beside "routegen" = (.ok (), after "api.rs" text) := by
  have hcalm : (EmitSurroundings.calm "tmp").Fresh files beside := fresh dir_beside
  obtain ⟨a, text, -, -, htext, -, -⟩ := exists_texts
  generalize (Registry.empty.replaceAll [a]).2 = r at htext
  have hwritten : r.emit (.calm "tmp") files beside "routegen" = (.ok (), after "api.rs" text) := by
    rw [Registry.emit, htext]
    dsimp only
    rw [emit_files isWalked_beside looksUp_api dir_beside (by decide)]
    rfl
  have hbarred : r.emit barred files beside "routegen" = (.error (.failed .busy), files) := by
    rw [Registry.emit, htext]
    dsimp only
    rw [emit_barred]
    rfl
  obtain ⟨hsuccess, -⟩ := r.emit_all_or_nothing (.calm "tmp") files beside "routegen"
  obtain ⟨hfailure, -⟩ := r.emit_all_or_nothing barred files beside "routegen"
  obtain ⟨-, hidle⟩ := r.emit_all_or_nothing barred (after "api.rs" text) beside "routegen"
  -- it could not be read before, and no link leads to it: what is read is what was written
  have hread : (after "api.rs" text).read beside = .ok text := by
    obtain ⟨text', htext', hafter⟩ := (hsuccess hcalm).2 _ hwritten
    obtain rfl := Option.some.inj (htext.symm.trans htext')
    rcases hafter with ⟨hread, -⟩ | ⟨_, l, -, -, -, hread | ⟨-, target, hlink⟩⟩
    · rw [read_beside] at hread
      cases hread
    · exact hread
    · exact absurd hlink (isTree.linkless l target)
  exact ⟨hcalm, fresh_barred, r, text, htext, hwritten, hread, hbarred, ((hfailure fresh_barred).1 _ _ hbarred).1,
    hidle text htext hread⟩

end Session.InTheWay

end RouteContracts
