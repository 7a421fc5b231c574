import RouteContracts.Artifact.Emission
import RouteContracts.Proofs.Files.Walks

/-! # What an emission leaves
An emission that succeeds finds the text in the artifact already, or makes directories and puts the text in the
artifact's place. The temporary file leaves nothing. So the files are the same after it only when the artifact
held the text.

* `EmitSurroundings.Fresh`: the temporary file is new.
* `Files.Emits`: **what a successful emission does** when the artifact does not hold the text.
* `Files.Emits.locate`, `Files.Emits.holdsText`: the text is read back by the artifact's path, if that leads
  anywhere.
* `Files.emit_idle_iff`: **an emission leaves the files as they are exactly when the artifact holds the text.** -/

namespace RouteContracts

/-- The temporary file is new: nothing is at its place when it is made. -/
def EmitSurroundings.Fresh (s : EmitSurroundings) (f : Files) (artifact : Path) : Prop :=
  ∀ made dir, f.makeDirectories (artifactDirectory artifact) = .ok made →
    made.find? (artifactDirectory artifact) = some (dir, .directory) → made.IsFree (dir ++ [s.temporaryName])

namespace Files

/-- **What a successful `emit` does** when the artifact does not hold the text: directories are made for it, and the
text is put in the place of what its path names, while a temporary file is there. -/
structure Emits (f after : Files) (artifact : Path) (text : String) (made : Files) (temporary l : Location) :
    Prop where
  furnished : f.Furnished (artifactDirectory artifact) made
  free : made.IsFree temporary
  root : temporary ≠ []
  replaceable : (made.put temporary (.text text)).replaceable artifact = .ok l
  put : after = made.put l (.text text)

variable {s : EmitSurroundings} {f after made : Files} {artifact : Path} {text : String} {temporary l : Location}

/-- **A successful `emit` is idle or `Emits`.** -/
theorem exists_of_emit (hs : s.Fresh f artifact) (h : f.emit s artifact text = (.ok (), after)) :
    (f.holdsText artifact text = true ∧ after = f) ∨
      ∃ made temporary l, f.Emits after artifact text made temporary l := by
  unfold emit at h
  split at h
  · next hholds => exact .inl ⟨hholds, (Prod.mk.inj h).2.symm⟩
  right
  split at h
  · cases (Prod.mk.inj h).1
  split at h
  · cases (Prod.mk.inj h).1
  next made hmade =>
  split at h
  · next dir hdir =>
    -- the temporary file is a new one, so nothing but the artifact is left of it
    have hfree := hs made dir hmade hdir
    unfold emitIn at h
    split at h
    · cases (Prod.mk.inj h).1
    dsimp only at h
    split at h
    · cases (Prod.mk.inj h).1
    split at h
    · cases (Prod.mk.inj h).1
    rw [put_put] at h
    unfold persist at h
    split at h
    · next l hl =>
      rw [hfree.erase_put] at h
      exact ⟨made, _, l, furnished_makeDirectories hmade, hfree, by simp, hl, (Prod.mk.inj h).2.symm⟩
    · cases (Prod.mk.inj h).1
  · cases (Prod.mk.inj h).1

namespace Emits

variable (h : f.Emits after artifact text made temporary l)

include h

theorem ne_root : l ≠ [] := by
  obtain ⟨-, -, -, d, last, -, -, -, rfl, -⟩ := exists_of_replaceable h.replaceable
  simp

/-- What is replaced is no directory. -/
theorem not_directory : made.entry? l ≠ some .directory := by
  obtain ⟨-, -, -, -, -, -, -, -, -, hentry⟩ := exists_of_replaceable h.replaceable
  by_cases hl : l = temporary
  · rw [hl, h.free.entry? h.root]
    simp
  · rwa [entry?_put_of_ne made h.root _ hl] at hentry

theorem here : after.workingDirectory = f.workingDirectory := by
  rw [h.put, workingDirectory_put, h.furnished.extends.here]

/-- The text is where it was put: `after.entry? l = some (.text text)`. -/
theorem entry?_self : after.entry? l = some (.text text) := by
  rw [h.put, entry?_put_self made h.ne_root]

theorem entry?_of_ne {other : Location} (hne : other ≠ l) : after.entry? other = made.entry? other := by
  rw [h.put, entry?_put_of_ne made h.ne_root _ hne]

/-- **The path of the artifact leads to the text.** Only when the text took the place of a link, `locate` may lead
nowhere. -/
theorem locate : after.locate true artifact = .ok (.found l (.text text)) ∨
    after.locate true artifact = .error .notADirectory ∧ ∃ target, f.entry? l = some (.link target) := by
  have hdirectory : ∀ other, Files.entry? (made.put temporary (.text text)) other = some .directory →
      after.entry? other = some .directory := by
    intro other hother
    have hmade : made.entry? other = some .directory := entry?_of_put h.root hother Entry.noConfusion
    rwa [h.entry?_of_ne fun heq => h.not_directory (heq ▸ hmade)]
  have hlink : ∀ other target, other ≠ l →
      Files.entry? (made.put temporary (.text text)) other = some (.link target) →
        after.entry? other = some (.link target) := by
    intro other target hne hother
    rw [h.entry?_of_ne hne]
    exact entry?_of_put h.root hother Entry.noConfusion
  have hhere : after.workingDirectory = (made.put temporary (.text text)).workingDirectory := by rw [h.put]; rfl
  refine (locate_of_replaceable h.replaceable hhere hdirectory hlink h.entry?_self).imp_right ?_
  rintro ⟨herror, target, htarget⟩
  refine ⟨herror, target, ?_⟩
  have hmade : made.entry? l = some (.link target) := entry?_of_put h.root htarget Entry.noConfusion
  -- no link is made, so it was there before
  cases hf : f.entry? l with
  | none =>
    rcases h.furnished.extends.added l hf with hadded | hadded
    · cases hadded.symm.trans hmade
    · cases hadded.symm.trans hmade
  | some e => exact (h.furnished.extends.kept l e hf).symm.trans hmade

/-- **If the path of the artifact still leads anywhere, the text is read there.** -/
theorem holdsText (hholds : after.holds artifact = true) : after.holdsText artifact text = true := by
  rcases h.locate with hfound | ⟨herror, -⟩
  · simp [Files.holdsText, read, hfound]
  · rw [holds, find?, herror] at hholds
    cases hholds

/-- If `after = f`, the artifact held the text before. -/
theorem holdsText_of_eq (heq : after = f) : f.holdsText artifact text = true := by
  subst heq
  rcases h.locate with hfound | ⟨-, target, htarget⟩
  · simp [Files.holdsText, read, hfound]
  · cases h.entry?_self.symm.trans htarget

/-- Names stay names: `Proper` files stay `Proper`. -/
theorem proper (hf : f.Proper) (hhere : ∀ name ∈ f.workingDirectory, Path.IsName name) : after.Proper := by
  have hmade := h.furnished.proper hf hhere
  obtain ⟨-, -, front, d, last, hnames, hlast, hwalk, hl, -⟩ := exists_of_replaceable h.replaceable
  have hslash : ∀ name ∈ front ++ [last], '/' ∉ name.toList :=
    fun name hname => no_slash_of_mem_names (hnames ▸ hname)
  obtain ⟨hfront, hlastSlash⟩ := List.forall_mem_append.mp hslash
  have hstart : ∀ name ∈ (made.put temporary (.text text)).start artifact, Path.IsName name :=
    isName_of_mem_start (by rw [workingDirectory_put, h.furnished.extends.here]; exact hhere) artifact
  rw [h.put, hl]
  refine hmade.put (List.forall_mem_append.mpr ⟨isName_of_walk _ _ _ hstart hfront hwalk, ?_⟩) _
  exact List.forall_mem_singleton.mpr (isName_of_looksUp hlast (hlastSlash last (List.mem_singleton_self last)))

end Emits

/-- Where `holdsText`, the path `holds` something. -/
theorem holds_of_holdsText (h : f.holdsText artifact text = true) : f.holds artifact = true := by
  unfold Files.holdsText read at h
  unfold holds find?
  rcases hlocate : f.locate true artifact with e | ⟨l, e⟩ | l <;> rw [hlocate] at h
  · cases h
  · rfl
  · cases h

/-- **`emit` is `.ok` and leaves the files as they are exactly when the artifact `holdsText`.** -/
theorem emit_idle_iff (hs : s.Fresh f artifact) :
    f.emit s artifact text = (.ok (), f) ↔ f.holdsText artifact text = true := by
  constructor
  · intro h
    rcases exists_of_emit hs h with ⟨hholds, -⟩ | ⟨made, temporary, l, hemits⟩
    · exact hholds
    · exact hemits.holdsText_of_eq rfl
  · intro h
    rw [emit, if_pos h]

end Files

end RouteContracts
