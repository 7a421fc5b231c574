import RouteContracts.Artifact.Writer
import RouteContracts.Files

/-! # Writing the artifact
The text of the artifact goes to a temporary file beside the artifact, which then takes the artifact's
place. So readers find the artifact as it was or as it becomes. Each step can fail: by what the files are
like, or for a reason outside of them.

* `Files.emit`: the steps, in order.
* `Registry.emit`: writing the artifact of a registry. -/

namespace RouteContracts

/-- The steps of writing an artifact. -/
inductive EmitStep where
  /-- The directory of the artifact is made. -/
  | directory
  /-- The temporary file is made. -/
  | temporary
  /-- The text is written to it. -/
  | content
  /-- The text is handed over to the disk. -/
  | flush
  /-- The temporary file takes the place of the artifact. -/
  | persist
deriving DecidableEq, Repr

/-- What the files do not determine: the name of the temporary file, and failures from outside. -/
structure EmitSurroundings where
  /-- The name of the temporary file. -/
  temporaryName : String
  /-- Which step fails, and how. -/
  failure : EmitStep → Option FileError

namespace EmitSurroundings

/-- Nothing fails from outside. -/
def calm (temporaryName : String) : EmitSurroundings := ⟨temporaryName, fun _ => none⟩

end EmitSurroundings

/-- Why an artifact cannot be written. -/
inductive EmitError where
  /-- The registry has no artifact. -/
  | unwritable
  /-- A step failed. -/
  | failed (why : FileError)
deriving DecidableEq, Repr

/-- `artifact.parent?`, or `.` where it is empty or there is none. -/
def artifactDirectory (artifact : Path) : Path :=
  match artifact.parent? with
  | some dir => if dir.text.isEmpty then ⟨"."⟩ else dir
  | none => ⟨"."⟩

namespace Files

/-- Whether `f.read p` is this text. -/
def holdsText (f : Files) (p : Path) (text : String) : Bool :=
  match f.read p with
  | .ok content => content == text
  | .error _ => false

/-- The step that puts the temporary file in the artifact's place, where `f.replaceable`. The temporary file is gone
afterwards. -/
def persist (f : Files) (temporary : Location) (artifact : Path) (text : String) :
    Except FileError Unit × Files :=
  let without := f.erase temporary
  match f.replaceable artifact with
  | .ok l => (.ok (), without.put l (.text text))
  | .error e => (.error e, without)

/-- The steps from the temporary file on, in the directory of the artifact: `.temporary`, `.content`, `.flush` and
`.persist`, up to the first that fails. -/
def emitIn (s : EmitSurroundings) (f : Files) (dir : Location) (artifact : Path) (text : String) :
    Except FileError Unit × Files :=
  let temporary := dir ++ [s.temporaryName]
  match s.failure .temporary with
  | some e => (.error e, f)
  | none =>
    let f := f.put temporary (.text "")
    match s.failure .content with
    | some e => (.error e, f.erase temporary)
    | none =>
      let f := f.put temporary (.text text)
      -- whatever fails from here on, the temporary file is gone and the artifact as it was
      match (s.failure .flush).or (s.failure .persist) with
      | some e => (.error e, f.erase temporary)
      | none => f.persist temporary artifact text

/-- **Writes a text as the artifact.** Nothing is done if `f.holdsText artifact text`; else the directory is made, and
`emitIn` does the rest. -/
def emit (s : EmitSurroundings) (f : Files) (artifact : Path) (text : String) :
    Except FileError Unit × Files :=
  if f.holdsText artifact text then (.ok (), f)
  else match s.failure .directory with
    | some e => (.error e, f)
    | none =>
      match f.makeDirectories (artifactDirectory artifact) with
      -- directories may have been made by then
      | .error e => (.error e, f.directoriesLeft (artifactDirectory artifact))
      | .ok made =>
        match made.find? (artifactDirectory artifact) with
        | some (dir, .directory) => made.emitIn s dir artifact text
        | _ => (.error .notADirectory, made)

end Files

/-- **Writes the artifact of a registry**: `f.emit` of its `artifactText?`, and `.unwritable` if it has none. -/
def Registry.emit (r : Registry) (s : EmitSurroundings) (f : Files) (artifact : Path) (runtime : String) :
    Except EmitError Unit × Files :=
  match r.artifactText? runtime with
  | none => (.error .unwritable, f)
  | some text =>
    let (result, files) := f.emit s artifact text
    (result.mapError .failed, files)

end RouteContracts
