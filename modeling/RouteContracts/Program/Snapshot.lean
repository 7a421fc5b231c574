import RouteContracts.Json.Reader
import RouteContracts.Json.Writer
import RouteContracts.Program.Run

/-! # Snapshots
What a run works on, as one JSON object: `files` maps absolute paths to texts, `directory` is the working
directory, `environment` maps variables to values, `input` is what `watch` reads. The result of a run is
the object of the files that it changed.

* `Snapshot.ofJson?`: reading. `Snapshot.changes`: writing. -/

namespace RouteContracts

/-- What a run works on. -/
structure Snapshot where
  files : Files
  environment : Variables
  input : String

namespace Snapshot

/-- The texts among the members of an object. -/
def texts (members : Members Json) : Members String :=
  members.filterMap fun m => m.2.asString?.map fun s => (m.1, s)

/-- The member of an object that is an object of texts itself. -/
def textsOf (name : String) (j : Json) : Members String :=
  texts (((j.get? name).bind Json.asObject?).getD [])

/-- The names of a path, which lead from the root. -/
def locationOf (path : String) : Location := (Path.names ⟨path⟩).filter (· ≠ "")

/-- The files with a directory and those above it. -/
def withDirectories (f : Files) (l : Location) : Files :=
  ((List.range l.length).map fun n => l.take (n + 1)).foldl
    (fun f l => if (f.entry? l).isSome then f else f.put l .directory) f

/-- The files with one more text. -/
def withText (f : Files) (file : String × String) : Files :=
  let l := locationOf file.1
  (withDirectories f l.dropLast).put l (.text file.2)

/-- **The snapshot of an object.** -/
def ofJson? (j : Json) : Option Snapshot := do
  let _ ← j.asObject?
  let directory := locationOf (((j.get? "directory").bind Json.asString?).getD "/")
  let files := (textsOf "files" j).foldl withText (withDirectories ⟨[], directory⟩ directory)
  some ⟨files, textsOf "environment" j, ((j.get? "input").bind Json.asString?).getD ""⟩

/-- **The texts that are not in the files as they were.** -/
def changes (before after : Files) : Json :=
  .object (after.entries.filterMap fun e =>
    match e.2 with
    | .text s => if before.entry? e.1 = some (.text s) then none else some (e.1.path.text, .string s)
    | _ => none)

end Snapshot

end RouteContracts
