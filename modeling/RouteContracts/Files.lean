import RouteContracts.Path

/-! # Files
A tree of directories, files and links, as a table of what is where. A path leads to a place by a
**walk**: names lead down, `..` leads up, links are followed, up to forty of them.

* `Files.walk`, `Files.locate`: where a path leads.
* `Files.read`, `Files.isFile`, `Files.canonical?`: looking.
* `Files.makeDirectories`, `Files.write`, `Files.replaceable`, `Files.remove`: changing. -/

namespace RouteContracts

/-- Where something is: the names of the directories down to it, and its own name. All names are UTF-8. -/
abbrev Location := List String

/-- What can be at a location. -/
inductive Entry where
  /-- A file with a text. -/
  | text (content : String)
  /-- A file whose bytes are no text. -/
  | bytes (content : List UInt8)
  | directory
  /-- A link to a path. -/
  | link (target : Path)
deriving DecidableEq, Repr

/-- Why something cannot be done with a path. -/
inductive FileError where
  /-- Nothing is there. -/
  | notFound
  /-- The path goes on below something that is no directory. -/
  | notADirectory
  /-- There is a directory, where a file was expected. -/
  | isADirectory
  /-- There is something already. -/
  | alreadyExists
  /-- The path follows too many links. -/
  | tooManyLinks
  /-- The path ends in a name that cannot be replaced. -/
  | busy
  /-- The file is no text. -/
  | notText
  /-- The path cannot be the name of a file. -/
  | invalidPath
  /-- A name has more bytes than a name can have. -/
  | nameTooLong
deriving DecidableEq, Repr

/-- What is reported when something cannot be done. -/
def FileError.message : FileError → String
  | .notFound => "nothing is there"
  | .notADirectory => "not a directory"
  | .isADirectory => "is a directory"
  | .alreadyExists => "is there already"
  | .tooManyLinks => "too many links"
  | .busy => "cannot be replaced"
  | .notText => "not a text"
  | .invalidPath => "not a path"
  | .nameTooLong => "name too long"

/-- Whether an entry is a file. -/
def Entry.isFile : Entry → Bool
  | .text _ | .bytes _ => true
  | .directory | .link _ => false

/-- Where a path leads. -/
inductive Place where
  /-- To something. -/
  | found (location : Location) (entry : Entry)
  /-- To a name that is free in a directory. -/
  | vacant (location : Location)
deriving DecidableEq, Repr

/-- Files, and the directory in which relative paths start. -/
structure Files where
  /-- What is where. The root is a directory without being listed. -/
  entries : List (Location × Entry)
  /-- Where relative paths start. -/
  workingDirectory : Location
deriving Repr

namespace Location

/-- The absolute path of a location. -/
def path (l : Location) : Path := ⟨"/" ++ "/".intercalate l⟩

end Location

namespace Path

/-- The names between the slashes of a path. -/
def names (p : Path) : List String := (pieces p.text.toList).map String.ofList

/-- Whether a path has a character that no name has. -/
def isUnusable (p : Path) : Bool := p.text.toList.contains '\x00'

/-- The path as seen from a directory: absolute, and with its empty names and `.` left out, but with a slash
at the end if it had one. Exactly two slashes at the front stay. -/
def absolute (p here : Path) : Path :=
  if p.text.isEmpty then p
  else
    let start : Path :=
      if !p.isAbsolute then here
      else match p.text.toList with
        | '/' :: '/' :: rest => if rest.head? = some '/' then ⟨"/"⟩ else ⟨"//"⟩
        | _ => ⟨"/"⟩
    let names := p.components.filter fun c => c ≠ .root && c ≠ .current
    let whole := names.foldl (fun q c => q.join ⟨c.text⟩) start
    if p.text.toList.getLast? = some '/' then whole.join ⟨""⟩ else whole

end Path

namespace Files

/-! ## Looking -/

/-- What is at a location, by the first of the entries for it; the root is a directory. -/
def entry? (f : Files) (l : Location) : Option Entry :=
  if l = [] then some .directory else (f.entries.find? fun e => e.1 == l).map Prod.snd

/-- How many bytes a name can have. -/
def maxNameBytes : Nat := 255

/-- How many links a walk may follow. -/
def maxLinks : Nat := 40

/-- **The walk** from a directory along names, with at most `links` links on the way. A link at the end is followed only
where `follow`, unless a slash comes after it. -/
def walk (f : Files) (follow : Bool) (links : Nat) (l : Location) : List String → Except FileError Place
  | [] => .ok (.found l .directory)
  | name :: rest =>
    if name = "" ∨ name = "." then walk f follow links l rest
    else if name = ".." then walk f follow links l.dropLast rest
    else if maxNameBytes < name.utf8ByteSize then .error .nameTooLong
    else
      let here := l ++ [name]
      match f.entry? here with
      -- only the last name may be vacant
      | none => if rest = [] then .ok (.vacant here) else .error .notFound
      | some .directory => walk f follow links here rest
      | some (.link target) =>
        -- a link in front of another name is followed in any case
        if rest = [] ∧ follow = false then .ok (.found here (.link target))
        else match links with
          | 0 => .error .tooManyLinks
          -- the names of the target come first, from the root or from where the link is
          | links + 1 => walk f follow links (if target.isAbsolute then [] else l) (target.names ++ rest)
      -- below a file there is nothing
      | some e => if rest = [] then .ok (.found here e) else .error .notADirectory
termination_by names => (links, names.length)

/-- `[]` for an absolute path, and else the `workingDirectory`. -/
def start (f : Files) (p : Path) : Location := if p.isAbsolute then [] else f.workingDirectory

/-- **Where a path leads**: `walk` along its `names`, from its `start`. -/
def locate (f : Files) (follow : Bool) (p : Path) : Except FileError Place :=
  if p.text.isEmpty then .error .notFound
  else if p.isUnusable then .error .invalidPath
  else f.walk follow maxLinks (f.start p) p.names

/-- The entry that `locate` has `.found`, links followed. -/
def find? (f : Files) (p : Path) : Option (Location × Entry) :=
  match f.locate true p with
  | .ok (.found l e) => some (l, e)
  | _ => none

/-- **The text of a file** that `locate` has found. -/
def read (f : Files) (p : Path) : Except FileError String :=
  match f.locate true p with
  | .error e => .error e
  | .ok (.vacant _) => .error .notFound
  | .ok (.found _ (.text content)) => .ok content
  | .ok (.found _ (.bytes _)) => .error .notText
  | .ok (.found _ _) => .error .isADirectory

/-- Whether `find?` gives anything. -/
def holds (f : Files) (p : Path) : Bool := (f.find? p).isSome

/-- Whether a path leads to a file. -/
def isFile (f : Files) (p : Path) : Bool := (f.find? p).any fun e => e.2.isFile

/-- Whether a path leads to a directory. -/
def isDirectory (f : Files) (p : Path) : Bool := (f.find? p).any fun e => e.2 == .directory

/-- **The path without links, `.` and `..`**: that of the location to which `locate` leads. -/
def canonical (f : Files) (p : Path) : Except FileError Path :=
  match f.locate true p with
  | .error e => .error e
  | .ok (.vacant _) => .error .notFound
  | .ok (.found l _) => .ok l.path

/-- What is in a directory. -/
def children (f : Files) (l : Location) : List (String × Entry) :=
  f.entries.filterMap fun e =>
    match e.1.getLast? with
    | some name => if e.1.dropLast = l then some (name, e.2) else none
    | none => none

/-! ## Changing -/

/-- Puts an entry at a location, in place of the one that is there. -/
def put (f : Files) (l : Location) (e : Entry) : Files :=
  { f with entries := (l, e) :: f.entries.filter fun old => old.1 ≠ l }

/-- Leaves out a location and all below it. -/
def erase (f : Files) (l : Location) : Files :=
  { f with entries := f.entries.filter fun old => !l.isPrefixOf old.1 }

/-- The names of a path without the slashes at its end. -/
def namesWithoutEnd (p : Path) : List String := (p.names.reverse.dropWhile (· = "")).reverse

/-- Makes a directory in one that is there. -/
def makeDirectory (f : Files) (p : Path) : Except FileError Files :=
  if p.text.isEmpty then .error .notFound
  else if p.isUnusable then .error .invalidPath
  else match f.walk false maxLinks (f.start p) (namesWithoutEnd p) with
    | .error e => .error e
    | .ok (.found _ _) => .error .alreadyExists
    | .ok (.vacant l) => .ok (f.put l .directory)

/-- `makeDirectory`, unless `isDirectory`. -/
def ensureDirectory (f : Files) (p : Path) : Except FileError Files :=
  match f.makeDirectory p with
  | .ok f => .ok f
  | .error e => if f.isDirectory p then .ok f else .error e

/-- `ensureDirectory` for a path and for `depth` of the directories above it. -/
def makeDirectoriesUpTo (f : Files) : Nat → Path → Except FileError Files
  | 0, p => f.ensureDirectory p
  | depth + 1, p =>
    if p.text.isEmpty then .ok f
    else match f.ensureDirectory p with
      | .ok f => .ok f
      -- the directory above is missing, so it is made first
      | .error .notFound =>
        match p.parent? with
        | none => .error .notFound
        | some dir =>
          match makeDirectoriesUpTo f depth dir with
          | .ok f => f.ensureDirectory p
          | .error e => .error e
      | .error e => .error e

/-- **Makes a directory and those above it**, if they are not there yet, by `makeDirectoriesUpTo` all of them. -/
def makeDirectories (f : Files) (p : Path) : Except FileError Files :=
  f.makeDirectoriesUpTo (p.components.length + 1) p

/-- What `makeDirectoriesUpTo` leaves where it fails: some of the directories above the path may have been made. -/
def leftUpTo (f : Files) : Nat → Path → Files
  | 0, _ => f
  | depth + 1, p =>
    match f.ensureDirectory p, p.parent? with
    | .error .notFound, some dir =>
      match f.makeDirectoriesUpTo depth dir with
      -- only the directory itself could not be made
      | .ok above => above
      | .error _ => leftUpTo f depth dir
    | _, _ => f

/-- **What `makeDirectories` leaves where it fails.** -/
def directoriesLeft (f : Files) (p : Path) : Files := f.leftUpTo (p.components.length + 1) p

/-- Writes a file, through a link if there is one. -/
def write (f : Files) (p : Path) (content : String) : Except FileError Files :=
  match f.locate true p with
  | .error e => .error e
  | .ok (.vacant l) => .ok (f.put l (.text content))
  | .ok (.found _ .directory) => .error .isADirectory
  | .ok (.found l _) => .ok (f.put l (.text content))

/-- Where a name of a directory can be given to a file. -/
def replaceableIn (f : Files) (l : Location) (name : String) : Except FileError Location :=
  match f.entry? (l ++ [name]) with
  | some .directory => .error .isADirectory
  | _ => .ok (l ++ [name])

/-- **Where a file can be put by its name**, instead of the file or the link that is there: `replaceableIn` the
directory that the names before it lead to. -/
def replaceable (f : Files) (p : Path) : Except FileError Location :=
  if p.text.isEmpty then .error .notFound
  else if p.isUnusable then .error .invalidPath
  else match (namesWithoutEnd p).reverse with
    | [] => .error .busy
    | last :: front =>
      match f.walk true maxLinks (f.start p) front.reverse with
      | .error e => .error e
      | .ok (.vacant _) => .error .notFound
      | .ok (.found l .directory) =>
        -- such a name is that of a directory, which is in use
        if last = "." ∨ last = ".." then .error .busy
        else if maxNameBytes < last.utf8ByteSize then .error .nameTooLong
        -- a slash at the end asks for a directory
        else if p.names.getLast? = some "" then .error .notADirectory
        else f.replaceableIn l last
      | .ok (.found _ _) => .error .notADirectory

/-- Removes what a path names, a link itself and a directory with all in it. -/
def remove (f : Files) (p : Path) : Files :=
  match f.locate false p with
  | .ok (.found l _) => f.erase l
  | _ => f

end Files

end RouteContracts
