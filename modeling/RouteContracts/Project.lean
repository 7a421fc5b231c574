import RouteContracts.Config
import RouteContracts.Files
import RouteContracts.Text.Utf8

/-! # Projects
The endpoint files of a project and the URL patterns that they serve. A file below the routes directory
serves the path from there to its directory; directories in parentheses are **groups**, which do not
appear in URLs.

* `Project.routeId?`: the URL pattern of an endpoint file.
* `Project.companion?`: the place of its companion file.
* `Project.discover`: all endpoint files. -/

namespace RouteContracts

/-- Where the files of a project are. -/
structure Project where
  /-- The root, as an absolute path. -/
  root : Path
  /-- The directory with the endpoint files. -/
  routesDir : Path
  /-- The name of endpoint files. -/
  endpointFile : String
  /-- The directory with the companion files. -/
  typesDir : Path
  /-- The name of companion files. -/
  typesFile : String
deriving DecidableEq, Repr, Inhabited

/-- Whether a directory is a group: something in parentheses. -/
def isGroup (name : String) : Bool :=
  name.toList.head? == some '(' && name.toList.getLast? == some ')' && decide (2 < name.length)

namespace Project

/-- The project of some settings, seen from a directory. -/
def ofConfig (here : Path) (c : Config) : Project :=
  let c := { c with root := c.root.absolute here }
  { root := c.root
    routesDir := c.routesPath
    endpointFile := c.endpointFile
    typesDir := c.resolve c.typesDir
    typesFile := c.typesFile }

/-- `p.root.join path`. -/
def absolute (p : Project) (path : Path) : Path := p.root.join path

/-! ## URL patterns -/

/-- `files.canonical` of a file, or of its directory with the name behind it where the file is not there. -/
def canonicalOrNew? (files : Files) (path : Path) : Option Path :=
  match files.canonical path with
  | .ok c => some c
  | .error _ =>
    match files.canonical (path.parent?.getD ⟨"/"⟩) with
    -- the file itself may be gone
    | .ok dir => some (dir.join ⟨path.fileName?.getD ""⟩)
    | .error _ => none

/-- **The path from the routes directory to a file**: `within?` by the names in the paths or, if these do not show it,
by where both paths lead, `canonicalOrNew?`. -/
def withinRoutes? (files : Files) (p : Project) (path : Path) : Option Path :=
  let absolute := (p.absolute path).withoutDots
  let routes := p.routesDir.withoutDots
  match absolute.within? routes with
  | some relative => some relative
  | none =>
    match files.canonical routes with
    | .error _ => none
    | .ok routes => (canonicalOrNew? files absolute).bind fun c => c.within? routes

/-- **The part of a URL pattern that the bytes of a name give**: their text by `Utf8.decodeLossy`, with `'/'` for `'\\'`.
Bytes that are no UTF-8 become `U+FFFD`, so different ones may give the same part. -/
def segmentOfBytes (name : List UInt8) : String :=
  (Utf8.decodeLossy name).map fun c => if c = '\\' then '/' else c

/-- `segmentOfBytes` of the UTF-8 name of a `.normal` component; other components give none. So `..` gives no part. -/
def segment? : Component → Option String
  | .normal name => some (segmentOfBytes (Utf8.encode name))
  | _ => none

/-- The URL pattern of a directory below the routes directory: the `segment?` of each component that is no `isGroup`,
with slashes between them. -/
def patternOf (dir : Path) : String :=
  "/" ++ "/".intercalate ((dir.components.filterMap segment?).filter fun s => !isGroup s)

/-- **The URL pattern of an endpoint file**: `patternOf` the directory that it is in, by `withinRoutes?`. None for files
of other names, and for files that are not below the routes directory. -/
def routeId? (files : Files) (p : Project) (path : Path) : Option String :=
  if path.fileName? = some p.endpointFile then
    ((p.withinRoutes? files path).bind Path.parent?).map patternOf
  else none

/-- Whether there is a `routeId?`. -/
def isEndpoint (files : Files) (p : Project) (path : Path) : Bool := (p.routeId? files path).isSome

/-! ## Companion files -/

/-- The companion file for the directory `relative` below the root. -/
def companionIn (p : Project) (relative : Path) : Path :=
  (p.typesDir.join relative).join ⟨p.typesFile⟩

/-- The place of the companion file by `withinRoutes?`, for a path whose names do not show it. -/
def companionByRoutes? (files : Files) (p : Project) (path : Path) : Option Path := do
  let routes ← p.routesDir.withoutDots.within? p.root.withoutDots
  let dir ← (← p.withinRoutes? files path).parent?
  some (((p.typesDir.join routes).join dir).join ⟨p.typesFile⟩)

/-- **The place of the companion file of an endpoint**: `companionIn` the path from the root to the endpoint's
directory, or `companionByRoutes?` where the names do not show that one is below the other. -/
def companion? (files : Files) (p : Project) (path : Path) : Option Path := do
  let dir ← (p.absolute path).parent?
  match dir.withoutDots.within? p.root.withoutDots with
  | some relative => some (p.companionIn relative)
  | none => p.companionByRoutes? files path

/-! ## Discovery -/

/-- The entry of a child of a directory, and of what a link leads to. -/
def target? (files : Files) (dir : Location) (name : String) (e : Entry) : Option (Location × Entry) :=
  match e with
  | .link _ =>
    match files.walk true Files.maxLinks dir [name] with
    | .ok (.found l e) => some (l, e)
    | _ => none
  | e => some (dir ++ [name], e)

/-- The files below a directory, `depth` levels down, by `target?`. Links are followed, but not to a directory that
leads to them (`above`). -/
def filesBelow (files : Files) : Nat → List Location → Location → Path → List Path
  | 0, _, _, _ => []
  | depth + 1, above, dir, path =>
    (files.children dir).flatMap fun child =>
      let below := path.join ⟨child.1⟩
      match target? files dir child.1 child.2 with
      | some (l, .directory) =>
        match child.2 with
        -- a link to a directory on the way would lead on for ever
        | .link _ => if (dir :: above).contains l then [] else filesBelow files depth (dir :: above) l below
        | _ => filesBelow files depth (dir :: above) l below
      | some (_, .text _) | some (_, .bytes _) => [below]
      | _ => []

/-- How deep a directory can lead: every link on the way leads to another directory. -/
def maxDepth (files : Files) : Nat := (files.entries.length + 2) * (files.entries.length + 2)

/-- `filesBelow` a directory, and the path itself of a file. -/
def filesAt (files : Files) (path : Path) : List Path :=
  match files.find? path with
  | some (l, .directory) => filesBelow files (maxDepth files) [] l path
  | some (_, .text _) | some (_, .bytes _) => [path]
  | _ => []

/-- **The endpoint files**: those of `filesAt` the routes directory that have the name of endpoint files, sorted by
`Path.before`. -/
def discover (files : Files) (p : Project) : List Path :=
  ((filesAt files p.routesDir).filter fun path => path.fileName? == some p.endpointFile).mergeSort Path.before

end Project

end RouteContracts
