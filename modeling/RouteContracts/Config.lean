import RouteContracts.Path
import RouteContracts.Text.Quoted
import RouteContracts.Yaml.Settings

/-! # Settings of a project
Where the endpoint files of a project are, where their companion files are looked up, and where the
artifact goes. Paths are relative to the root unless they are absolute.

* `Config.ofSettings?`, `Config.load`: from a settings file. `Config.check`: what is rejected.
* `Config.resolve`: a path of the project. -/

namespace RouteContracts

/-- The settings of a project. -/
structure Config where
  /-- The root of the project. -/
  root : Path
  /-- The directory with the endpoint files. -/
  routesDir : Path
  /-- The name of endpoint files. -/
  endpointFile : String
  /-- The directory with the companion files. -/
  typesDir : Path
  /-- The name of companion files. -/
  typesFile : String
  /-- The artifact. -/
  artifact : Path
  /-- The path of the library that the artifact refers to. -/
  runtime : String
  /-- How long nothing may change before changes are written, in milliseconds. -/
  window : Nat
deriving DecidableEq, Repr, Inhabited

/-- Why settings cannot be used. -/
inductive ConfigError where
  /-- The file cannot be read. -/
  | unreadable
  /-- The file holds no settings. -/
  | unfit
  /-- The name of endpoint files is no name. -/
  | endpointFile (name : String)
  /-- The name of companion files is no name. -/
  | typesFile (name : String)
  /-- No library is given. -/
  | runtime
deriving DecidableEq, Repr

/-- What is reported for settings that are rejected. -/
def ConfigError.message? : ConfigError → Option String
  | .unreadable | .unfit => none
  | .endpointFile name =>
    some ("Config Error: endpoint_file must be a bare file name, got " ++ Text.quoted name)
  | .typesFile name =>
    some ("Config Error: types_file must be a bare file name, got " ++ Text.quoted name)
  | .runtime => some "Config Error: runtime_crate must not be empty"

namespace Config

/-- The name of the settings file in the root of a project. -/
def fileName : String := "routegen.yml"

/-- The settings of a project without a settings file. -/
def default : Config where
  root := ⟨"."⟩
  routesDir := ⟨"src/routes"⟩
  endpointFile := "server.rs"
  typesDir := ⟨".routegen/types"⟩
  typesFile := "types.rs"
  artifact := ⟨"src/api.rs"⟩
  runtime := "routegen"
  window := 300

/-- The same settings for another root. -/
def forRoot (root : Path) : Config := { default with root }

/-- The names of the settings, in order. -/
def keys : List String :=
  ["root", "routes_dir", "endpoint_file", "types_dir", "types_file", "artifact", "runtime_crate",
   "debounce_ms"]

/-- Sets a setting to a text; the window is no text. -/
def setText? (c : Config) (key value : String) : Option Config :=
  match key with
  | "root" => some { c with root := ⟨value⟩ }
  | "routes_dir" => some { c with routesDir := ⟨value⟩ }
  | "endpoint_file" => some { c with endpointFile := value }
  | "types_dir" => some { c with typesDir := ⟨value⟩ }
  | "types_file" => some { c with typesFile := value }
  | "artifact" => some { c with artifact := ⟨value⟩ }
  | "runtime_crate" => some { c with runtime := value }
  | _ => none

/-- The name of the setting that is a number. -/
def windowKey : String := "debounce_ms"

/-- The largest number that a setting can have. -/
def largestWindow : Nat := 18446744073709551615

/-! ## Numbers -/

/-- The number that digits of a base denote. -/
def digitsValue? (base : Nat) (digits : List Char) : Option Nat :=
  if digits.isEmpty then none
  else digits.foldlM (fun n c => (Json.hexValue? c).bind fun d => if d < base then some (n * base + d) else none) 0

/-- The number that follows the mark of a base. -/
def basedValue? : List Char → Option Nat
  | '0' :: 'x' :: rest => digitsValue? 16 rest
  | '0' :: 'o' :: rest => digitsValue? 8 rest
  | '0' :: 'b' :: rest => digitsValue? 2 rest
  | _ => none

/-- The number of a decimal; a zero may not lead others. -/
def decimalValue? (digits : List Char) : Option Nat :=
  match digits with
  | '0' :: _ :: _ => if digits.all Char.isDigit then none else digitsValue? 10 digits
  | _ => digitsValue? 10 digits

/-- The digits after a plus sign. -/
def withoutPlus : List Char → List Char
  | '+' :: rest => rest
  | s => s

/-- Whether a number is in range. -/
def inRange (n : Option Nat) : Option Nat := n.filter fun n => decide (n ≤ largestWindow)

/-- The number of a text. -/
def number? (s : String) : Option Nat :=
  let digits := withoutPlus s.toList
  (inRange (basedValue? digits)).or (inRange (decimalValue? digits))

/-! ## Settings files -/

/-- Sets a setting as a settings file gives it. -/
def set? (c : Config) (key : String) (value : Yaml.Scalar) : Option Config :=
  if key = windowKey then
    match value.style with
    | .plain => (number? value.text).map fun n => { c with window := n }
    | .marked => none
  else c.setText? key value.text

/-- Sets settings in order, none of them twice. -/
def setAll? (c : Config) (seen : List String) : Yaml.Settings → Option Config
  | [] => some c
  | (key, value) :: rest => do
    if seen.contains key.text then none
    else
      let c ← c.set? key.text value
      setAll? c (key.text :: seen) rest

/-- **The settings of a settings file**; what it does not set is as without a file. -/
def ofText? (text : String) : Option Config := do
  let settings ← Yaml.settings? text
  setAll? default [] settings

/-- Whether a name stands for a file in a directory. -/
def isBareName (name : String) : Bool :=
  !name.isEmpty && name.toList.all fun c => c ≠ '/' && c ≠ '\\'

/-- **Rejects settings that cannot be worked with.** -/
def check (c : Config) : Except ConfigError Unit :=
  if !isBareName c.endpointFile then .error (.endpointFile c.endpointFile)
  else if !isBareName c.typesFile then .error (.typesFile c.typesFile)
  else if c.runtime.isEmpty then .error .runtime
  else .ok ()

/-- The settings with a relative root below the directory of their file. -/
def atFile (c : Config) (file : Path) : Config :=
  if c.root.isAbsolute then c
  else match file.parent? with
    | some dir => { c with root := dir.join c.root }
    | none => c

/-- **The settings in a file** with this content, if it can be read. -/
def load (file : Path) (content : Option String) : Except ConfigError Config :=
  match content with
  | none => .error .unreadable
  | some text =>
    match ofText? text with
    | none => .error .unfit
    | some c =>
      let c := c.atFile file
      match c.check with
      | .ok () => .ok c
      | .error e => .error e

/-- **A path of the project.** -/
def resolve (c : Config) (p : Path) : Path := c.root.join p

/-- The directory with the endpoint files. -/
def routesPath (c : Config) : Path := c.resolve c.routesDir

/-- The artifact. -/
def artifactPath (c : Config) : Path := c.resolve c.artifact

end Config

end RouteContracts
