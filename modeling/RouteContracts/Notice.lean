import RouteContracts.Text.Quoted

/-! # Notices
What an operation wants a developer to know without failing. Operations return their notices as data, in
the order in which they arose; a program decides what to do with them.

* `Notice.level`, `Notice.message`, `Notice.fields`: how a notice is logged.
* `Notice.line`: how it is shown. -/

namespace RouteContracts

/-- How much a notice matters. -/
inductive NoticeLevel where
  | warning
  | error
deriving DecidableEq, Repr

/-- Something a developer should know. -/
inductive Notice where
  /-- A field's schema could not be resolved; anything is accepted there. -/
  | unresolvedField (field : String)
  /-- A schema is declared for a method that the endpoint file does not export. -/
  | schemaWithoutExport (file method : String)
  /-- The schema of a method could not be resolved. -/
  | unresolvedSchema (file method : String)
  /-- The query shape of a method is no object. -/
  | queryNotObject (file method : String)
  /-- Some query fields have a shape that a query string cannot carry. -/
  | queryFields (file method : String) (fields : List String)
  /-- A companion file declares another route than the one its place implies. -/
  | routeDisagrees (file declared derived : String)
  /-- A route parameter is declared with a type other than text. -/
  | paramNotText (file param type : String)
  /-- An endpoint file could not be analyzed. -/
  | analysisFailed (file : String)
  /-- A request had a body although its method carries none. -/
  | bodyDropped (method pattern : String)
  /-- A check failed only because no query was there. -/
  | queryMissing
deriving DecidableEq, Repr

namespace Notice

/-- How much the notice matters. -/
def level : Notice → NoticeLevel
  | .queryMissing => .error
  | .analysisFailed _ => .error
  | _ => .warning

/-- The text of the notice. -/
def message : Notice → String
  | .unresolvedField _ => "unresolved field type, treating as any"
  | .schemaWithoutExport _ _ => "schema declared for a method the file does not export"
  | .unresolvedSchema _ _ => "schema could not be resolved"
  | .queryNotObject _ _ => "the field \x60searchParams\x60 has to be an object schema"
  | .queryFields _ _ _ =>
    "some \x60searchParams\x60 fields are not string-compatible, validation may fail"
  | .routeDisagrees _ _ _ => "companion ROUTE_ID disagrees with the file location"
  | .paramNotText _ _ _ => "route parameter is not a string, treating it as one"
  | .analysisFailed _ => "analysis failed"
  | .bodyDropped _ _ => "dropping body, the method carries none"
  | .queryMissing =>
    "validation failed on \x60searchParams\x60 only; was the request URL passed to validate?"

/-- The named details of the notice. -/
def fields : Notice → List (String × String)
  | .unresolvedField field => [("field", field)]
  | .schemaWithoutExport file method => [("file", file), ("method", method)]
  | .unresolvedSchema file method => [("file", file), ("method", method)]
  | .queryNotObject file method => [("file", file), ("method", method)]
  | .queryFields file method fields =>
    [("file", file), ("method", method), ("fields", Text.quotedList fields)]
  | .routeDisagrees file declared derived =>
    [("file", file), ("declared", declared), ("derived", derived)]
  | .paramNotText file param type => [("file", file), ("param", param), ("ty", type)]
  | .analysisFailed file => [("file", file)]
  | .bodyDropped method pattern => [("method", method), ("pattern", pattern)]
  | .queryMissing => []

/-- The line that shows a notice. -/
def line (n : Notice) : String :=
  (match n.level with
    | .warning => "WARN "
    | .error => "ERROR ") ++
    n.message ++ String.join (n.fields.map fun f => " " ++ f.1 ++ "=" ++ f.2)

end Notice

end RouteContracts
