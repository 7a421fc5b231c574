import RouteContracts.Program.Snapshot

/-! Command line: runs the program on the snapshot of a project that the standard input holds, and prints the
files that it changes. -/

/-- Runs the program with some arguments. -/
def main (arguments : List String) : IO UInt32 := do
  let given ← (← IO.getStdin).readToEnd
  match (RouteContracts.Json.read? given).bind RouteContracts.Snapshot.ofJson? with
  | none =>
    IO.eprintln "the standard input holds no project"
    return 2
  | some s =>
    let surroundings := RouteContracts.EmitSurroundings.calm ".artifact-in-progress"
    for notice in RouteContracts.Program.notices s.files s.environment arguments s.input do
      IO.eprintln notice.line
    let (exit, files) := RouteContracts.Program.run surroundings s.files s.environment arguments s.input
    IO.println (RouteContracts.Snapshot.changes s.files files).write
    if let .failure why := exit then IO.eprintln why.line
    return exit.code.toUInt32
