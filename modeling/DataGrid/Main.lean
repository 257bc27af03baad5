import DataGrid.CommandLine

/-!
# The program
-/

open DataGrid

/-- The bytes of a file, or why it cannot be read. -/
def readBytes (path : String) : IO (Except String ByteArray) := do
  try
    return .ok (← IO.FS.readBinFile path)
  catch e =>
    return .error e.toString

/-- Give up. -/
def giveUp (f : CommandFailure) : IO UInt32 := do
  IO.eprintln f.message
  return 1

/-- Write the report where it is wanted. -/
def deliver (i : Invocation) (report : String) : IO UInt32 := do
  match i.output? with
  | none =>
    IO.println report
    return 0
  | some path =>
    try
      IO.FS.writeFile path report
      IO.eprintln ("Written: " ++ path)
      return 0
    catch e =>
      giveUp (.unwritable path e.toString)

/-- Do what the arguments ask for. -/
def main (arguments : List String) : IO UInt32 := do
  match Invocation.ofArguments arguments with
  | .error f => giveUp f
  | .ok i =>
    let contents ← i.paths.mapM fun path => do return (path, ← readBytes path)
    let files : Files := fun path =>
      ((contents.find? (·.1 = path)).map (·.2)).getD (.error "no such file")
    match i.run files with
    | .error f => giveUp f
    | .ok result =>
      result.messages.forM fun line => IO.eprintln line
      deliver i result.report
