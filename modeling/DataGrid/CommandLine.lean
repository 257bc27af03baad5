import DataGrid.Script
import DataGrid.Text.Utf8
import DataGrid.View

/-!
# The command line

The program loads a table, does the interactions of a script if there is one, and writes a report of
the grid.  `Invocation.ofArguments` says what the arguments ask for and `Invocation.run` what
comes of it, given the files.
-/

namespace DataGrid

/-- How the program is called. -/
def usage : String :=
  "Usage: vgrid_cli <input.csv|input.tsv> [--config cfg.json] [--script ops.json] [--size WxH] " ++
    "[-o output.json]"

/-- What the arguments of the program ask for. -/
structure Invocation where
  input : String
  config? : Option String
  script? : Option String
  /-- The width and the height of the viewport. -/
  size? : Option (Float32 × Float32)
  /-- The file for the report. -/
  output? : Option String

/-- Why the program gives up. -/
inductive CommandFailure where
  | noInput
  | missingValue (option : String)
  | badSize (text : String)
  | unknownOption (option : String)
  | unreadable (path reason : String)
  | badConfig (path : String) (cause : GridError)
  | badInput (path : String) (cause : GridError)
  | badScript (path : String) (cause : GridError)
  | unwritable (path reason : String)

namespace CommandFailure

/-- The text shown for a failure. -/
def message : CommandFailure → String
  | .noInput => usage
  | .missingValue option => "Missing value for " ++ option ++ "\n" ++ usage
  | .badSize text => "Bad --size " ++ text ++ ", expected WxH"
  | .unknownOption option => "Unknown option " ++ option ++ "\n" ++ usage
  | .unreadable path reason => "Error reading " ++ path ++ ": " ++ reason
  | .badConfig path cause => "Error parsing config " ++ path ++ ": " ++ cause.message
  | .badInput path cause => "Error loading " ++ path ++ ": " ++ cause.message
  | .badScript path cause => "Error parsing script " ++ path ++ ": " ++ cause.message
  | .unwritable path reason => "Error writing " ++ path ++ ": " ++ reason

end CommandFailure

namespace Invocation

/-- A size such as `800x600`: two numbers with an `x` between them. -/
def size (text : String) : Option (Float32 × Float32) :=
  let chars := text.toList
  match chars.dropWhile (· ≠ 'x') with
  | [] => none
  | _ :: height => do
    let width ← Decimal.Numeral.read? (chars.takeWhile (· ≠ 'x'))
    let height ← Decimal.Numeral.read? height
    return (width.toFloat32, height.toFloat32)

/-- Take one option with its value in. -/
def withOption (i : Invocation) (option value : String) : Except CommandFailure Invocation :=
  match option with
  | "--config" => .ok { i with config? := some value }
  | "--script" => .ok { i with script? := some value }
  | "--size" =>
    match size value with
    | some s => .ok { i with size? := some s }
    | none => .error (.badSize value)
  | "-o" => .ok { i with output? := some value }
  | _ => .error (.unknownOption option)

/-- Take options in, of which a later one counts more than an earlier one. -/
def withOptions (i : Invocation) : List String → Except CommandFailure Invocation
  | [] => .ok i
  | [option] => .error (.missingValue option)
  | option :: value :: rest =>
    match i.withOption option value with
    | .ok i => i.withOptions rest
    | .error e => .error e

/-- What the arguments ask for. -/
def ofArguments : List String → Except CommandFailure Invocation
  | [] => .error .noInput
  | input :: options => withOptions ⟨input, none, none, none, none⟩ options

/-- The files that are read. -/
def paths (i : Invocation) : List String := i.config?.toList ++ [i.input] ++ i.script?.toList

end Invocation

/-- The bytes of files, or why they cannot be read. -/
abbrev Files := String → Except String ByteArray

/-- The bytes of a file. -/
def Files.read (files : Files) (path : String) : Except CommandFailure ByteArray :=
  (files path).mapError (.unreadable path)

/-- The settings of a file. -/
def Files.config (files : Files) (path : String) : Except CommandFailure (Config Float32) := do
  let bytes ← files.read path
  (Config.read (Text.Utf8.decode bytes.toList)).mapError (.badConfig path)

/-- The grid over the table of a file. -/
def Files.table (files : Files) (path : String) (config : Config Float32) :
    Except CommandFailure View := do
  let bytes ← files.read path
  (Grid.ofText (.ofPath path) (Text.Utf8.decode bytes.toList) config).mapError (.badInput path)

/-- The script of a file, whose bytes have to be text. -/
def Files.script (files : Files) (path : String) : Except CommandFailure Script := do
  let bytes ← files.read path
  match String.fromUTF8? bytes with
  | some text => (Script.read text.toList).mapError (.badScript path)
  | none => .error (.badScript path .json)

/-- What comes of a call of the program. -/
structure CommandResult where
  /-- What is said of interactions that failed. -/
  messages : List String
  report : String

/-- What is said of an interaction that failed. -/
def failedMessage (index : Nat) (e : GridError) : String :=
  "Op " ++ toString index ++ " failed: " ++ e.message

/-- Load the table, do the interactions and report. -/
def Invocation.run (i : Invocation) (files : Files) : Except CommandFailure CommandResult := do
  let config ←
    match i.config? with
    | some path => files.config path
    | none => .ok Config.default
  let loaded ← files.table i.input config
  let (_, listening) := Grid.subscribe loaded
  let sized :=
    match i.size? with
    | some (width, height) => (listening.perform (.resizeViewport width height)).grid
    | none => listening
  let script ←
    match i.script? with
    | some path => files.script path
    | none => .ok []
  let (final, failed) := sized.replay 0 script
  return ⟨failed.map fun f => failedMessage f.1 f.2, (Report.grid final).pretty⟩

end DataGrid
