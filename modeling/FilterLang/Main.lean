import FilterLang.Command.Arguments
import FilterLang.Command.Run

/-!
# The command line

Reads the files that a command needs, runs it, and prints what it gives. No connections are opened
here, so every server is out of reach.
-/

open FilterLang

/-- How the program is used. -/
def usage : String :=
  "Write, check and convert channel filter expressions\n\n" ++
  "Usage: filterlang [OPTIONS] <COMMAND>\n\n" ++
  "Commands:\n" ++
  "  tokenize <EXPRESSION>            Split an expression into classified tokens\n" ++
  "  validate [--server] <EXPRESSION> Validate an expression and report every problem found\n" ++
  "  to-tree [--envelope] <EXPRESSION> Convert an expression to its condition tree\n" ++
  "  to-text <INPUT>                  Render a stored tree, envelope or filter record as text\n" ++
  "  normalize <EXPRESSION>           Print the normal form of an expression and what changed\n" ++
  "  test <EXPRESSION>                Run an expression against the source on the server\n" ++
  "  fields                           List the fields an expression may use\n" ++
  "  edit                             Validate each line of the input as an edit\n\n" ++
  "Options:\n" ++
  "      --config <CONFIG>  Settings file (TOML)\n" ++
  "      --format <FORMAT>  Output format: text, json\n" ++
  "      --color <COLOR>    When to use colors: auto, always, never\n" ++
  "      --fields <FIELDS>  Names of fields, comma separated\n" ++
  "  -v, --verbose          Say more\n" ++
  "  -h, --help             Print help\n" ++
  "  -V, --version          Print version\n"

/-- Why a file cannot be read, from what the system says. A folder can be opened and not read, and
below a file nothing can be opened; only where opening fails the system names the path. -/
def faultOf : IO.Error → FileFault
  | .noFileOrDirectory _ _ _ => .missing
  | .permissionDenied _ _ _ => .denied
  | .inappropriateType path _ _ => if path.isSome then .notFolder else .folder
  | e => .other e.toString

/-- Reads a text. -/
def readText (read : IO ByteArray) : IO (Except FileFault String) := do
  try return textOf (← read) catch e => return .error (faultOf e)

/-- Runs a command on what it reads, and prints what it gives. -/
def runCommand (i : Invocation) : IO UInt32 := do
  let stdout ← IO.getStdout
  let files ← i.paths.mapM fun (path : String) ↦ do
    return (path, ← readText (IO.FS.readBinFile path))
  let input ←
    if i.readsInput then readText (do (← IO.getStdin).readBinToEnd) else pure (.ok "")
  let surroundings : Command.Surroundings :=
    { read := fun path ↦ (files.lookup path).getD (.error .missing)
      input := input
      ask := Server.offline
      terminal := ← stdout.isTty }
  match Command.run surroundings i with
  | .ok output =>
    stdout.putStr output.text
    return if output.ok then 0 else 1
  | .error f =>
    IO.eprintln ("Error: " ++ f.message)
    return 1

def main (args : List String) : IO UInt32 := do
  match Arguments.parse args with
  | .ok i =>
    let standard ← IO.getEnv "CHANNEL_FILTER_CONFIG"
    runCommand { i with config := i.config <|> standard }
  | .error .helpWanted =>
    IO.print usage
    return 0
  | .error .versionWanted =>
    IO.println "filterlang 0.1.0"
    return 0
  | .error .nothingGiven =>
    IO.eprint usage
    return 2
  | .error f =>
    IO.eprintln ("error: " ++ f.message)
    return 2
