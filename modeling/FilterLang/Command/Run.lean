import FilterLang.Catalog.Document
import FilterLang.Command
import FilterLang.Display.Difference
import FilterLang.Display.Listing
import FilterLang.Display.Report
import FilterLang.Display.Update
import FilterLang.Folder
import FilterLang.Record
import FilterLang.Session.EditLoop
import FilterLang.Settings.File
import FilterLang.Text.Blank
import FilterLang.Text.Lines
import FilterLang.Token.Document
import FilterLang.Tree.Render
import FilterLang.Validation

/-!
# Running commands

A command takes what it needs from its `Surroundings`, the files, the input and the server, and
gives a text and whether all was well. It fails where it cannot do its work at all: an expression
that is wrong is no failure of `validate`, whose work is to say so.

Settings are read first, whatever the command is, so a file of settings that is no good stops every
command.
-/

namespace FilterLang.Command

/-- What commands find around them. -/
structure Surroundings where
  /-- The text of a file. -/
  read : String → Except FileFault String
  /-- The text of the input. -/
  input : Except FileFault String
  /-- What a server replies to a question. -/
  ask : ServerSettings → Server.Question → Server.Reply
  /-- Whether the output goes to a terminal. -/
  terminal : Bool

/-- What a command gives. -/
structure Output where
  text : String
  /-- Whether all was well. -/
  ok : Bool := true
  deriving Repr, DecidableEq

/-! ### Faults -/

/-- Why a command cannot do its work. -/
inductive RunFault where
  | settings (path : String) (f : Settings.Fault)
  | expression (e : ParseError)
  | file (path : String) (f : FileFault)
  | input (f : FileFault)
  | tree (e : LoadError)
  | test (f : Server.Failure)
  deriving Repr

namespace RunFault

/-- The words for what was wrong with a document. What is wrong with the notation itself is not
said. -/
def documentCauses : LoadError → List String
  | .text _ => []
  | .shape m => ["Invalid condition tree JSON: " ++ m.message, m.message]
  | .node f => ["Invalid condition tree JSON: " ++ f.message, f.message]
  | .tree f => [f.message]

/-- The words for a fault and for what caused it, the cause last. -/
def chain : RunFault → List String
  | settings path (.unreadable f) =>
    ["Failed to load config", "Failed to read config file '" ++ path ++ "': " ++ f.message,
      f.message]
  | settings _ .malformed => ["Failed to load config"]
  | expression e => ["Failed to parse filter expression", e.message]
  | file path f => ["Failed to read input file '" ++ path ++ "'", f.message]
  | input f => ["Failed to read stdin", f.message]
  | tree e => "Failed to load condition tree" :: documentCauses e
  | test f => "Filter test request failed" :: f.chain

/-- The words for a fault. -/
def message (f : RunFault) : String := ": ".intercalate f.chain

end RunFault

/-! ### What commands share -/

/-- The settings that a command runs under. -/
def settingsOf (s : Surroundings) (i : Invocation) : Except RunFault Settings :=
  match i.config with
  | none => .ok .default
  | some path => (Settings.ofFile (s.read path)).mapError (.settings path)

/-- The catalog that is known without a server. -/
def localCatalog (i : Invocation) (c : Settings) : Catalog :=
  match i.fields with
  | some names => .ofNames (names.map Text.trimmed)
  | none => c.fields.catalog

/-- The catalog of a command that may ask the server. It is not asked where the fields are given. -/
def sharedCatalog (s : Surroundings) (i : Invocation) (c : Settings) : Catalog :=
  match i.fields with
  | some _ => localCatalog i c
  | none => Server.catalogOf c.fields (s.ask c.server .fields)

/-- The tree of an expression. -/
def treeOf (expression : String) : Except RunFault Tree :=
  (Tree.parse expression).mapError .expression

/-- A text and the end of its line. -/
def line (text : String) : String := text ++ "\n"

/-- The output in the form that is asked for. -/
def Output.ofFormat (i : Invocation) (text : Bool → String) (json : Json) (terminal : Bool) :
    Output :=
  match i.format with
  | .text => ⟨text (i.color.shows terminal), true⟩
  | .json => ⟨line json.pretty, true⟩

/-! ### The commands -/

/-- The validation of an expression. The server is asked about one that is correct by itself. -/
def validation (s : Surroundings) (i : Invocation) (c : Settings) (expression : String)
    (asksServer : Bool) : Validation :=
  if asksServer then
    let result := Validation.ofText (sharedCatalog s i c) expression
    let request := Server.Request.ofSettings c.editor expression
    if result.valid then result.merge (Server.verdictOf request (s.ask c.server (.check request)))
    else result
  else .ofText (localCatalog i c) expression

/-- What is shown while the lines of the input are taken as edits. -/
def updates (s : Surroundings) (i : Invocation) (c : Settings) (input : String) : List Update :=
  let session := Session.start (sharedCatalog s i c) c.editor
  let reply (r : Server.Request) : TimedReply := ⟨0, s.ask c.server (.check r)⟩
  (Timeline.start session [] reply).transcript c.patience (Text.inputLines input)

/-- The text that a tree is read from. -/
def sourceText (s : Surroundings) (source : String) : Except RunFault String :=
  if source == "-" then s.input.mapError .input else (s.read source).mapError (.file source)

/-- Runs a command under its settings. -/
def runWith (s : Surroundings) (i : Invocation) (c : Settings) : Except RunFault Output := do
  let output (text : Bool → String) (json : Json) := Output.ofFormat i text json s.terminal
  match i.command with
  | .tokenize expression =>
    let catalog := localCatalog i c
    let ts := FilterLang.tokenize catalog expression
    return output (Display.tokens · catalog ts) (Token.listToJson catalog ts)
  | .validate expression asksServer =>
    let result := validation s i c expression asksServer
    return { output (Display.validation · expression result) result.toJson with ok := result.valid }
  | .toTree expression inEnvelope =>
    let t ← treeOf expression
    return ⟨line (if inEnvelope then t.envelope else t.toJson).pretty, true⟩
  | .toText source =>
    let t ← (Tree.load (← sourceText s source)).mapError .tree
    return output (fun _ ↦ line t.render) (.obj [("text", .str t.render)])
  | .normalize expression =>
    let canonical := (← treeOf expression).render
    return output (Display.normalization · expression canonical)
      (.obj [("canonical", .str canonical), ("changed", .bool (expression != canonical)),
        ("input", .str expression)])
  | .test expression =>
    let reply := s.ask c.server (.test (.ofSettings c.editor expression))
    let response ← (Server.decoded .test Server.TestResponse.ofJson reply).mapError .test
    return { output (Display.channels · response) response.toJson with ok := response.isValid }
  | .fields =>
    let catalog := sharedCatalog s i c
    return output (fun _ ↦ Display.fields catalog) catalog.toJson
  | .edit =>
    let shown (u : Update) : String :=
      match i.format with
      | .text => Display.update (i.color.shows s.terminal) u
      | .json => u.toJson.compact
    return ⟨String.join ((updates s i c (← s.input.mapError .input)).map (line ∘ shown)), true⟩

/-- Runs a command. -/
def run (s : Surroundings) (i : Invocation) : Except RunFault Output := do
  runWith s i (← settingsOf s i)

end FilterLang.Command
