/-!
# Commands

What can be asked of the program: one of eight commands, and how its output is written. An
expression is part of its command; a tree comes from a file or from the input.
-/

namespace FilterLang

/-! ### How output is written -/

/-- The forms of output. -/
inductive Format where
  /-- For reading. -/
  | text
  /-- For other programs. -/
  | json
  deriving Repr, DecidableEq

/-- The form of a name. -/
def Format.ofName? : String → Option Format
  | "text" => some text
  | "json" => some json
  | _ => none

/-- When colours are shown. -/
inductive ColorMode where
  /-- Where the output goes to a terminal. -/
  | auto
  | always
  | never
  deriving Repr, DecidableEq

namespace ColorMode

/-- The mode of a name. -/
def ofName? : String → Option ColorMode
  | "auto" => some auto
  | "always" => some always
  | "never" => some never
  | _ => none

/-- Whether colours are shown. -/
def shows (terminal : Bool) : ColorMode → Bool
  | auto => terminal
  | always => true
  | never => false

end ColorMode

/-! ### Commands -/

/-- The eight things to do. -/
inductive Command where
  /-- Lists the tokens of an expression. -/
  | tokenize (expression : String)
  /-- Reports what is wrong with an expression, and asks the server where that is wanted. -/
  | validate (expression : String) (asksServer : Bool)
  /-- Writes the tree of an expression, in its envelope where that is wanted. -/
  | toTree (expression : String) (inEnvelope : Bool)
  /-- Writes a stored tree as an expression. A dash stands for the input, anything else for a
  file. -/
  | toText (source : String)
  /-- Writes an expression in its normal form. -/
  | normalize (expression : String)
  /-- Shows the channels that an expression matches. -/
  | test (expression : String)
  /-- Lists the fields that expressions may use. -/
  | fields
  /-- Takes each line of the input as an edit of one expression. -/
  | edit
  deriving Repr, DecidableEq

/-- A command and the choices that go with it. -/
structure Invocation where
  /-- The file that holds the settings. -/
  config : Option String
  format : Format
  color : ColorMode
  /-- The names of the fields, in place of those that the settings or the server give. -/
  fields : Option (List String)
  verbose : Bool
  command : Command
  deriving Repr, DecidableEq

/-- The files that a command reads: its settings first. -/
def Invocation.paths (i : Invocation) : List String :=
  i.config.toList ++
    match i.command with
    | .toText source => if source == "-" then [] else [source]
    | _ => []

/-- Whether a command reads the input. -/
def Invocation.readsInput (i : Invocation) : Bool :=
  match i.command with
  | .toText source => source == "-"
  | .edit => true
  | _ => false

end FilterLang
