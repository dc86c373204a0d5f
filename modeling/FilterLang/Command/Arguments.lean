import FilterLang.Command

/-!
# Arguments

The arguments of the program name a command, after options that go with every command and before
what the command works on. Options are written with two dashes, and their value follows as the next
argument or after a sign of equality; switches have no value, and some have a letter, so that a dash
and several letters turn several switches on. After two dashes alone, everything is an operand.

Arguments are read in two levels, since the options may be repeated after the name of the command,
where they count more. Within a level, an option or an operand is *pending* from where it is read
until the next one: only then is its value looked at. So of two mistakes the one that shows first in
this order is the one that is reported, and a word that nothing takes is reported before a bad value
just before it.

## The levels

`Level.read` reads the words of one level. On the outer level it ends at the name of a command, and
what is pending there is looked at only after the inner level, together with whether anything is
missing.
-/

namespace FilterLang.Arguments

/-- Why arguments name no command to run. To ask for help is one of the reasons. -/
inductive UsageFault where
  | helpWanted
  | versionWanted
  /-- There is nothing that could be run. -/
  | nothingGiven
  /-- There are options and no command. -/
  | commandMissing
  | unknownCommand
  | unknownArgument
  /-- A value is missing or none of those that the option takes. -/
  | badValue
  | repeated
  /-- A switch was given a value. -/
  | unwantedValue
  | operandMissing
  deriving Repr, DecidableEq

/-- The words for a fault. -/
def UsageFault.message : UsageFault → String
  | helpWanted => "help was asked for"
  | versionWanted => "the version was asked for"
  | nothingGiven => "nothing to do"
  | commandMissing => "a command is missing"
  | unknownCommand => "there is no such command"
  | unknownArgument => "there is no place for this argument"
  | badValue => "a value is missing or not possible"
  | repeated => "an option is given twice"
  | unwantedValue => "a switch takes no value"
  | operandMissing => "the command needs something to work on"

/-! ### Names -/

/-- The commands, without what they work on. -/
inductive Verb where
  | tokenize
  | validate
  | toTree
  | toText
  | normalize
  | test
  | fields
  | edit
  deriving Repr, DecidableEq

/-- What a command works on. -/
inductive Operand where
  | expression
  /-- The path of a file, which is not empty. -/
  | path
  deriving Repr, DecidableEq

namespace Verb

/-- The name of a command. -/
def name : Verb → String
  | tokenize => "tokenize"
  | validate => "validate"
  | toTree => "to-tree"
  | toText => "to-text"
  | normalize => "normalize"
  | test => "test"
  | fields => "fields"
  | edit => "edit"

/-- All commands. -/
def all : List Verb := [tokenize, validate, toTree, toText, normalize, test, fields, edit]

/-- The command of a name. -/
def ofName? (name : String) : Option Verb := all.find? (·.name == name)

/-- What a command works on, if on anything. -/
def operand? : Verb → Option Operand
  | toText => some .path
  | fields => none
  | edit => none
  | _ => some .expression

/-- The command to run. The flag says whether the switch of its own is on. -/
def command (v : Verb) (operand : String) (on : Bool) : Command :=
  match v with
  | tokenize => .tokenize operand
  | validate => .validate operand on
  | toTree => .toTree operand on
  | toText => .toText operand
  | normalize => .normalize operand
  | test => .test operand
  | fields => .fields
  | edit => .edit

end Verb

/-- Whether a word can be asked help about: the name of a command, or of help itself. -/
def isTopic (word : String) : Bool := word == "help" || (Verb.ofName? word).isSome

/-- The options, which take a value. -/
inductive ValueOption where
  | config
  | format
  | color
  | fields
  deriving Repr, DecidableEq

/-- The option of a name. -/
def ValueOption.ofName? : String → Option ValueOption
  | "config" => some config
  | "format" => some format
  | "color" => some color
  | "fields" => some fields
  | _ => none

/-- The switches, which take no value. -/
inductive Switch where
  | help
  | version
  | verbose
  /-- The switch that a command has for itself. -/
  | own
  deriving Repr, DecidableEq

namespace Switch

/-- The switch of a name, before the command or after it. -/
def ofName? (verb : Option Verb) (name : String) : Option Switch :=
  match name, verb with
  | "help", _ => some help
  | "verbose", _ => some verbose
  | "version", none => some version
  | "server", some .validate => some own
  | "envelope", some .toTree => some own
  | _, _ => none

/-- The switch of a letter, before the command or after it. -/
def ofLetter? (verb : Option Verb) (letter : Char) : Option Switch :=
  match letter, verb with
  | 'h', _ => some help
  | 'v', _ => some verbose
  | 'V', none => some version
  | _, _ => none

end Switch

/-! ### What is given -/

/-- What the arguments of one level give. -/
structure Given where
  config : Option String := none
  format : Option Format := none
  color : Option ColorMode := none
  fields : Option (List String) := none
  verbose : Bool := false
  /-- Whether the switch of the command itself is on. -/
  own : Bool := false
  operand : Option String := none
  deriving Repr, DecidableEq

namespace Given

/-- Puts the first value of an option, if the value is a possible one. -/
def first {α : Type} (earlier value : Option α) : Except UsageFault (Option α) :=
  if earlier.isSome then .error .repeated
  else if value.isNone then .error .badValue
  else .ok value

/-- The path that a value is. -/
def path? (value : String) : Option String := if value.isEmpty then none else some value

/-- Gives an option a value. Names of fields add up, and a comma stands between two. -/
def put (g : Given) (o : ValueOption) (value : String) : Except UsageFault Given :=
  match o with
  | .config => return { g with config := ← first g.config (path? value) }
  | .format => return { g with format := ← first g.format (Format.ofName? value) }
  | .color => return { g with color := ← first g.color (ColorMode.ofName? value) }
  | .fields => return { g with fields := some (g.fields.getD [] ++ value.splitOn ",") }

/-- Turns a switch on. -/
def turnOn (g : Given) : Switch → Except UsageFault Given
  | .help => .error .helpWanted
  | .version => .error .versionWanted
  | .verbose => if g.verbose then .error .repeated else .ok { g with verbose := true }
  | .own => if g.own then .error .repeated else .ok { g with own := true }

/-- Gives the command something to work on. -/
def putOperand (g : Given) (o : Operand) (value : String) : Except UsageFault Given :=
  if o == .path && value.isEmpty then .error .badValue else .ok { g with operand := some value }

end Given

/-! ### Words -/

/-- The kinds of words. -/
inductive Word where
  /-- Two dashes alone. -/
  | dashes
  /-- The name of an option or switch, and the value that is attached to it. -/
  | named (name : String) (value : Option String)
  /-- Letters of switches. -/
  | letters (cs : List Char)
  /-- Anything else, a dash alone among them. -/
  | plain
  deriving Repr, DecidableEq

/-- The kind of a word. -/
def Word.ofString (s : String) : Word :=
  match s.toList with
  | ['-', '-'] => .dashes
  | '-' :: '-' :: cs =>
    let name := String.ofList (cs.takeWhile (· != '='))
    match cs.dropWhile (· != '=') with
    | [] => .named name none
    | _ :: value => .named name (some (String.ofList value))
  | '-' :: c :: cs => .letters (c :: cs)
  | _ => .plain

/-! ### Levels -/

/-- What was read and not yet looked at. -/
inductive Pending where
  /-- An option, and its value where that was read. -/
  | option (o : ValueOption) (value : Option String)
  | operand (o : Operand) (value : String)
  deriving Repr, DecidableEq

/-- How far a level was read. -/
structure Level where
  given : Given := {}
  pending : Option Pending := none
  /-- Whether everything that follows is an operand. -/
  onlyOperands : Bool := false
  deriving Repr, DecidableEq

namespace Level

/-- Looks at what is pending. -/
def settle (l : Level) : Except UsageFault Given :=
  match l.pending with
  | none => .ok l.given
  | some (.option _ none) => .error .badValue
  | some (.option o (some value)) => l.given.put o value
  | some (.operand o value) => l.given.putOperand o value

/-- Turns a switch on. -/
def turnOn (l : Level) (s : Switch) : Except UsageFault Level :=
  return { l with given := ← (← l.settle).turnOn s, pending := none }

/-- Takes the letters of switches. -/
def takeLetters (verb : Option Verb) (l : Level) (cs : List Char) : Except UsageFault Level :=
  cs.foldlM (fun l c ↦
    match Switch.ofLetter? verb c with
    | some s => l.turnOn s
    | none => .error .unknownArgument) l

/-- Takes the name of an option or switch. -/
def takeNamed (verb : Option Verb) (l : Level) (name : String) (value : Option String) :
    Except UsageFault Level := do
  match ValueOption.ofName? name, Switch.ofName? verb name, value with
  | some o, _, some value => return { l with given := ← (← l.settle).put o value, pending := none }
  | some o, _, none => return { l with given := ← l.settle, pending := some (.option o none) }
  | none, some _, some _ => .error .unwantedValue
  | none, some s, none => l.turnOn s
  | none, none, _ => .error .unknownArgument

/-- Whether the level has its operand. -/
def hasOperand (l : Level) : Bool :=
  match l.pending with
  | some (.operand _ _) => true
  | _ => l.given.operand.isSome

/-- Takes an operand. Before the command there is none. -/
def takeOperand (verb : Option Verb) (l : Level) (value : String) : Except UsageFault Level := do
  match verb with
  | none => .error (if isTopic value then .unknownArgument else .unknownCommand)
  | some v =>
    match v.operand? with
    | some o =>
      if l.hasOperand then .error .unknownArgument
      else return { l with given := ← l.settle, pending := some (.operand o value) }
    | none => .error .unknownArgument

/-- What comes of asking for help on some topics. No topic has a further one below it. -/
def helpOn : List String → UsageFault
  | [] => .helpWanted
  | [topic] => if isTopic topic then .helpWanted else .unknownCommand
  | _ => .unknownCommand

/-- Reads a level, and on the outer one the name of the command, which ends it. -/
def read (verb : Option Verb) (l : Level) :
    List String → Except UsageFault (Level × Option (Verb × List String))
  | [] => .ok (l, none)
  | word :: words =>
    if l.onlyOperands then do read verb (← l.takeOperand verb word) words
    else
      match Word.ofString word, l.pending, verb with
      | .dashes, _, _ => read verb { l with onlyOperands := true } words
      | .named name value, _, _ => do read verb (← l.takeNamed verb name value) words
      | .letters cs, _, _ => do read verb (← l.takeLetters verb cs) words
      | .plain, some (.option o none), _ =>
        read verb { l with pending := some (.option o (some word)) } words
      | .plain, _, some _ => do read verb (← l.takeOperand verb word) words
      | .plain, _, none =>
        if word == "help" then .error (helpOn words)
        else
          match Verb.ofName? word with
          | some v => .ok (l, some (v, words))
          | none => .error .unknownCommand

end Level

/-! ### Arguments -/

/-- Why options alone are not enough. -/
def withoutCommand (g : Given) : UsageFault := if g = {} then .nothingGiven else .commandMissing

/-- What to work on, where the command works on anything. -/
def operandOf (v : Verb) (g : Given) : Except UsageFault String :=
  match v.operand?, g.operand with
  | some _, none => .error .operandMissing
  | _, operand => .ok (operand.getD "")

/-- What was given at both levels. What stands after the command counts more. -/
def invocation (v : Verb) (operand : String) (outer inner : Given) : Invocation where
  config := inner.config <|> outer.config
  format := (inner.format <|> outer.format).getD .text
  color := (inner.color <|> outer.color).getD .auto
  fields := inner.fields <|> outer.fields
  verbose := inner.verbose || outer.verbose
  command := v.command operand inner.own

/-- Reads arguments. -/
def parse (words : List String) : Except UsageFault Invocation := do
  let (outer, found) ← Level.read none {} words
  match found with
  | none => .error (withoutCommand (← outer.settle))
  | some (v, words) =>
    let (inner, _) ← Level.read (some v) {} words
    let inner ← inner.settle
    let operand ← operandOf v inner
    return invocation v operand (← outer.settle) inner

end FilterLang.Arguments
