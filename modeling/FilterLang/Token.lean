import FilterLang.Catalog
import FilterLang.Keyword
import FilterLang.Suggestion
import FilterLang.Text.Bytes

/-!
# Tokens

A lexeme is a piece of an expression together with what it stands for, and a token is a lexeme at
its place. Lexemes carry what was decided when they were cut: a quoted value keeps its quote and its
content apart, and a bare word keeps the role that the catalog and the reserved words give it.

A word has the first role that applies: a field of the catalog, an operator keyword, a connective,
a modifier. A catalog may therefore name a field `matches`, and that word then is a field. A word
with none of these roles is unknown, which is where fields stand in an expression that is read
without a catalog.
-/

namespace FilterLang

/-! ### Roles of words -/

/-- What a bare word stands for. -/
inductive Role where
  | field
  | operator (op : Operator)
  | connective (c : Connective)
  | modifier (m : Modifier)
  | unknown
  deriving Repr, DecidableEq

namespace Role

/-- The role that the language itself gives a word. -/
def reserved (word : String) : Role :=
  match Operator.ofKeyword? word with
  | some op => operator op
  | none =>
    match Connective.ofWord? word with
    | some c => connective c
    | none =>
      match Modifier.ofWord? word with
      | some m => modifier m
      | none => unknown

/-- The role of a word beside a catalog, whose names come first. -/
def ofWord (catalog : Catalog) (word : String) : Role :=
  if catalog.contains word then field else reserved word

theorem ofWord_empty (word : String) : ofWord ∅ word = reserved word := by simp [ofWord]

end Role

/-! ### Lexemes -/

/-- A piece of an expression and what it is. -/
inductive Lexeme where
  /-- A bare word and its role. -/
  | word (text : String) (role : Role)
  /-- A value between two quotes of one kind. -/
  | quoted (quote : Char) (content : String)
  /-- A value whose closing quote is missing: everything after the opening quote. -/
  | unclosed (quote : Char) (content : String)
  | openParen
  | closeParen
  /-- A connective written as a sign. -/
  | glyph (c : Connective)
  /-- White space. -/
  | blank (text : String)
  /-- A character that begins nothing else. -/
  | stray (c : Char)
  deriving Repr, DecidableEq

namespace Lexeme

/-- The characters that a lexeme was cut from. -/
def chars : Lexeme → List Char
  | word text _ => text.toList
  | quoted quote content => quote :: (content.toList ++ [quote])
  | unclosed quote content => quote :: content.toList
  | openParen => ['(']
  | closeParen => [')']
  | glyph c => c.glyph.toList
  | blank text => text.toList
  | stray c => [c]

/-- The text that a lexeme was cut from. -/
def text (l : Lexeme) : String := String.ofList l.chars

@[simp] theorem toList_text (l : Lexeme) : l.text.toList = l.chars := by simp [text]

/-- The classes that tokens are listed under. -/
inductive Kind where
  | field
  | operator
  | value
  | logic
  | modifier
  | parenthesis
  | whitespace
  | error
  deriving Repr, DecidableEq

/-- The name of a class in listings. -/
def Kind.name : Kind → String
  | field => "field"
  | operator => "operator"
  | value => "value"
  | logic => "logic"
  | modifier => "modifier"
  | parenthesis => "parenthesis"
  | whitespace => "whitespace"
  | error => "error"

/-- The class of a lexeme. -/
def kind : Lexeme → Kind
  | word _ .field => .field
  | word _ (.operator _) => .operator
  | word _ (.connective _) => .logic
  | word _ (.modifier _) => .modifier
  | word _ .unknown => .error
  | quoted _ _ => .value
  | unclosed _ _ => .value
  | openParen => .parenthesis
  | closeParen => .parenthesis
  | glyph _ => .logic
  | blank _ => .whitespace
  | stray _ => .error

/-- Whether the lexeme is white space. -/
def isBlank : Lexeme → Bool
  | blank _ => true
  | _ => false

/-- Whether the lexeme is a bare word, whatever its role. -/
def isWord : Lexeme → Bool
  | word _ _ => true
  | _ => false

/-- The connective that the lexeme stands for. -/
def connective? : Lexeme → Option Connective
  | word _ (.connective c) => some c
  | glyph c => some c
  | _ => none

/-- The modifier that the lexeme stands for. -/
def modifier? : Lexeme → Option Modifier
  | word _ (.modifier m) => some m
  | _ => none

/-- The operator that the lexeme stands for. -/
def operator? : Lexeme → Option Operator
  | word _ (.operator op) => some op
  | _ => none

/-- The content of a value with both of its quotes. -/
def content? : Lexeme → Option String
  | quoted _ content => some content
  | _ => none

/-- Whether the lexeme is a value without its closing quote. -/
def isUnclosed : Lexeme → Bool
  | unclosed _ _ => true
  | _ => false

/-- Whether the lexeme may stand in some correct expression over the catalog. -/
def isValid : Lexeme → Bool
  | word _ .unknown => false
  | unclosed _ _ => false
  | stray _ => false
  | _ => true

end Lexeme

/-! ### Tokens -/

/-- A lexeme and the byte at which it starts. -/
structure Token where
  lexeme : Lexeme
  start : Nat
  deriving Repr, DecidableEq

namespace Token

/-- The text of a token. -/
def text (t : Token) : String := t.lexeme.text

/-- The byte just after a token. -/
def stop (t : Token) : Nat := t.start + Text.byteLength t.lexeme.chars

/-- The words that a mistyped word is compared with: the names of the catalog, then the reserved
words. -/
def suggestionWords (catalog : Catalog) : List String :=
  catalog.names ++ Operator.keywords ++ [Connective.and, .or].map Connective.keyword ++
    Modifier.all.map Modifier.keyword

/-- What the author of an unknown word may have meant. -/
def suggestion? (catalog : Catalog) (t : Token) : Option String :=
  match t.lexeme with
  | .word w .unknown => Suggestion.suggest w (suggestionWords catalog)
  | _ => none

/-- The tokens that are not white space. -/
def significant (tokens : List Token) : List Token := tokens.filter fun t ↦ !t.lexeme.isBlank

end Token

end FilterLang
