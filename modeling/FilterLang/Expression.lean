import FilterLang.Token.Lexer
import FilterLang.Tree

/-!
# Reading an expression

An expression is a chain of `OR` over chains of `AND` over terms; a term is an expression in
parentheses or a condition, and a condition is a field, an operator and a quoted value with
modifiers before or after the field. A chain of two or more operands is one flat group, and
parentheses add no node of their own.

Fields are recognised by their place, so the expression is cut without a catalog: any word that the
language does not reserve can be a field.

Each reader takes the tokens that are left and returns, with its result, strictly fewer of them.
Nesting is bounded: `expression n` reads up to `n` parentheses inside each other.
-/

namespace FilterLang

/-! ### What can be wrong -/

/-- Why an expression has no tree. -/
inductive ParseFault where
  | emptyExpression
  | expectedCondition
  | nestedTooDeeply
  | emptyParentheses
  | missingClosing
  | unmatchedClosing
  | trailing (text : String)
  | expectedField
  | unexpectedCharacter (text : String)
  | valueBeforeField
  | notAField (text : String)
  | expectedOperator (field : String)
  | unknownOperator (word : String) (hint : Option String)
  | expectedValue (comparison : Comparison)
  | unclosedValue
  | unquotedValue (word : String)
  | duplicateModifier (m : Modifier)
  deriving Repr, DecidableEq

/-- The words for a fault. -/
def ParseFault.message : ParseFault → String
  | emptyExpression => "Filter expression is empty"
  | expectedCondition => "Unexpected end of expression; expected a condition"
  | nestedTooDeeply => "Expression nested too deeply"
  | emptyParentheses => "Empty parentheses"
  | missingClosing => "Missing closing parenthesis"
  | unmatchedClosing => "Unmatched closing parenthesis"
  | trailing text => "Unexpected '" ++ text ++ "' after complete condition; expected AND or OR"
  | expectedField => "Unexpected end of expression; expected a field name"
  | unexpectedCharacter text => "Unexpected character '" ++ text ++ "'"
  | valueBeforeField => "Expected a field name before the value"
  | notAField text => "Expected a field name, found '" ++ text ++ "'"
  | expectedOperator field => "Expected an operator after field '" ++ field ++ "'"
  | unknownOperator word hint =>
    "Unknown operator '" ++ word ++ "'" ++
      match hint with
      | some h => " (did you mean '" ++ h ++ "'?)"
      | none => ""
  | expectedValue comparison => "Expected a quoted value after '" ++ comparison.keyword ++ "'"
  | unclosedValue => "Unterminated quoted value"
  | unquotedValue word => "Value '" ++ word ++ "' must be quoted"
  | duplicateModifier m => "Duplicate '" ++ m.keyword ++ "' modifier"

/-- A fault and the byte that is blamed. -/
structure ParseError where
  fault : ParseFault
  offset : Nat
  deriving Repr, DecidableEq

/-- The words for an error: those of its fault and its place. -/
def ParseError.message (e : ParseError) : String :=
  e.fault.message ++ " (at offset " ++ toString e.offset ++ ")"

/-! ### Readers -/

/-- The greatest number of parentheses inside each other. -/
def maxNesting : Nat := 128

namespace Expression

/-- A fault and the token that is blamed, or none where the tokens end. -/
structure Refusal where
  fault : ParseFault
  token : Option Token
  deriving Repr, DecidableEq

/-- A result and the tokens that are left, fewer than there were. -/
abbrev Read (α : Type) (ts : List Token) : Type :=
  Except Refusal (α × { rest : List Token // rest.length < ts.length })

/-- A way of reading a beginning of a list of tokens. -/
abbrev Reader (α : Type) : Type := (ts : List Token) → Read α ts

/-- The modifiers read so far. -/
structure Flags where
  negate : Bool
  caseSensitive : Bool
  deriving Repr, DecidableEq

namespace Flags

/-- No modifier. -/
def none : Flags := ⟨false, false⟩

/-- Whether a modifier was read. -/
def has (f : Flags) : Modifier → Bool
  | .not => f.negate
  | .caseSensitive => f.caseSensitive

/-- The flags with one more modifier, which must be new. The token is blamed otherwise. -/
def add (f : Flags) (m : Modifier) (t : Token) : Except Refusal Flags :=
  if f.has m then .error ⟨.duplicateModifier m, t⟩
  else
    match m with
    | .not => .ok { f with negate := true }
    | .caseSensitive => .ok { f with caseSensitive := true }

/-- The flags with a modifier if it is wanted. -/
def addIf (f : Flags) (wanted : Bool) (m : Modifier) (t : Token) : Except Refusal Flags :=
  if wanted then f.add m t else .ok f

end Flags

/-- Reads the modifiers at the front. -/
def modifiers (f : Flags) :
    (ts : List Token) → Except Refusal (Flags × { rest : List Token // rest.length ≤ ts.length })
  | [] => .ok (f, ⟨[], Nat.le_refl _⟩)
  | t :: ts =>
    match t.lexeme.modifier? with
    | none => .ok (f, ⟨t :: ts, Nat.le_refl _⟩)
    | some m => do
      let f ← f.add m t
      let (f, ⟨rest, h⟩) ← modifiers f ts
      return (f, ⟨rest, Nat.le_succ_of_le h⟩)

/-- Reads a field: a word without a role, or a field of a catalog. -/
def field : Reader String
  | [] => .error ⟨.expectedField, none⟩
  | t :: ts =>
    match t.lexeme with
    | .word w .field => .ok (w, ⟨ts, Nat.lt_succ_self _⟩)
    | .word w .unknown => .ok (w, ⟨ts, Nat.lt_succ_self _⟩)
    | .stray c => .error ⟨.unexpectedCharacter (String.singleton c), t⟩
    | .quoted _ _ => .error ⟨.valueBeforeField, t⟩
    | .unclosed _ _ => .error ⟨.valueBeforeField, t⟩
    | _ => .error ⟨.notAField t.text, t⟩

/-- Reads the operator of a condition and merges its modifiers into the flags. The field is named in
the error. -/
def operator (name : String) (f : Flags) : Reader (Comparison × Flags)
  | [] => .error ⟨.expectedOperator name, none⟩
  | t :: ts =>
    match t.lexeme with
    | .word _ (.operator op) => do
      let f ← f.addIf op.negate .not t
      let f ← f.addIf op.caseSensitive .caseSensitive t
      return ((op.comparison, f), ⟨ts, Nat.lt_succ_self _⟩)
    | .word w _ =>
      let hint := Suggestion.suggest w (Comparison.all.map Comparison.keyword)
      .error ⟨.unknownOperator w hint, t⟩
    | _ => .error ⟨.expectedOperator name, t⟩

/-- Reads the value of a condition. The comparison is named in the error. -/
def value (comparison : Comparison) : Reader String
  | [] => .error ⟨.expectedValue comparison, none⟩
  | t :: ts =>
    match t.lexeme with
    | .quoted _ content => .ok (content, ⟨ts, Nat.lt_succ_self _⟩)
    | .unclosed _ _ => .error ⟨.unclosedValue, t⟩
    | .word w _ => .error ⟨.unquotedValue w, t⟩
    | _ => .error ⟨.expectedValue comparison, t⟩

/-- Reads a condition. -/
def condition : Reader Tree := fun ts ↦ do
  let (f, ⟨ts₁, h₁⟩) ← modifiers .none ts
  let (name, ⟨ts₂, h₂⟩) ← field ts₁
  let (f, ⟨ts₃, h₃⟩) ← modifiers f ts₂
  let ((comparison, f), ⟨ts₄, h₄⟩) ← operator name f ts₃
  let (content, ⟨rest, h₅⟩) ← value comparison ts₄
  return (.condition ⟨name, ⟨comparison, f.negate, f.caseSensitive⟩, content⟩,
    ⟨rest, by omega⟩)

/-- Reads a term. `inner` reads what parentheses enclose, and is absent where no more of them may be
opened. -/
def term (inner : Option (Reader Tree)) : Reader Tree
  | [] => .error ⟨.expectedCondition, none⟩
  | t :: ts =>
    match t.lexeme with
    | .openParen =>
      match inner with
      | none => .error ⟨.nestedTooDeeply, t⟩
      | some read =>
        match ts.head?.map Token.lexeme with
        | some .closeParen => .error ⟨.emptyParentheses, t⟩
        | _ => do
          let (tree, ⟨after, h⟩) ← read ts
          match after, h with
          | close :: rest, h =>
            if close.lexeme = .closeParen then
              .ok (tree, ⟨rest, by simp only [List.length_cons] at h ⊢; omega⟩)
            else .error ⟨.missingClosing, t⟩
          | [], _ => .error ⟨.missingClosing, t⟩
    | _ => condition (t :: ts)

/-- Reads the further operands of a chain, each after its connective. -/
def operands (connective : Connective) (operand : Reader Tree) (ts : List Token) :
    Except Refusal (List Tree × { rest : List Token // rest.length ≤ ts.length }) :=
  match ts with
  | [] => .ok ([], ⟨[], Nat.le_refl _⟩)
  | t :: ts =>
    if t.lexeme.connective? = some connective then do
      let (tree, ⟨after, h⟩) ← operand ts
      let (trees, ⟨rest, h'⟩) ← operands connective operand after
      return (tree :: trees, ⟨rest, by simp only [List.length_cons]; omega⟩)
    else .ok ([], ⟨t :: ts, Nat.le_refl _⟩)
termination_by ts.length

/-- Reads a chain of one or more operands. -/
def chain (connective : Connective) (operand : Reader Tree) : Reader Tree := fun ts ↦ do
  let (first, ⟨after, h⟩) ← operand ts
  let (others, ⟨rest, h'⟩) ← operands connective operand after
  return (.ofChain connective (first :: others), ⟨rest, by omega⟩)

/-- Reads an expression with at most the given number of parentheses inside each other. -/
def expression : Nat → Reader Tree
  | 0 => chain .or (chain .and (term none))
  | n + 1 => chain .or (chain .and (term (some (expression n))))

/-- Reads a whole list of tokens as an expression. -/
def whole (ts : List Token) : Except Refusal Tree :=
  match ts with
  | [] => .error ⟨.emptyExpression, none⟩
  | _ => do
    let (tree, ⟨rest, _⟩) ← expression maxNesting ts
    match rest with
    | [] => return tree
    | t :: _ =>
      if t.lexeme = .closeParen then .error ⟨.unmatchedClosing, t⟩
      else .error ⟨.trailing t.text, t⟩

end Expression

/-! ### Whole expressions -/

/-- The byte that a refusal blames in a text of the given length: the start of its token, or the end
of the text. An expression without tokens is blamed at its start. -/
def Expression.Refusal.locate (r : Expression.Refusal) (length : Nat) : ParseError :=
  let offset :=
    match r.token with
    | some t => t.start
    | none => if r.fault = .emptyExpression then 0 else length
  ⟨r.fault, offset⟩

/-- The tree of an expression. -/
def Tree.parse (text : String) : Except ParseError Tree :=
  match Expression.whole (Token.significant (tokenize ∅ text)) with
  | .ok tree => .ok tree
  | .error r => .error (r.locate (Text.byteSize text))

end FilterLang
