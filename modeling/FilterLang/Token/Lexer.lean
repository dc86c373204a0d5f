import FilterLang.Text.Blank
import FilterLang.Text.WordChar
import FilterLang.Token

/-!
# Cutting an expression into tokens

Every text is cut into lexemes without remainder: what begins nothing else becomes a lexeme of one
character. The first character decides what is cut. A quote opens a value that ends at the next
quote of the same kind, with no escapes, or at the end of the text; a word character, a dot or a
hyphen begins the longest run of such characters; blanks are cut in the longest run too.

The catalog is asked for the role of a word after the word has been cut, so it never moves a
boundary.
-/

namespace FilterLang

/-- Whether `c` may stand in a bare word. -/
def isBareChar (c : Char) : Bool := Text.isWordChar c || c == '.' || c == '-'

namespace Lexeme

/-- The first lexeme of a text that starts with `c`, and the text after it. -/
def cutFirst (catalog : Catalog) (c : Char) (rest : List Char) : Lexeme × List Char :=
  if c == '"' || c == '\'' then
    match rest.dropWhile (· != c) with
    | [] => (unclosed c (String.ofList rest), [])
    | _ :: after => (quoted c (String.ofList (rest.takeWhile (· != c))), after)
  else if isBareChar c then
    let w := String.ofList (c :: rest.takeWhile isBareChar)
    (word w (Role.ofWord catalog w), rest.dropWhile isBareChar)
  else if c == '(' then (openParen, rest)
  else if c == ')' then (closeParen, rest)
  else if Text.isBlank c then
    (blank (String.ofList (c :: rest.takeWhile Text.isBlank)), rest.dropWhile Text.isBlank)
  else
    match c, rest with
    | '&', '&' :: after => (glyph .and, after)
    | '|', '|' :: after => (glyph .or, after)
    | _, _ => (stray c, rest)

/-- The text after the first lexeme is a part of the text after its first character. -/
theorem length_cutFirst (catalog : Catalog) (c : Char) (rest : List Char) :
    (cutFirst catalog c rest).2.length ≤ rest.length := by
  have hd (p : Char → Bool) : (rest.dropWhile p).length ≤ rest.length :=
    (List.dropWhile_suffix p).length_le
  unfold cutFirst
  split
  · split
    · simp
    · rename_i x after h
      have := hd (· != c)
      rw [h] at this
      simp only [List.length_cons] at this
      show after.length ≤ rest.length
      omega
  · split
    · exact hd _
    · split
      · simp
      · split
        · simp
        · split
          · exact hd _
          · split <;> simp

/-- The lexemes of a text. -/
def cut (catalog : Catalog) : List Char → List Lexeme
  | [] => []
  | c :: rest => (cutFirst catalog c rest).1 :: cut catalog (cutFirst catalog c rest).2
termination_by cs => cs.length
decreasing_by
  have := length_cutFirst catalog c rest
  simp only [List.length_cons]
  omega

end Lexeme

namespace Token

/-- Lexemes in a row, the first of them at the byte `start`. -/
def place : Nat → List Lexeme → List Token
  | _, [] => []
  | start, l :: ls => ⟨l, start⟩ :: place (start + Text.byteLength l.chars) ls

end Token

/-- The tokens of an expression beside a catalog. -/
def tokenize (catalog : Catalog) (text : String) : List Token :=
  Token.place 0 (Lexeme.cut catalog text.toList)

end FilterLang
