/-!
# Lines

A text is cut into lines, each with the line feed or carriage return that ends it; a carriage return
with its line feed is one end. The last line may lack an end, and nothing is left out.

An input is cut in another way, since it is taken line by line: only a line feed ends a line, and
what ends it is no part of it.
-/

namespace FilterLang.Text

/-- The first line of a text and the text after it. -/
def cutLine : List Char → List Char × List Char
  | [] => ([], [])
  | '\r' :: '\n' :: rest => (['\r', '\n'], rest)
  | c :: rest =>
    if c == '\n' || c == '\r' then ([c], rest)
    else
      let (line, after) := cutLine rest
      (c :: line, after)

/-- A line and the text after it make up the text. -/
theorem cutLine_append (cs : List Char) : (cutLine cs).1 ++ (cutLine cs).2 = cs := by
  fun_induction cutLine cs <;> simp_all

/-- A text that is not empty has a line that is not empty. -/
theorem cutLine_ne_nil {cs : List Char} (h : cs ≠ []) : (cutLine cs).1 ≠ [] := by
  fun_induction cutLine cs <;> simp_all

/-- The lines of a text. -/
def lines (cs : List Char) : List (List Char) :=
  if _h : cs = [] then []
  else (cutLine cs).1 :: lines (cutLine cs).2
termination_by cs.length
decreasing_by
  have h₁ := congrArg List.length (cutLine_append cs)
  have h₂ := List.length_pos_iff.2 (cutLine_ne_nil _h)
  simp only [List.length_append] at h₁
  omega

/-- The lines of a text make up the text. -/
theorem flatten_lines (cs : List Char) : (lines cs).flatten = cs := by
  fun_induction lines cs with
  | case1 => simp_all
  | case2 cs h ih => rw [List.flatten_cons, ih, cutLine_append]

/-! ### Lines of an input -/

/-- The lines of an input, of which only a line feed ends one. Its end is left out, together with a
carriage return before the line feed. The first argument holds the part of a line that was already
read, backwards. -/
def inputLinesAfter (line : List Char) : List Char → List (List Char)
  | [] => if line.isEmpty then [] else [line.reverse]
  | c :: rest =>
    if c == '\n' then
      (if line.head? == some '\r' then line.tail else line).reverse :: inputLinesAfter [] rest
    else inputLinesAfter (c :: line) rest

/-- The lines of an input. -/
def inputLines (s : String) : List String := (inputLinesAfter [] s.toList).map String.ofList

end FilterLang.Text
