import FilterLang.Check.Report

/-!
# The marker line

The line below an expression that marks places in it: a caret for each character that is wrong and a
tilde for each that deserves a warning, where nothing is wrong. A place is always visible: one that
holds no character, or is no range of the expression at all, takes one column.

Columns are characters. The line is one column longer than the expression, for places at its end.
-/

namespace FilterLang.Display

/-- A range of bytes to mark. -/
structure Mark where
  start : Nat
  stop : Nat
  severity : Check.Severity
  deriving Repr, DecidableEq

namespace Mark

/-- The sign for a mark. -/
def sign (m : Mark) : Char :=
  match m.severity with
  | .error => '^'
  | .warning => '~'

/-- The column at which a mark starts: the number of characters before it, or zero if it does not
start at a character of the text. -/
def column (text : List Char) (m : Mark) : Nat :=
  match Text.slice? text 0 m.start with
  | some before => before.length
  | none => 0

/-- The number of columns of a mark. -/
def span (text : List Char) (m : Mark) : Nat :=
  match Text.slice? text m.start m.stop with
  | some marked => max 1 marked.length
  | none => 1

/-- A mark is visible. -/
theorem span_pos (text : List Char) (m : Mark) : 0 < m.span text := by
  unfold span
  split
  · exact Nat.lt_of_lt_of_le Nat.one_pos (Nat.le_max_left _ _)
  · exact Nat.one_pos

end Mark

/-- A line with a sign put over `span` columns from `column` on. A caret stays. -/
def overlay (sign : Char) : (column span : Nat) → List Char → List Char
  | _, _, [] => []
  | column + 1, span, c :: cs => c :: overlay sign column span cs
  | 0, 0, cs => cs
  | 0, span + 1, c :: cs => (if c == '^' then c else sign) :: overlay sign 0 span cs

@[simp] theorem length_overlay (sign : Char) (column span : Nat) (cs : List Char) :
    (overlay sign column span cs).length = cs.length := by
  fun_induction overlay sign column span cs <;> simp_all

/-- The columns below a text with all marks, one after another. -/
def columns (text : List Char) (marks : List Mark) : List Char :=
  marks.foldl (fun line m ↦ overlay m.sign (m.column text) (m.span text) line)
    (List.replicate (text.length + 1) ' ')

theorem length_columns (text : List Char) (marks : List Mark) :
    (columns text marks).length = text.length + 1 := by
  have h (line : List Char) : (marks.foldl (fun line m ↦
      overlay m.sign (m.column text) (m.span text) line) line).length = line.length := by
    induction marks generalizing line with
    | nil => rfl
    | cons m marks ih => rw [List.foldl_cons, ih, length_overlay]
  rw [columns, h, List.length_replicate]

/-- The marker line of a text. -/
def markerLine (text : String) (marks : List Mark) : String :=
  String.ofList (Text.trimRight (columns text.toList marks))

end FilterLang.Display

namespace FilterLang.Check

/-- The mark of a highlight. -/
def Highlight.mark (h : Highlight) : Display.Mark := ⟨h.start, h.stop, h.severity⟩

end FilterLang.Check
