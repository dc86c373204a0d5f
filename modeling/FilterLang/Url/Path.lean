import FilterLang.Url.Escape

/-!
# Paths

The path of an address is a row of parts with slashes before them. A part can be a step up or a step
that stays where it is, and all steps are taken when the path is read. A step up never leaves a
drive, which is named by a letter and a colon.

The path of a file begins with a drive or with its first part that is not empty. The bar that was
once written for the colon of a drive is replaced there.
-/

namespace FilterLang.Url

/-! ### Kinds of parts -/

/-- Whether a part of a path is a step that stays where it is. -/
def isHere (part : List Char) : Bool :=
  [".", "%2e"].contains (String.ofList (part.map Char.toLower))

/-- Whether a part of a path is a step up. -/
def isUp (part : List Char) : Bool :=
  ["..", ".%2e", "%2e.", "%2e%2e"].contains (String.ofList (part.map Char.toLower))

/-- Whether a part of a path is a drive. -/
def isDrive : List Char → Bool
  | [c, d] => c.isAlpha && (d == ':' || d == '|')
  | _ => false

/-- The part that a drive is written as. Other parts stay as they are. -/
def plainDrive (part : List Char) : List Char := if isDrive part then part.take 1 ++ [':'] else part

/-! ### Steps -/

/-- The parts above a place, the last first. -/
def stepUp : List (List Char) → List (List Char)
  | [] => []
  | part :: above => if isDrive part then part :: above else above

/-- The parts of a path with all steps taken. `above` are the parts so far, the last first. A step
at the end leaves an empty part. -/
def walk (k : Kind) (above : List (List Char)) : List (List Char) → List (List Char)
  | [] => above.reverse
  | part :: rest =>
    let next :=
      if isUp part then stepUp above
      else if isHere part then above
      else if k == .file && above.isEmpty then [plainDrive part]
      else part :: above
    if rest.isEmpty && (isUp part || isHere part) then ([] :: next).reverse else walk k next rest

/-- The parts of a path, from the text after its first slash. -/
def pathParts (k : Kind) (cs : List Char) : List (List Char) :=
  walk k [] ((cs.splitOnP k.isSlash).map (escape pathEscapes))

/-- The text of a path of the given parts. -/
def pathText (k : Kind) (parts : List (List Char)) : List Char :=
  '/' :: List.intercalate ['/'] (if k == .file then parts.dropWhile List.isEmpty else parts)

end FilterLang.Url
