import FilterLang.Session
import FilterLang.Terminal.Style

/-!
# One line for each update

What is shown while an expression is edited: the number of the edit, whether the server had its say,
and the result in few words.
-/

namespace FilterLang.Display

open Terminal

/-- What the server said, as a part of a line. -/
def verdictPart (v : Server.Verdict) : String :=
  (match v.status with
    | .confirmed => ""
    | .rejected error => ": " ++ error
    | .unavailable reason => " (server unavailable: " ++ reason ++ ")") ++
  match v.count with
  | some c => ", " ++ toString c.matched ++ "/" ++ toString c.total ++ " matched"
  | none => ""

/-- The line for an update. -/
def update (color : Bool) (u : FilterLang.Update) : String :=
  "[#" ++ toString u.generation ++ (if u.isAuthoritative then " server] " else " local] ") ++
    (if u.result.valid then (Style.ofColour .green).paint color "valid"
      else (Style.ofColour .red).paint color "invalid" ++
        " (" ++ toString u.result.errorCount ++ " error(s))") ++
    (u.result.server.map verdictPart).getD ""

end FilterLang.Display
