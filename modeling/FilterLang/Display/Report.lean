import FilterLang.Display.Marker
import FilterLang.Terminal.Style
import FilterLang.Validation

/-!
# Reports

What a validation found, for people: the expression with its marker line, the status of every part,
one line for each place that is marked, what the server said, and the result. And the report on the
channels that an expression matches.
-/

namespace FilterLang.Display

open Terminal

/-! ### Words in their styles -/

/-- The status of one part. -/
def indicator (color : Bool) : Validation.Indicator → String
  | .ok => (Style.ofColour .green).paint color "ok"
  | .warning => (Style.ofColour .yellow).paint color "warning"
  | .error => (Style.bold .red).paint color "error"
  | .notChecked => Style.dimmed.paint color "not checked"
  | .unavailable => (Style.ofColour .yellow).paint color "unavailable"

/-- How bad a marked place is. -/
def severity (color : Bool) : Check.Severity → String
  | .error => (Style.bold .red).paint color "error"
  | .warning => (Style.ofColour .yellow).paint color "warning"

/-! ### The parts of a report -/

/-- A text filled up with blanks to a number of characters. -/
def fill (size : Nat) (s : String) : String :=
  s ++ String.ofList (List.replicate (size - s.length) ' ')

/-- The line for the status of a part. -/
def indicatorLine (color : Bool) (c : Validation.Category) (i : Validation.Indicator) : String :=
  fill 10 (c.name ++ ":") ++ " " ++ indicator color i ++ "\n"

/-- The line for a marked place. -/
def highlightLine (color : Bool) (h : Check.Highlight) : String :=
  severity color h.severity ++ " [" ++ toString h.start ++ ".." ++ toString h.stop ++ "]: " ++
    h.message ++
    (match h.suggestion with
      | some s => " (suggestion: " ++ (Style.ofColour .green).paint color s ++ ")"
      | none => "") ++ "\n"

/-- The lines for what the server said. -/
def verdictLines (color : Bool) (v : Server.Verdict) : String :=
  (match v.status with
    | .confirmed => "Server: " ++ (Style.ofColour .green).paint color "confirmed" ++ "\n"
    | .rejected error =>
      "Server: " ++ (Style.bold .red).paint color "rejected:" ++ " " ++ error ++ "\n"
    | .unavailable reason =>
      "Server: " ++ (Style.ofColour .yellow).paint color "unavailable" ++ " (" ++ reason ++
        "); showing local validation only\n") ++
  match v.count with
  | some c => "Matches: " ++ toString c.matched ++ " of " ++ toString c.total ++ " channels\n"
  | none => ""

/-- The report on a validation. -/
def validation (color : Bool) (text : String) (v : Validation) : String :=
  let marked := v.highlights
  let markers := markerLine text (marked.map Check.Highlight.mark)
  "  " ++ text ++ "\n" ++
    (if marked.isEmpty then "" else "  " ++ (Style.ofColour .red).paint color markers ++ "\n") ++
    "\n" ++
    String.join (v.indicators.map fun (c, i) ↦ indicatorLine color c i) ++
    (if marked.isEmpty then "" else "\n") ++
    String.join (marked.map (highlightLine color)) ++
    (match v.server with
      | some s => "\n" ++ verdictLines color s
      | none => "") ++
    "\nResult: " ++
    (if v.valid then (Style.bold .green).paint color "VALID"
      else (Style.bold .red).paint color "INVALID") ++ "\n"

/-! ### Channels -/

/-- The name of a channel, or its document if it has none. -/
def channelName (channel : Json) : String :=
  match (channel.get? "channel_name").or (channel.get? "name") with
  | some (.str name) => name
  | _ => channel.compact

/-- The report on the channels that an expression matches. -/
def channels (color : Bool) (r : Server.TestResponse) : String :=
  if r.isValid then
    "Matched " ++ (Style.bold .green).paint color (toString r.count.matched) ++ " of " ++
      toString r.count.total ++ " channels\n" ++
      String.join (r.channels.map fun c ↦ "  " ++ channelName c ++ "\n")
  else
    (Style.bold .red).paint color "Rejected:" ++ " " ++ r.error.getD "no reason given" ++ "\n"

end FilterLang.Display
