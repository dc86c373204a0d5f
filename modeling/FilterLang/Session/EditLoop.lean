import FilterLang.Session.Timeline

/-!
# Editing line by line

A loop takes lines as edits and shows what comes of them: the result of every line, and a verdict of
the server where one comes while the loop runs. It does one thing at a time. When there are no more
lines it may still be owed a verdict on the last of them, for which it waits, but not forever.

Which of the things that can be done comes first is not decided here: the loop is run by a list of
turns.
-/

namespace FilterLang

/-- A loop that edits line by line. -/
structure EditLoop where
  timeline : Timeline
  /-- The lines that are still to come. -/
  lines : List String
  /-- What was shown so far. -/
  shown : List Update

/-- What a loop does next. -/
inductive Turn where
  /-- Takes the next line, if there is one. -/
  | line
  /-- Looks at what is new, if anything is. -/
  | update
  /-- Lets time pass. -/
  | pause (millis : Nat)
  deriving Repr, DecidableEq

/-- Whether the server will be asked about what is shown. -/
def Timeline.awaitsServer (t : Timeline) : Bool := t.session.latest.any Update.awaitsServer

namespace EditLoop

/-- A loop before its first line. -/
def start (t : Timeline) (lines : List String) : EditLoop := ⟨t, lines, []⟩

/-- Looks at the latest update, and shows it if it is wanted. -/
def look (l : EditLoop) (wanted : Update → Bool) : EditLoop :=
  { l with
    timeline := l.timeline.look
    shown := l.shown ++ (l.timeline.session.latest.filter wanted).toList }

/-- Takes a turn. The result of a line is shown at once, and of what comes later only verdicts of the
server are. -/
def apply (l : EditLoop) : Turn → EditLoop
  | .line =>
    match l.lines with
    | [] => l
    | line :: lines => { l with timeline := l.timeline.edit line, lines }.look fun _ ↦ true
  | .update => if l.timeline.unseen then l.look Update.isAuthoritative else l
  | .pause millis => { l with timeline := l.timeline.pause millis }

/-- The loop after some turns. -/
def play (l : EditLoop) (turns : List Turn) : EditLoop := turns.foldl apply l

/-- Ends the loop. A verdict that is there and was not looked at is shown. One that is still to come
is waited for, at most for the given time, and then shown. -/
def finish (l : EditLoop) (patience : Nat) : EditLoop :=
  if l.timeline.awaitsServer then
    let l := { l with timeline := l.timeline.pause patience }
    if l.timeline.awaitsServer then l else l.look Update.isAuthoritative
  else if l.timeline.unseen then l.look Update.isAuthoritative
  else l

end EditLoop

/-- What is shown of lines that are all there at once. -/
def Timeline.transcript (t : Timeline) (patience : Nat) (lines : List String) : List Update :=
  (((EditLoop.start t lines).play (lines.map fun _ ↦ .line)).finish patience).shown

/-- How long a verdict on the last line is waited for: the quiet period, the time that the server
has, and a second. -/
def Settings.patience (c : Settings) : Nat := c.editor.quiet + c.server.timeoutSeconds * 1000 + 1000

end FilterLang
