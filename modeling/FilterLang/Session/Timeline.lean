import FilterLang.Session

/-!
# Sessions in time

A session that runs on a clock, against a server whose answers and delays are known in advance.
After an edit the clock must run for the quiet period before the server is asked; a further edit in
that time withdraws the question, and so does one that comes before the answer. So at most one
question is open.

Time is counted in milliseconds and moves only when the session pauses.
-/

namespace FilterLang

/-- An answer of the server and the time that it takes. -/
structure TimedReply where
  latency : Nat
  reply : Server.Reply

/-- An inquiry on its way. -/
inductive OpenInquiry where
  /-- The quiet period lasts until the given time. -/
  | waiting (inquiry : Inquiry) (due : Nat)
  /-- The server was asked and answers at the given time. -/
  | asked (inquiry : Inquiry) (due : Nat) (reply : Server.Reply)

/-- A question about an expression that was put to the server, and when. -/
structure Asked where
  time : Nat
  question : Server.Question
  /-- The question is not the one about the fields. -/
  hasRequest : question.request?.isSome = true
  deriving Repr, DecidableEq

namespace Asked

/-- The question by which the expression of a request is checked. -/
def check (time : Nat) (r : Server.Request) : Asked :=
  ⟨time, .check r, by rw [Server.Question.request?_check]; rfl⟩

/-- What was asked about the expression. -/
def request (a : Asked) : Server.Request := a.question.request?.get a.hasRequest

@[simp] theorem request_check (time : Nat) (r : Server.Request) : (check time r).request = r := by
  simp [check, request]

end Asked

/-- A session at a point in time. -/
structure Timeline where
  now : Nat
  session : Session
  inquiry : Option OpenInquiry
  /-- The replies to come, one for each question. -/
  replies : List TimedReply
  /-- The reply to every question after those. -/
  otherwise : Server.Request → TimedReply
  /-- The questions so far, the last first. -/
  asked : List Asked
  /-- Whether something new is shown that was not looked at. -/
  unseen : Bool
  /-- Whether an inquiry was withdrawn since time last passed. -/
  withdrawn : Bool
  ended : Bool

namespace Timeline

/-- A session at the beginning of time. -/
def start (s : Session) (replies : List TimedReply) (otherwise : Server.Request → TimedReply) :
    Timeline :=
  ⟨0, s, none, replies, otherwise, [], false, false, false⟩

/-- Takes an edit. An inquiry about an earlier edit is withdrawn. -/
def edit (t : Timeline) (text : String) : Timeline :=
  let (session, inquiry) := t.session.edit text
  { t with
    session
    inquiry := inquiry.map fun i ↦ .waiting i (t.now + t.session.settings.quiet)
    unseen := true
    withdrawn := t.withdrawn || t.inquiry.isSome }

/-- Takes what happens next, if it happens until the given time: the server is asked, or it
answers. -/
def step (limit : Nat) (t : Timeline) : Timeline :=
  match t.inquiry with
  | some (.waiting i due) =>
    if due ≤ limit then
      let next := t.replies.head?.getD (t.otherwise i.request)
      { t with
        inquiry := some (.asked i (due + next.latency) next.reply)
        replies := t.replies.tail
        asked := .check due i.request :: t.asked }
    else t
  | some (.asked i due reply) =>
    if due ≤ limit then
      match t.session.answer? i (Server.verdictOf i.request reply) with
      | some session => { t with session, inquiry := none, unseen := true }
      | none => { t with inquiry := none }
    else t
  | none => t

/-- Lets time pass. At most two things happen: the server is asked, and it answers. A pause of no
length lets nothing go. -/
def pause (t : Timeline) (millis : Nat) : Timeline :=
  let limit := t.now + millis
  { step limit (step limit t) with now := limit, withdrawn := t.withdrawn && millis == 0 }

/-- Ends the session. An inquiry is withdrawn. -/
def close (t : Timeline) : Timeline :=
  { t with inquiry := none, withdrawn := t.withdrawn || t.inquiry.isSome, ended := true }

/-- Looks at what is shown. -/
def look (t : Timeline) : Timeline := { t with unseen := false }

/-- Whether nothing more can be shown. A withdrawn inquiry is let go only when time passes. -/
def isClosed (t : Timeline) : Bool := t.ended && !t.withdrawn

end Timeline

end FilterLang
