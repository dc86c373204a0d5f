import FilterLang.Session.Timeline
import Mathlib.Data.List.Basic

/-!
# When the server is asked

A run of a session on a clock is a list of moves: edits, pauses, and the end of the session. This
module says which questions a run puts to the server, and when. There is one question for each edit
that is valid and after which nothing is done for the quiet period, and it is put when that period
ends (`asked_play`).

The moves alone decide this. `timedEdits` reads off them when each edit is made and for how long
nothing is done after it; the timeline has a timer instead, which every edit sets anew. The two meet
in `dueBy`, the question that the timer will put by a given time. No pause loses it and none puts it
twice (`dueBy_pause`), so at every point of a run the questions that are still to come are the one
on the timer and those of the edits to come (`asked_play_eq`).
-/

namespace FilterLang

/-! ### Moves and edits -/

/-- What is done to a session. Time passes only in pauses. -/
inductive Move where
  | edit (text : String)
  | pause (millis : Nat)
  | close
  deriving Repr, DecidableEq

namespace Move

/-- The time that passes before the next edit, the end of the session or the last of the moves. -/
def silence : List Move → Nat
  | [] => 0
  | edit _ :: _ => 0
  | pause millis :: moves => millis + silence moves
  | close :: _ => 0

end Move

/-- An edit, when it is made, and for how long nothing is done after it. -/
structure TimedEdit where
  time : Nat
  text : String
  silence : Nat
  deriving Repr, DecidableEq

/-- The edits among moves that begin at the time `now`. -/
def timedEdits (now : Nat) : List Move → List TimedEdit
  | [] => []
  | .edit text :: moves => ⟨now, text, Move.silence moves⟩ :: timedEdits now moves
  | .pause millis :: moves => timedEdits (now + millis) moves
  | .close :: moves => timedEdits now moves

example :
    timedEdits 0 [.edit "a", .pause 200, .edit "b", .pause 300, .pause 100, .close, .pause 50] =
      [⟨0, "a", 200⟩, ⟨200, "b", 400⟩] := by
  decide

namespace TimedEdit

/-- Whether the server is asked about an edit: it is valid, and nothing is done for the quiet
period. -/
def isAsked (catalog : Catalog) (settings : EditorSettings) (e : TimedEdit) : Bool :=
  (Validation.ofText catalog e.text).valid && decide (settings.quiet ≤ e.silence)

/-- The question about an edit. -/
def question (settings : EditorSettings) (e : TimedEdit) : Asked :=
  .check (e.time + settings.quiet) (.ofSettings settings e.text)

/-- The next edit is made after the silence of the one before. -/
theorem silence_le_time {now : Nat} {moves : List Move} {e : TimedEdit}
    (h : e ∈ timedEdits now moves) : now + Move.silence moves ≤ e.time := by
  induction moves generalizing now with
  | nil => cases h
  | cons move moves ih =>
    cases move with
    | edit text =>
      rcases List.mem_cons.1 h with rfl | h
      · exact Nat.le_refl now
      · have := ih h
        rw [Move.silence]
        omega
    | pause millis =>
      have := ih h
      rw [Move.silence]
      omega
    | close =>
      have := ih h
      rw [Move.silence]
      omega

/-- Edits are listed in the order of their times, each after the silence of those before it. -/
theorem pairwise_timedEdits (now : Nat) (moves : List Move) :
    (timedEdits now moves).Pairwise fun e f ↦ e.time + e.silence ≤ f.time := by
  induction moves generalizing now with
  | nil => exact .nil
  | cons move moves ih =>
    cases move with
    | edit text => exact .cons (fun f hf ↦ silence_le_time hf) (ih now)
    | pause millis => exact ih (now + millis)
    | close => exact ih now

end TimedEdit

/-! ### Steps of the clock -/

/-- When the next thing happens to an inquiry. -/
def OpenInquiry.due : OpenInquiry → Nat
  | waiting _ due => due
  | asked _ due _ => due

namespace Timeline

variable {t : Timeline} {i : Inquiry} {due limit : Nat} {reply : Server.Reply}

/-- The server is asked. -/
def ask (t : Timeline) (i : Inquiry) (due : Nat) : Timeline :=
  let next := t.replies.head?.getD (t.otherwise i.request)
  { t with
    inquiry := some (.asked i (due + next.latency) next.reply)
    replies := t.replies.tail
    asked := .check due i.request :: t.asked }

/-- The server answers. -/
def hear (t : Timeline) (i : Inquiry) (reply : Server.Reply) : Timeline :=
  match t.session.answer? i (Server.verdictOf i.request reply) with
  | some session => { t with session, inquiry := none, unseen := true }
  | none => { t with inquiry := none }

@[simp] theorem inquiry_hear : (t.hear i reply).inquiry = none := by
  unfold hear
  split <;> rfl

@[simp] theorem asked_hear : (t.hear i reply).asked = t.asked := by
  unfold hear
  split <;> rfl

@[simp] theorem replies_hear : (t.hear i reply).replies = t.replies := by
  unfold hear
  split <;> rfl

@[simp] theorem otherwise_hear : (t.hear i reply).otherwise = t.otherwise := by
  unfold hear
  split <;> rfl

theorem session_hear :
    (t.hear i reply).session = t.session.answer i (Server.verdictOf i.request reply) := by
  unfold hear Session.answer
  split <;> rename_i h <;> rw [h] <;> rfl

/-- Whether nothing is due by the given time. -/
def IsIdleUntil (t : Timeline) (limit : Nat) : Prop := ∀ o ∈ t.inquiry, limit < o.due

theorem isIdleUntil_of_none (h : t.inquiry = none) : t.IsIdleUntil limit := by
  simp [IsIdleUntil, h]

theorem isIdleUntil_of_some {o : OpenInquiry} (h : t.inquiry = some o) (hdue : limit < o.due) :
    t.IsIdleUntil limit := by
  simpa [IsIdleUntil, h] using hdue

/-- A step does one of three things: nothing, if nothing is due; else the server is asked, if the
quiet period was awaited, or it answers, if it was asked. -/
theorem step_cases (t : Timeline) (limit : Nat) :
    t.IsIdleUntil limit ∧ t.step limit = t ∨
      (∃ i due, t.inquiry = some (.waiting i due) ∧ due ≤ limit ∧ t.step limit = t.ask i due) ∨
      ∃ i due reply, t.inquiry = some (.asked i due reply) ∧ due ≤ limit ∧
        t.step limit = t.hear i reply := by
  obtain ⟨now, session, inquiry, replies, otherwise, asked, unseen, withdrawn, ended⟩ := t
  rcases inquiry with _ | ⟨i, due⟩ | ⟨i, due, reply⟩
  · exact .inl ⟨isIdleUntil_of_none rfl, rfl⟩
  · by_cases h : due ≤ limit
    · exact .inr (.inl ⟨i, due, rfl, h, if_pos h⟩)
    · exact .inl ⟨isIdleUntil_of_some rfl (Nat.lt_of_not_le h), if_neg h⟩
  · by_cases h : due ≤ limit
    · exact .inr (.inr ⟨i, due, reply, rfl, h, if_pos h⟩)
    · exact .inl ⟨isIdleUntil_of_some rfl (Nat.lt_of_not_le h), if_neg h⟩

/-! ### What the timer will ask -/

/-- The question that is put by the given time, if nothing is done until then. -/
def dueBy (t : Timeline) (limit : Nat) : List Asked :=
  match t.inquiry with
  | some (.waiting i due) => if due ≤ limit then [.check due i.request] else []
  | _ => []

theorem dueBy_idle (h : t.IsIdleUntil limit) : t.dueBy limit = [] := by
  unfold dueBy
  split
  · rename_i i due hi
    have hdue : limit < due := h _ hi
    exact if_neg (by omega)
  · rfl

theorem dueBy_waiting (h : t.inquiry = some (.waiting i due)) :
    t.dueBy limit = if due ≤ limit then [.check due i.request] else [] := by
  rw [dueBy, h]

theorem dueBy_asked (h : t.inquiry = some (.asked i due reply)) : t.dueBy limit = [] := by
  rw [dueBy, h]

/-- A step puts the question that is due. -/
theorem asked_step (t : Timeline) (limit : Nat) :
    (t.step limit).asked = t.dueBy limit ++ t.asked := by
  rcases t.step_cases limit with ⟨hidle, h⟩ | ⟨i, due, hi, hdue, h⟩ | ⟨i, due, reply, hi, -, h⟩
  · rw [h, dueBy_idle hidle]
    rfl
  · rw [h, dueBy_waiting hi, if_pos hdue]
    rfl
  · rw [h, dueBy_asked hi, asked_hear]
    rfl

/-- And it leaves no other question to be put by the same time, and none to be put twice. -/
theorem dueBy_append_dueBy_step (t : Timeline) {later : Nat} (hle : limit ≤ later) :
    t.dueBy limit ++ (t.step limit).dueBy later = t.dueBy later := by
  rcases t.step_cases limit with ⟨hidle, h⟩ | ⟨i, due, hi, hdue, h⟩ | ⟨i, due, reply, hi, -, h⟩
  · rw [h, dueBy_idle hidle]
    rfl
  · have hnone : (t.ask i due).dueBy later = [] := dueBy_asked rfl
    rw [h, hnone, dueBy_waiting hi, dueBy_waiting hi, if_pos hdue, if_pos (Nat.le_trans hdue hle)]
    rfl
  · rw [h, dueBy_asked hi, dueBy_asked hi]
    exact dueBy_idle (isIdleUntil_of_none inquiry_hear)

theorem dueBy_step (t : Timeline) (limit : Nat) : (t.step limit).dueBy limit = [] := by
  have h := t.dueBy_append_dueBy_step (Nat.le_refl limit)
  exact List.append_right_eq_self.1 h

/-- A pause puts the question that is due by its end. -/
theorem asked_pause (t : Timeline) (millis : Nat) :
    (t.pause millis).asked = t.dueBy (t.now + millis) ++ t.asked := by
  show ((t.step _).step _).asked = _
  rw [asked_step, asked_step, dueBy_step]
  rfl

/-- A pause loses no question and leaves none to be put twice. -/
theorem dueBy_pause (t : Timeline) {millis : Nat} (hle : t.now + millis ≤ limit) :
    t.dueBy (t.now + millis) ++ (t.pause millis).dueBy limit = t.dueBy limit := by
  have hstep := (t.step (t.now + millis)).dueBy_append_dueBy_step hle
  rw [dueBy_step, List.nil_append] at hstep
  show _ ++ ((t.step _).step _).dueBy limit = _
  rw [hstep, t.dueBy_append_dueBy_step hle]

theorem reverse_dueBy (t : Timeline) (limit : Nat) : (t.dueBy limit).reverse = t.dueBy limit := by
  unfold dueBy
  split
  · split <;> rfl
  · rfl

/-- After an edit the timer has the question about it, if it is valid. -/
theorem dueBy_edit (t : Timeline) (text : String) (limit : Nat) :
    (t.edit text).dueBy limit =
      if (Validation.ofText t.session.catalog text).valid = true ∧
          t.now + t.session.settings.quiet ≤ limit then
        [.check (t.now + t.session.settings.quiet) (.ofSettings t.session.settings text)]
      else [] := by
  unfold dueBy edit Session.edit
  dsimp only
  cases (Validation.ofText t.session.catalog text).valid <;> simp

/-! ### Runs -/

/-- What a move does. -/
def apply (t : Timeline) : Move → Timeline
  | .edit text => t.edit text
  | .pause millis => t.pause millis
  | .close => t.close

/-- The session after some moves. -/
def play (t : Timeline) (moves : List Move) : Timeline := moves.foldl apply t

/-- The clock changes nothing of a session but what is shown. -/
theorem session_step (t : Timeline) (limit : Nat) :
    ∃ latest, (t.step limit).session = { t.session with latest } := by
  rcases t.step_cases limit with ⟨-, h⟩ | ⟨i, due, -, -, h⟩ | ⟨i, due, reply, -, -, h⟩
  · rw [h]
    exact ⟨t.session.latest, rfl⟩
  · rw [h]
    exact ⟨t.session.latest, rfl⟩
  · rw [h, session_hear]
    unfold Session.answer Session.answer?
    split
    · split <;> exact ⟨_, rfl⟩
    · exact ⟨_, rfl⟩

theorem session_pause (t : Timeline) (millis : Nat) :
    ∃ latest, (t.pause millis).session = { t.session with latest } := by
  obtain ⟨first, h⟩ := t.session_step (t.now + millis)
  obtain ⟨second, h'⟩ := (t.step (t.now + millis)).session_step (t.now + millis)
  rw [h] at h'
  exact ⟨second, h'⟩

/-- The questions of a run from any point on: those put so far, the one on the timer if nothing is
done before it is due, and those about the edits to come. -/
theorem asked_play_eq (t : Timeline) (moves : List Move) (h : t.dueBy t.now = []) :
    (t.play moves).asked.reverse = t.asked.reverse ++ (t.dueBy (t.now + Move.silence moves) ++
      ((timedEdits t.now moves).filter (·.isAsked t.session.catalog t.session.settings)).map
        (·.question t.session.settings)) := by
  induction moves generalizing t with
  | nil =>
    rw [Move.silence, Nat.add_zero, h]
    exact (List.append_nil _).symm
  | cons move moves ih =>
    cases move with
    | edit text =>
      have hpos : 0 < t.session.settings.quiet :=
        Nat.lt_of_lt_of_le (by decide) t.session.settings.minQuiet_le_quiet
      have hstart : (t.edit text).dueBy (t.edit text).now = [] := by
        rw [dueBy_edit]
        refine if_neg fun ⟨_, hle⟩ ↦ ?_
        have hle : t.now + t.session.settings.quiet ≤ t.now := hle
        omega
      have hrest := ih (t.edit text) hstart
      rw [dueBy_edit] at hrest
      rw [Move.silence, Nat.add_zero, h, List.nil_append]
      refine hrest.trans (congrArg (t.asked.reverse ++ ·) ?_)
      -- The edit is the first of those to come, and after it the one whose timer runs.
      simp only [timedEdits, List.filter_cons, TimedEdit.isAsked, Bool.and_eq_true,
        decide_eq_true_eq]
      by_cases hasked : (Validation.ofText t.session.catalog text).valid = true ∧
          t.session.settings.quiet ≤ Move.silence moves
      · have hdue : t.now + t.session.settings.quiet ≤ (t.edit text).now + Move.silence moves :=
          Nat.add_le_add_left hasked.2 t.now
        rw [if_pos hasked, if_pos ⟨hasked.1, hdue⟩]
        rfl
      · rw [if_neg hasked, if_neg ?_]
        · rfl
        · exact fun ⟨hv, hle⟩ ↦ hasked ⟨hv, Nat.le_of_add_le_add_left hle⟩
    | pause millis =>
      have hstart : (t.pause millis).dueBy (t.now + millis) = [] :=
        (t.step (t.now + millis)).dueBy_step (t.now + millis)
      have hrest := ih (t.pause millis) hstart
      obtain ⟨latest, hsession⟩ := t.session_pause millis
      have hdue := t.dueBy_pause (Nat.le_add_right (t.now + millis) (Move.silence moves))
      rw [hsession, asked_pause, List.reverse_append, reverse_dueBy, List.append_assoc,
        ← List.append_assoc (t.dueBy _)] at hrest
      rw [Move.silence, ← Nat.add_assoc, ← hdue]
      exact hrest
    | close =>
      rw [Move.silence, Nat.add_zero, h]
      exact ih t.close rfl

/-- A session asks the server about exactly the edits that are valid and after which nothing is done
for the quiet period. It asks once about each, when that period ends, on the text as it stands and
under the settings of the session: for a test where a source is selected, and for a validation where
none is. So no text that is wrong by itself is sent, and from one question to the next at least a
quiet period passes. -/
theorem asked_play (catalog : Catalog) (settings : EditorSettings) (replies : List TimedReply)
    (otherwise : Server.Request → TimedReply) (moves : List Move) :
    let quiet := max 300 (min settings.quietMillis 500)
    let asked := ((start (.start catalog settings) replies otherwise).play moves).asked.reverse
    asked = ((timedEdits 0 moves).filter fun e ↦
        (Validation.ofText catalog e.text).valid && decide (quiet ≤ e.silence)).map
      (fun e ↦ .check (e.time + quiet)
        ⟨e.text, settings.sourceKind, settings.sourceId, settings.isInverse⟩) ∧
    (∀ a ∈ asked, (Validation.ofText catalog a.request.expression).valid = true ∧
      a.question = (if settings.sourceId.isSome then .test a.request else .validate a.request) ∧
      a.question.call.path =
        if settings.sourceId.isSome then "/filters/test" else "/filters/validate") ∧
    asked.Pairwise fun a b ↦ a.time + quiet ≤ b.time := by
  intro quiet asked
  have hasked : asked = ((timedEdits 0 moves).filter (·.isAsked catalog settings)).map
      (·.question settings) :=
    asked_play_eq (start (.start catalog settings) replies otherwise) moves rfl
  refine ⟨hasked, fun a ha ↦ ?_, ?_⟩
  · rw [hasked] at ha
    obtain ⟨e, he, rfl⟩ := List.mem_map.1 ha
    have hvalid := (List.mem_filter.1 he).2
    rw [TimedEdit.isAsked, Bool.and_eq_true] at hvalid
    have hquestion : (e.question settings).question =
        if settings.sourceId.isSome then .test (.ofSettings settings e.text)
        else .validate (.ofSettings settings e.text) := rfl
    have hrequest : (e.question settings).request = .ofSettings settings e.text :=
      Asked.request_check ..
    rw [hrequest]
    refine ⟨hvalid.1, hquestion, ?_⟩
    rw [hquestion]
    split <;> rfl
  · rw [hasked, List.pairwise_map]
    refine ((TimedEdit.pairwise_timedEdits 0 moves).filter _).imp_of_mem ?_
    intro e f he _ hle
    have hquiet := (List.mem_filter.1 he).2
    rw [TimedEdit.isAsked, Bool.and_eq_true, decide_eq_true_eq] at hquiet
    have hquiet : settings.quiet ≤ e.silence := hquiet.2
    show e.time + settings.quiet + settings.quiet ≤ f.time + settings.quiet
    omega

end Timeline

end FilterLang
