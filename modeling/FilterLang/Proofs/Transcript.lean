import FilterLang.Proofs.Outcome
import FilterLang.Session.EditLoop

/-!
# What is shown of lines

Where all lines are there at once, the loop that edits line by line takes them while no time passes,
in whatever order it looks at the lines and at what is new. So the quiet period after a line ends
only when all of them are taken, and the server is asked about the last one at most. Each line is
shown once, with its own result, and the verdict on the last one comes after them all
(`EditLoop.shown_of_lines`).

`EditLoop.Took` says what a loop has done after some lines: everything is shown, nothing is new, and
the timer runs for the last line if that is valid. Turns keep this (`Took.apply`, `Took.play`). At
the end the loop waits longer than the quiet period and the time that the server takes.
-/

namespace FilterLang

/-- The results of lines that are the first edits of a session. -/
def lineUpdates (catalog : Catalog) (lines : List String) : List Update :=
  lines.mapIdx fun k line ↦ ⟨k + 1, line, .ofText catalog line⟩

/-- The update with the verdict on the last of some lines, if that line is valid. -/
def verdictUpdate (catalog : Catalog) (settings : EditorSettings) (replies : List TimedReply)
    (otherwise : Server.Request → TimedReply) (lines : List String) : List Update :=
  match lines.getLast? with
  | none => []
  | some line =>
    let request : Server.Request := .ofSettings settings line
    let next := replies.head?.getD (otherwise request)
    let result := Validation.ofText catalog line
    if result.valid then
      [⟨lines.length, line, result.merge (Server.verdictOf request next.reply)⟩]
    else []

namespace EditLoop

variable {catalog : Catalog} {settings : EditorSettings} {replies : List TimedReply}
  {otherwise : Server.Request → TimedReply} {taken rest : List String} {line : String}
  {l : EditLoop}

theorem lineUpdates_concat (catalog : Catalog) (taken : List String) (line : String) :
    lineUpdates catalog (taken ++ [line]) =
      lineUpdates catalog taken ++ [⟨taken.length + 1, line, .ofText catalog line⟩] := by
  simp [lineUpdates, List.mapIdx_append]

/-- The inquiry about the last of some lines, if that is valid, at the given time. -/
def inquiryAbout (catalog : Catalog) (settings : EditorSettings) (now : Nat) (taken : List String) :
    Option OpenInquiry :=
  taken.getLast?.bind fun line ↦
    let result := Validation.ofText catalog line
    let inquiry : Inquiry := ⟨taken.length, .ofSettings settings line, result⟩
    if result.valid then some (.waiting inquiry (now + settings.quiet)) else none

/-- Whether a loop took some lines while no time passed, and others are to come. -/
structure Took (catalog : Catalog) (settings : EditorSettings) (replies : List TimedReply)
    (otherwise : Server.Request → TimedReply) (taken rest : List String) (l : EditLoop) :
    Prop where
  lines : l.lines = rest
  shown : l.shown = lineUpdates catalog taken
  edits : l.timeline.session.edits = taken.length
  latest : l.timeline.session.latest = (lineUpdates catalog taken).getLast?
  inquiry : l.timeline.inquiry = inquiryAbout catalog settings l.timeline.now taken
  unseen : l.timeline.unseen = false
  asked : l.timeline.asked = []
  keeps : Timeline.Keeps catalog settings replies otherwise l.timeline

theorem took_start (lines : List String) : Took catalog settings replies otherwise [] lines
    (start (.start (.start catalog settings) replies otherwise) lines) :=
  ⟨rfl, rfl, rfl, rfl, rfl, rfl, rfl, Timeline.keeps_start⟩

/-! ### Turns -/

/-- Nothing is due while no time passes. -/
theorem Took.isIdleUntil (h : Took catalog settings replies otherwise taken rest l) :
    l.timeline.IsIdleUntil l.timeline.now := by
  have hpos : 0 < settings.quiet := Nat.lt_of_lt_of_le (by decide) settings.minQuiet_le_quiet
  intro o ho
  rw [h.inquiry, inquiryAbout] at ho
  obtain ⟨line, -, ho⟩ := Option.bind_eq_some_iff.1 ho
  dsimp only at ho
  split at ho
  · cases ho
    exact Nat.lt_add_of_pos_right hpos
  · cases ho

theorem Took.takes (h : Took catalog settings replies otherwise taken (line :: rest) l) :
    Took catalog settings replies otherwise (taken ++ [line]) rest (l.apply .line) := by
  have hcatalog := h.keeps.catalog
  have hsettings := h.keeps.settings
  have hupdate : (l.timeline.edit line).session.latest =
      some ⟨taken.length + 1, line, .ofText catalog line⟩ := by
    rw [← h.edits, ← hcatalog]
    rfl
  have happly : l.apply .line = { l with timeline := l.timeline.edit line, lines := rest }.look
      fun _ ↦ true := by
    rw [EditLoop.apply, h.lines]
  rw [happly]
  refine ⟨rfl, ?shown, ?edits, ?latest, ?inquiry, rfl, h.asked,
    ⟨h.keeps.catalog, h.keeps.settings, h.keeps.replies, h.keeps.otherwise⟩⟩
  case shown =>
    rw [lineUpdates_concat, ← h.shown, EditLoop.look]
    dsimp only
    rw [hupdate]
    rfl
  case edits =>
    rw [List.length_append, ← h.edits]
    rfl
  case latest =>
    rw [lineUpdates_concat, List.getLast?_concat]
    exact hupdate
  case inquiry =>
    refine (l.timeline.inquiry_edit line).trans ?_
    rw [inquiryAbout, List.getLast?_concat, List.length_append, ← h.edits, hcatalog, hsettings]
    rfl

/-- While no time passes, a turn takes the next line or changes nothing. -/
theorem Took.apply (h : Took catalog settings replies otherwise taken rest l) {turn : Turn}
    (hstill : ∀ millis, turn = .pause millis → millis = 0) :
    (turn = .line ∧ ∃ line rest', rest = line :: rest' ∧
      Took catalog settings replies otherwise (taken ++ [line]) rest' (l.apply turn)) ∨
    (turn = .line → rest = []) ∧ l.apply turn = l := by
  cases turn with
  | line =>
    cases rest with
    | nil => exact .inr ⟨fun _ ↦ rfl, by simp [EditLoop.apply, h.lines]⟩
    | cons line rest => exact .inl ⟨rfl, line, rest, rfl, h.takes⟩
  | update => exact .inr ⟨nofun, by simp [EditLoop.apply, h.unseen]⟩
  | pause millis =>
    obtain rfl := hstill millis rfl
    refine .inr ⟨nofun, ?_⟩
    rw [EditLoop.apply, Timeline.pause_zero h.isIdleUntil]

/-- The lines are taken one after another. -/
theorem Took.play (h : Took catalog settings replies otherwise taken rest l) {turns : List Turn}
    (hstill : ∀ millis, .pause millis ∈ turns → millis = 0) :
    Took catalog settings replies otherwise (taken ++ rest.take (turns.count .line))
      (rest.drop (turns.count .line)) (l.play turns) := by
  induction turns generalizing taken rest l with
  | nil => simpa [EditLoop.play] using h
  | cons turn turns ih =>
    have hstill' : ∀ millis, .pause millis ∈ turns → millis = 0 :=
      fun millis hmem ↦ hstill millis (List.mem_cons_of_mem _ hmem)
    rw [EditLoop.play, List.foldl_cons, ← EditLoop.play]
    rcases h.apply fun millis hturn ↦ hstill millis (hturn ▸ List.mem_cons_self) with
      ⟨rfl, line, rest', rfl, hline⟩ | ⟨hnone, hsame⟩
    · have := ih hline hstill'
      simpa using this
    · rw [hsame]
      by_cases hturn : turn = .line
      · obtain rfl := hnone hturn
        simpa using ih h hstill'
      · rw [List.count_cons_of_ne hturn]
        exact ih h hstill'

/-! ### The end -/

theorem awaitsServer_of_latest {t : Timeline} {u : Update} (h : t.session.latest = some u) :
    t.awaitsServer = u.awaitsServer := by
  rw [Timeline.awaitsServer, h, Option.any_some]

/-- When all lines are taken, the verdict on the last one is waited for, if it is valid. -/
theorem Took.shown_finish {lines : List String} {patience : Nat}
    (h : Took catalog settings replies otherwise lines [] l)
    (hpatience : ∀ request,
      settings.quiet + (replies.head?.getD (otherwise request)).latency ≤ patience) :
    (l.finish patience).shown = lineUpdates catalog lines ++
      verdictUpdate catalog settings replies otherwise lines := by
  have hlatest := h.latest
  have hinquiry := h.inquiry
  rcases List.eq_nil_or_concat lines with rfl | ⟨init, line, rfl⟩
  · have hnone : l.timeline.session.latest = none := hlatest
    simp [finish, Timeline.awaitsServer, hnone, h.unseen, h.shown, verdictUpdate]
  · rw [List.concat_eq_append] at h hlatest hinquiry ⊢
    rw [lineUpdates_concat, List.getLast?_concat] at hlatest
    rw [inquiryAbout, List.getLast?_concat] at hinquiry
    have hawaits : l.timeline.awaitsServer = (Validation.ofText catalog line).valid := by
      rw [awaitsServer_of_latest hlatest]
      exact Bool.and_true _
    rw [verdictUpdate, List.getLast?_concat]
    dsimp only
    by_cases hvalid : (Validation.ofText catalog line).valid = true
    · rw [if_pos hvalid]
      rw [Option.bind_some, if_pos hvalid, List.length_append] at hinquiry
      have hreplies : l.timeline.replies = replies := by
        rw [h.keeps.replies, h.asked, List.length_nil, List.drop_zero]
      let request : Server.Request := .ofSettings settings line
      let next := replies.head?.getD (otherwise request)
      have hanswer : (l.timeline.pause patience).session.latest = some ⟨init.length + 1, line,
          (Validation.ofText catalog line).merge (Server.verdictOf request next.reply)⟩ := by
        have hdue : l.timeline.now + settings.quiet + next.latency ≤ l.timeline.now + patience := by
          have : settings.quiet + next.latency ≤ patience := hpatience request
          omega
        refine (Timeline.latest_pause_waiting hinquiry hlatest rfl patience).trans ?_
        rw [hreplies, h.keeps.otherwise]
        exact congrArg some (if_pos hdue)
      have hanswered := awaitsServer_of_latest hanswer
      rw [Update.awaitsServer, Update.isAuthoritative, Validation.server_merge,
        Option.isSome_some, Bool.not_true, Bool.and_false] at hanswered
      have hfinish : l.finish patience =
          { l with timeline := l.timeline.pause patience }.look Update.isAuthoritative := by
        rw [finish, hawaits, if_pos hvalid]
        exact if_neg (by simp [hanswered])
      rw [hfinish, look]
      dsimp only
      rw [hanswer, h.shown, List.length_append]
      rfl
    · have hwaits : l.timeline.awaitsServer = false := by rw [hawaits]; simpa using hvalid
      rw [if_neg hvalid, finish, hwaits, h.unseen, List.append_nil]
      exact h.shown

/-- Where no time passes while there are lines, and the server takes no longer than it has, every
line is shown once, with its number, its text and its own result. Then the verdict on the last line
is shown, if that line is valid, and nothing else. The order in which the loop looks at lines and at
what is new does not matter. -/
theorem shown_of_lines (catalog : Catalog) (c : Settings) (replies : List TimedReply)
    (otherwise : Server.Request → TimedReply) (lines : List String)
    (hreplies : ∀ r ∈ replies, r.latency ≤ c.server.timeoutSeconds * 1000)
    (hotherwise : ∀ request, (otherwise request).latency ≤ c.server.timeoutSeconds * 1000) :
    let t := Timeline.start (.start catalog c.editor) replies otherwise
    let results := lineUpdates catalog lines
    let verdict := verdictUpdate catalog c.editor replies otherwise lines
    (∀ turns, lines.length ≤ turns.count .line → (∀ millis, .pause millis ∈ turns → millis = 0) →
      (((start t lines).play turns).finish c.patience).shown = results ++ verdict) ∧
    t.transcript c.patience lines = results ++ verdict ∧
    (∀ u ∈ results, u.isAuthoritative = false) ∧ ∀ u ∈ verdict, u.isAuthoritative = true := by
  intro t results verdict
  have hpatience (request : Server.Request) :
      c.editor.quiet + (replies.head?.getD (otherwise request)).latency ≤ c.patience := by
    have hlatency : (replies.head?.getD (otherwise request)).latency ≤
        c.server.timeoutSeconds * 1000 := by
      cases replies with
      | nil => exact hotherwise request
      | cons r replies => exact hreplies r List.mem_cons_self
    rw [Settings.patience]
    omega
  have hturns : ∀ turns, lines.length ≤ turns.count .line →
      (∀ millis, .pause millis ∈ turns → millis = 0) →
      (((start t lines).play turns).finish c.patience).shown = results ++ verdict := by
    intro turns hcount hstill
    have hstart : Took catalog c.editor replies otherwise [] lines (start t lines) :=
      took_start lines
    have htook := hstart.play hstill
    rw [List.nil_append, List.take_of_length_le hcount, List.drop_of_length_le hcount] at htook
    exact htook.shown_finish hpatience
  refine ⟨hturns, hturns _ ?_ ?_, fun u hu ↦ ?_, fun u hu ↦ ?_⟩
  · simp
  · simp
  · obtain ⟨k, hk, rfl⟩ := List.mem_mapIdx.1 hu
    rfl
  · simp only [verdict, verdictUpdate] at hu
    split at hu
    · cases hu
    · split at hu
      · obtain rfl := List.mem_singleton.1 hu
        rfl
      · cases hu

/-- Two lines, of which the second is valid, before a server that confirms it. -/
theorem shown_of_two_lines :
    let reply (_ : Server.Request) : TimedReply := ⟨20, .ok (.obj [("is_valid", .bool true)])⟩
    let t := Timeline.start (.start .builtin Settings.default.editor) [] reply
    let lines := ["channel_name cont", "channel_name contains 'x'"]
    let turns : List Turn := [.line, .update, .pause 0, .line]
    (((start t lines).play turns).finish Settings.default.patience).shown.map
      (fun u ↦ (u.generation, u.isAuthoritative, u.result.valid)) =
        [(1, false, false), (2, false, true), (2, true, true)] := by
  intro reply t lines turns
  have hshown := (shown_of_lines .builtin .default [] reply lines (by simp)
    fun _ ↦ by decide).1 turns (by decide) (by simp [turns])
  rw [hshown]
  decide +kernel

end EditLoop

end FilterLang
