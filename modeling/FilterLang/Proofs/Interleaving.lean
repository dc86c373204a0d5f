import FilterLang.Session.Timeline
import Mathlib.Data.List.Nodup

/-!
# Sessions among their checks

The checks that a session schedules run beside it and beside each other. A further edit withdraws
them, but withdrawing may come too late, and then the check of an earlier edit is finished all the
same. So any number of checks may be on their way, and they end in any order.

`Step` is one thing that happens, to a session, to the errands that carry its checks, and to a
record of what was said and shown. What a session shows is right however the steps interleave: `Inv`
holds of every situation that can come about (`inv_of_reachable`), and a late verdict never replaces
what is shown for a later edit. A session on a clock is one such interleaving
(`Timeline.exists_reachable_of_run`).
-/

namespace FilterLang

/-! ### Situations -/

/-- How far the check of an edit by the server has come. -/
inductive Stage where
  /-- The quiet period lasts. -/
  | waiting
  /-- The quiet period is over. -/
  | due
  /-- The server was asked. -/
  | asked
  /-- The server answered, and its verdict is not merged yet. -/
  | answered (reply : Server.Reply)

/-- The check of an edit by the server, on its way. -/
structure Errand where
  inquiry : Inquiry
  stage : Stage
  /-- Whether it was called back. It may end nevertheless. -/
  withdrawn : Bool

namespace Errand

/-- The edit that an errand is about. -/
def generation (e : Errand) : Nat := e.inquiry.generation

/-- Calls an errand back. -/
def withdraw (e : Errand) : Errand := { e with withdrawn := true }

end Errand

/-- A request that was sent for an edit, and what came back. -/
structure Exchange where
  generation : Nat
  request : Server.Request
  reply : Server.Reply

/-- A session, its errands, and what happened so far. -/
structure Situation where
  session : Session
  errands : List Errand
  /-- The texts of the edits. -/
  texts : List String
  exchanges : List Exchange
  /-- What was shown, the latest update last. -/
  published : List Update

namespace Situation

/-- A session before its first edit. -/
def start (catalog : Catalog) (settings : EditorSettings) : Situation :=
  ⟨.start catalog settings, [], [], [], []⟩

/-- Takes an edit: the errands on their way are called back, the result is shown, and if it is valid
a new errand sets out. -/
def edit (s : Situation) (text : String) : Situation :=
  let (session, inquiry) := s.session.edit text
  { s with
    session
    errands := s.errands.map Errand.withdraw ++ (inquiry.map (⟨·, .waiting, false⟩)).toList
    texts := s.texts ++ [text]
    published := s.published ++ session.latest.toList }

/-- Takes the reply to an inquiry. The result is shown if it is still about the latest edit. -/
def merge (s : Situation) (i : Inquiry) (reply : Server.Reply) : Situation :=
  match s.session.answer? i (Server.verdictOf i.request reply) with
  | some session => { s with session, published := s.published ++ session.latest.toList }
  | none => s

end Situation

/-- One thing that happens. The errands take their steps in any order, whether they were called back
or not. -/
inductive Step : Situation → Situation → Prop
  | edit {s : Situation} (text : String) : Step s (s.edit text)
  /-- The end of the session calls all errands back. -/
  | close {s : Situation} : Step s { s with errands := s.errands.map Errand.withdraw }
  /-- An errand that was called back stops where it is. -/
  | cancel {s : Situation} {before after : List Errand} {i : Inquiry} {stage : Stage}
      (h : s.errands = before ++ ⟨i, stage, true⟩ :: after) :
      Step s { s with errands := before ++ after }
  /-- The quiet period of an errand ends. -/
  | elapse {s : Situation} {before after : List Errand} {i : Inquiry} {w : Bool}
      (h : s.errands = before ++ ⟨i, .waiting, w⟩ :: after) :
      Step s { s with errands := before ++ ⟨i, .due, w⟩ :: after }
  /-- The server is asked. -/
  | ask {s : Situation} {before after : List Errand} {i : Inquiry} {w : Bool}
      (h : s.errands = before ++ ⟨i, .due, w⟩ :: after) :
      Step s { s with errands := before ++ ⟨i, .asked, w⟩ :: after }
  /-- A reply arrives, be it an answer or a failure. -/
  | reply {s : Situation} {before after : List Errand} {i : Inquiry} {w : Bool} (r : Server.Reply)
      (h : s.errands = before ++ ⟨i, .asked, w⟩ :: after) :
      Step s { s with
        errands := before ++ ⟨i, .answered r, w⟩ :: after
        exchanges := s.exchanges ++ [⟨i.generation, i.request, r⟩] }
  /-- The verdict is merged, which ends the errand. -/
  | merge {s : Situation} {before after : List Errand} {i : Inquiry} {w : Bool} {r : Server.Reply}
      (h : s.errands = before ++ ⟨i, .answered r, w⟩ :: after) :
      Step s ({ s with errands := before ++ after }.merge i r)

/-- The situations that can come about. -/
inductive Reachable (catalog : Catalog) (settings : EditorSettings) : Situation → Prop
  | start : Reachable catalog settings (.start catalog settings)
  | step {s s' : Situation} (h : Reachable catalog settings s) (hs : Step s s') :
      Reachable catalog settings s'

/-! ### What holds of updates and errands -/

/-- Whether an update belongs in front of another: its edit is earlier, or it is the first of the
two updates about one edit. -/
def Update.Before (u v : Update) : Prop :=
  u.generation < v.generation ∨
    u.generation = v.generation ∧ u.isAuthoritative = false ∧ v.isAuthoritative = true

namespace Situation

variable {s s' : Situation} {u : Update} {e : Errand}

/-- Whether an update shows the result of the edit that it names: the local result, or that of a
valid text merged with the verdict of the server on that very text. -/
def Shows (s : Situation) (u : Update) : Prop :=
  ∃ n, u.generation = n + 1 ∧ s.texts[n]? = some u.text ∧
    (u.result = .ofText s.session.catalog u.text ∨
      (Validation.ofText s.session.catalog u.text).valid = true ∧
        ∃ reply, ⟨u.generation, .ofSettings s.session.settings u.text, reply⟩ ∈ s.exchanges ∧
          u.result = (Validation.ofText s.session.catalog u.text).merge
            (Server.verdictOf (.ofSettings s.session.settings u.text) reply))

/-- Whether an errand carries the check of the edit that it names, and only a reply that came for
it. -/
def Carries (s : Situation) (e : Errand) : Prop :=
  ∃ n text, e.generation = n + 1 ∧ s.texts[n]? = some text ∧
    (Validation.ofText s.session.catalog text).valid = true ∧
    e.inquiry = ⟨n + 1, .ofSettings s.session.settings text, .ofText s.session.catalog text⟩ ∧
    ∀ reply, e.stage = .answered reply → ⟨n + 1, e.inquiry.request, reply⟩ ∈ s.exchanges

/-- Whether a situation is a later one of the same session. -/
structure Extends (s' s : Situation) : Prop where
  catalog : s'.session.catalog = s.session.catalog
  settings : s'.session.settings = s.session.settings
  texts : ∃ texts, s'.texts = s.texts ++ texts
  exchanges : s.exchanges ⊆ s'.exchanges

theorem Extends.getElem?_texts (h : s'.Extends s) {n : Nat} {text : String}
    (hn : s.texts[n]? = some text) : s'.texts[n]? = some text := by
  obtain ⟨texts, ht⟩ := h.texts
  obtain ⟨hlt, -⟩ := List.getElem?_eq_some_iff.1 hn
  rw [ht, List.getElem?_append_left hlt, hn]

theorem Shows.mono (hu : s.Shows u) (h : s'.Extends s) : s'.Shows u := by
  obtain ⟨n, hn, htext, hresult⟩ := hu
  refine ⟨n, hn, h.getElem?_texts htext, ?_⟩
  rw [h.catalog, h.settings]
  rcases hresult with hresult | ⟨hvalid, reply, hmem, hresult⟩
  · exact .inl hresult
  · exact .inr ⟨hvalid, reply, h.exchanges hmem, hresult⟩

theorem Carries.mono (he : s.Carries e) (h : s'.Extends s) : s'.Carries e := by
  obtain ⟨n, text, hn, htext, hvalid, hi, hreply⟩ := he
  refine ⟨n, text, hn, h.getElem?_texts htext, ?_⟩
  rw [h.catalog, h.settings]
  exact ⟨hvalid, hi, fun reply hr ↦ h.exchanges (hreply reply hr)⟩

theorem Shows.generation_le (hu : s.Shows u) :
    1 ≤ u.generation ∧ u.generation ≤ s.texts.length := by
  obtain ⟨n, hn, htext, -⟩ := hu
  obtain ⟨hlt, -⟩ := List.getElem?_eq_some_iff.1 htext
  omega

theorem Carries.generation_le (he : s.Carries e) : e.generation ≤ s.texts.length := by
  obtain ⟨n, text, hn, htext, -⟩ := he
  obtain ⟨hlt, -⟩ := List.getElem?_eq_some_iff.1 htext
  omega

/-! ### The invariant -/

/-- What holds of every situation that can come about. Each edit has one errand at most, and none
once its verdict is shown. -/
structure Inv (s : Situation) : Prop where
  edits : s.session.edits = s.texts.length
  latest : s.session.latest = s.published.getLast?
  current : ∀ u ∈ s.published.getLast?, u.generation = s.texts.length
  shows : ∀ u ∈ s.published, s.Shows u
  carries : ∀ e ∈ s.errands, s.Carries e
  distinct : (s.errands.map Errand.generation).Nodup
  pending : ∀ g ∈ s.errands.map Errand.generation, ∀ u ∈ s.published,
    u.isAuthoritative = true → u.generation ≠ g
  increasing : s.published.Pairwise Update.Before
  locals : (s.published.filter (!·.isAuthoritative)).map Update.generation =
    List.range' 1 s.texts.length

theorem inv_start (catalog : Catalog) (settings : EditorSettings) :
    (start catalog settings).Inv := by
  constructor <;> simp [start, Session.start]

/-- The invariant survives what only moves errands: they stay those of the same edits, or go. -/
theorem Inv.of_errands (h : s.Inv) {errands : List Errand} {exchanges : List Exchange}
    (hex : s.exchanges ⊆ exchanges)
    (hgen : (errands.map Errand.generation).Sublist (s.errands.map Errand.generation))
    (hcarries : ∀ e ∈ errands, Carries { s with errands, exchanges } e) :
    Inv { s with errands, exchanges } := by
  have hext : Extends { s with errands, exchanges } s := ⟨rfl, rfl, ⟨[], by simp⟩, hex⟩
  exact {
    edits := h.edits
    latest := h.latest
    current := h.current
    shows := fun u hu ↦ (h.shows u hu).mono hext
    carries := hcarries
    distinct := h.distinct.sublist hgen
    pending := fun g hg ↦ h.pending g (hgen.subset hg)
    increasing := h.increasing
    locals := h.locals }

theorem Inv.carries_of_mem (h : s.Inv) {errands : List Errand} {exchanges : List Exchange}
    (hex : s.exchanges ⊆ exchanges) (he : e ∈ s.errands) :
    Carries { s with errands, exchanges } e :=
  (h.carries e he).mono ⟨rfl, rfl, ⟨[], by simp⟩, hex⟩

/-- An errand ends. -/
theorem Inv.remove (h : s.Inv) {before after : List Errand}
    (he : s.errands = before ++ e :: after) : Inv { s with errands := before ++ after } := by
  have hsub : (before ++ after).Sublist s.errands := by
    rw [he]
    exact (List.sublist_cons_self e after).append_left before
  refine h.of_errands (fun _ h ↦ h) (hsub.map _) fun e' he' ↦ ?_
  exact h.carries_of_mem (fun _ h ↦ h) (hsub.subset he')

/-- An errand goes one stage further. -/
theorem Inv.replace (h : s.Inv) {before after : List Errand} {e' : Errand}
    {exchanges : List Exchange} (he : s.errands = before ++ e :: after)
    (hi : e'.inquiry = e.inquiry) (hex : s.exchanges ⊆ exchanges)
    (hreply : ∀ reply, e'.stage = .answered reply →
      ⟨e'.generation, e'.inquiry.request, reply⟩ ∈ exchanges) :
    Inv { s with errands := before ++ e' :: after, exchanges } := by
  have hgen : (before ++ e' :: after).map Errand.generation =
      s.errands.map Errand.generation := by
    rw [he, List.map_append, List.map_append, List.map_cons, List.map_cons, Errand.generation, hi]
    rfl
  refine h.of_errands hex (by rw [hgen]) fun x hx ↦ ?_
  have hsub : ∀ x ∈ before ++ after, x ∈ s.errands := fun x hx ↦ by
    rw [he]
    exact ((List.sublist_cons_self e after).append_left before).subset hx
  rw [List.mem_append, List.mem_cons, or_left_comm, ← List.mem_append] at hx
  rcases hx with rfl | hx
  · obtain ⟨n, text, hn, htext, hvalid, hinq, -⟩ := h.carries e (by simp [he])
    have hgen : x.generation = n + 1 := (congrArg Inquiry.generation hi).trans hn
    refine ⟨n, text, hgen, htext, hvalid, hi.trans hinq, fun reply hr ↦ ?_⟩
    rw [← hgen]
    exact hreply reply hr
  · exact h.carries_of_mem hex (hsub x hx)

/-! ### Edits -/

variable {text : String}

/-- What is shown for an edit. -/
def shown (s : Situation) (text : String) : Update :=
  ⟨s.session.edits + 1, text, .ofText s.session.catalog text⟩

/-- The errand that sets out with a valid edit. -/
def errand (s : Situation) (text : String) : Errand :=
  ⟨⟨s.session.edits + 1, .ofSettings s.session.settings text, .ofText s.session.catalog text⟩,
    .waiting, false⟩

theorem published_edit (s : Situation) (text : String) :
    (s.edit text).published = s.published ++ [s.shown text] := rfl

theorem texts_edit (s : Situation) (text : String) : (s.edit text).texts = s.texts ++ [text] := rfl

theorem errands_edit (s : Situation) (text : String) :
    (s.edit text).errands = s.errands.map Errand.withdraw ++
      if (Validation.ofText s.session.catalog text).valid then [s.errand text] else [] := by
  unfold edit Session.edit
  dsimp only
  split <;> rfl

theorem extends_edit (s : Situation) (text : String) : (s.edit text).Extends s :=
  ⟨rfl, rfl, ⟨[text], rfl⟩, fun _ h ↦ h⟩

theorem server_ofText (catalog : Catalog) (text : String) :
    (Validation.ofText catalog text).server = none := rfl

theorem isAuthoritative_shown (s : Situation) (text : String) :
    (s.shown text).isAuthoritative = false := rfl

theorem map_generation_withdraw (errands : List Errand) :
    (errands.map Errand.withdraw).map Errand.generation = errands.map Errand.generation := by
  rw [List.map_map]
  rfl

/-- The edits that errands are about, after one more. -/
theorem mem_generations_edit {g : Nat}
    (hg : g ∈ (s.edit text).errands.map Errand.generation) :
    g ∈ s.errands.map Errand.generation ∨ g = s.session.edits + 1 := by
  rw [errands_edit, List.map_append, map_generation_withdraw, List.mem_append] at hg
  rcases hg with hg | hg
  · exact .inl hg
  · split at hg
    · exact .inr (List.mem_singleton.1 hg)
    · simp at hg

theorem getElem?_texts_edit (s : Situation) (text : String) :
    (s.edit text).texts[s.texts.length]? = some text := by
  rw [texts_edit]
  simp

/-- The errands on their way are about earlier edits. -/
theorem Inv.generation_lt (h : s.Inv) {g : Nat} (hg : g ∈ s.errands.map Errand.generation) :
    g < s.session.edits + 1 := by
  obtain ⟨e, he, rfl⟩ := List.mem_map.1 hg
  have := (h.carries e he).generation_le
  have := h.edits
  omega

/-- So are the updates. -/
theorem Inv.generation_lt_shown (h : s.Inv) (hu : u ∈ s.published) (text : String) :
    u.generation < (s.shown text).generation := by
  have hle := (h.shows u hu).generation_le.2
  rw [← h.edits] at hle
  exact Nat.lt_succ_of_le hle

theorem Inv.shows_shown (h : s.Inv) (text : String) : (s.edit text).Shows (s.shown text) :=
  ⟨s.texts.length, by rw [shown, h.edits], s.getElem?_texts_edit text, .inl rfl⟩

/-- The errand of a valid edit carries the check of that edit. -/
theorem Inv.carries_errand (h : s.Inv)
    (hvalid : (Validation.ofText s.session.catalog text).valid = true) :
    (s.edit text).Carries (s.errand text) := by
  refine ⟨s.texts.length, text, ?_, s.getElem?_texts_edit text, hvalid, ?_, ?_⟩
  · exact congrArg (· + 1) h.edits
  · rw [← h.edits]
    rfl
  · rintro reply ⟨⟩

/-- After an edit there still is one errand for each edit at most. -/
theorem Inv.distinct_edit (h : s.Inv) (text : String) :
    ((s.edit text).errands.map Errand.generation).Nodup := by
  rw [errands_edit, List.map_append, map_generation_withdraw]
  split
  · refine h.distinct.append (List.nodup_singleton _) fun g hg hg' ↦ ?_
    rw [List.mem_singleton.1 hg'] at hg
    exact Nat.lt_irrefl _ (h.generation_lt hg)
  · rw [List.map_nil, List.append_nil]
    exact h.distinct

theorem Inv.edit (h : s.Inv) (text : String) : (s.edit text).Inv := by
  have hext := s.extends_edit text
  refine ⟨?edits, ?latest, ?current, ?shows, ?carries, h.distinct_edit text, ?pending, ?increasing,
    ?locals⟩
  case edits =>
    rw [texts_edit, List.length_append, ← h.edits]
    rfl
  case latest =>
    rw [published_edit, List.getLast?_concat]
    rfl
  case current =>
    rw [published_edit, List.getLast?_concat, texts_edit, List.length_append, ← h.edits]
    rintro u ⟨⟩
    rfl
  case shows =>
    intro u hu
    rw [published_edit, List.mem_append, List.mem_singleton] at hu
    rcases hu with hu | rfl
    · exact (h.shows u hu).mono hext
    · exact h.shows_shown text
  case carries =>
    intro e he
    rw [errands_edit, List.mem_append] at he
    rcases he with he | he
    · obtain ⟨e', he', rfl⟩ := List.mem_map.1 he
      exact (h.carries e' he').mono hext
    · split at he
      · rename_i hvalid
        rw [List.mem_singleton.1 he]
        exact h.carries_errand hvalid
      · simp at he
  case pending =>
    -- What is shown for the new edit has no verdict, and the other updates are about earlier edits.
    intro g hg u hu hauth
    rw [published_edit, List.mem_append, List.mem_singleton] at hu
    rcases hu with hu | rfl
    · rcases mem_generations_edit hg with hg | rfl
      · exact h.pending g hg u hu hauth
      · exact Nat.ne_of_lt (h.generation_lt_shown hu text)
    · rw [isAuthoritative_shown] at hauth
      cases hauth
  case increasing =>
    rw [published_edit, List.pairwise_append]
    refine ⟨h.increasing, List.pairwise_singleton _ _, fun u hu v hv ↦ .inl ?_⟩
    rw [List.mem_singleton.1 hv]
    exact h.generation_lt_shown hu text
  case locals =>
    rw [published_edit, List.filter_append, List.map_append, h.locals, texts_edit,
      List.length_append, List.length_singleton, List.range'_1_concat, ← h.edits, Nat.add_comm 1]
    rfl

/-! ### Verdicts -/

variable {i : Inquiry} {r : Server.Reply} {w : Bool} {before after : List Errand}

/-- A verdict is shown with the latest update if it is about the same edit, and else is dropped. -/
theorem merge_cases (s : Situation) (i : Inquiry) (r : Server.Reply) :
    s.merge i r = s ∨ ∃ u u', s.session.latest = some u ∧ u.generation = i.generation ∧
      u' = { u with result := i.result.merge (Server.verdictOf i.request r) } ∧
      s.merge i r = { s with
        session := { s.session with latest := some u' }
        published := s.published ++ [u'] } := by
  unfold merge Session.answer?
  cases hu : s.session.latest with
  | none => exact .inl rfl
  | some u =>
    by_cases hg : u.generation = i.generation
    · refine .inr ⟨u, _, rfl, hg, rfl, ?_⟩
      dsimp only
      rw [if_pos hg]
      rfl
    · refine .inl ?_
      dsimp only
      rw [if_neg hg]

/-- A verdict that was not shown yet goes behind all that was shown. -/
theorem Inv.before_verdict (h : s.Inv) {v : Update} (hu : s.session.latest = some u)
    (hgen : v.generation = u.generation) (hauth : v.isAuthoritative = true)
    (hnew : ∀ x ∈ s.published, x.isAuthoritative = true → x.generation ≠ v.generation) :
    ∀ x ∈ s.published, x.Before v := by
  intro x hx
  have hlast : u.generation = s.texts.length := h.current u (h.latest ▸ hu)
  have hle := (h.shows x hx).generation_le
  rcases Nat.lt_or_ge x.generation v.generation with hlt | hge
  · exact .inl hlt
  · have heq : x.generation = v.generation := by omega
    refine .inr ⟨heq, ?_, hauth⟩
    cases hxa : x.isAuthoritative with
    | false => rfl
    | true => exact absurd heq (hnew x hx hxa)

/-- The invariant survives the end of an errand that is on its way no more, if its verdict was not
shown yet. -/
theorem Inv.merge (h : s.Inv) (hi : s.Carries ⟨i, .answered r, w⟩)
    (hgone : i.generation ∉ s.errands.map Errand.generation)
    (hnew : ∀ x ∈ s.published, x.isAuthoritative = true → x.generation ≠ i.generation) :
    (s.merge i r).Inv := by
  rcases merge_cases s i r with he | ⟨u, u', hu, hgen, hu', he⟩
  · rwa [he]
  rw [he]
  obtain ⟨n, text, hn, htext, hvalid, rfl, hreply⟩ := hi
  have hauth : u'.isAuthoritative = true := by
    rw [hu']
    rfl
  have hgen' : u'.generation = u.generation := by rw [hu']
  have hmem : u ∈ s.published := List.mem_of_getLast? (h.latest ▸ hu)
  have hshows : s.Shows u' := by
    obtain ⟨m, hm, hutext, -⟩ := h.shows u hmem
    -- The update that is shown is about the same edit, so its text is the one that was checked.
    obtain rfl : m = n := by
      have : u.generation = n + 1 := hgen.trans rfl
      omega
    obtain rfl : u.text = text := Option.some.inj (hutext.symm.trans htext)
    refine ⟨m, hgen'.trans hm, by rw [hu']; exact hutext, .inr ?_⟩
    rw [hu', hm]
    exact ⟨hvalid, r, hreply r rfl, rfl⟩
  have hext : Extends { s with
      session := { s.session with latest := some u' }
      published := s.published ++ [u'] } s := ⟨rfl, rfl, ⟨[], by simp⟩, fun _ h ↦ h⟩
  refine ⟨h.edits, ?latest, ?current, ?shows, fun e he ↦ (h.carries e he).mono hext, h.distinct,
    ?pending, ?increasing, ?locals⟩
  case latest =>
    exact List.getLast?_concat.symm
  case current =>
    rw [List.getLast?_concat]
    rintro _ ⟨⟩
    exact hgen'.trans (h.current u (h.latest ▸ hu))
  case shows =>
    intro x hx
    rcases List.mem_append.1 hx with hx | hx
    · exact (h.shows x hx).mono hext
    · rw [List.mem_singleton.1 hx]
      exact hshows.mono hext
  case pending =>
    intro g hg x hx hxauth
    rcases List.mem_append.1 hx with hx | hx
    · exact h.pending g hg x hx hxauth
    · rw [List.mem_singleton.1 hx, hgen', hgen]
      rintro rfl
      exact hgone hg
  case increasing =>
    refine List.pairwise_append.2 ⟨h.increasing, List.pairwise_singleton _ _, fun x hx v hv ↦ ?_⟩
    rw [List.mem_singleton.1 hv]
    refine h.before_verdict hu hgen' hauth (fun y hy hya ↦ ?_) x hx
    rw [hgen', hgen]
    exact hnew y hy hya
  case locals =>
    rw [List.filter_append, List.filter_cons]
    simp [hauth, h.locals]

/-! ### Runs -/

/-- Every step keeps the invariant. -/
theorem Inv.step (h : s.Inv) (hs : Step s s') : s'.Inv := by
  cases hs with
  | edit text => exact h.edit text
  | close =>
    refine h.of_errands (fun _ h ↦ h) (by rw [map_generation_withdraw]) fun e he ↦ ?_
    obtain ⟨e', he', rfl⟩ := List.mem_map.1 he
    exact h.carries e' he'
  | cancel he => exact h.remove he
  | elapse he => exact h.replace he rfl (fun _ h ↦ h) (by rintro _ ⟨⟩)
  | ask he => exact h.replace he rfl (fun _ h ↦ h) (by rintro _ ⟨⟩)
  | @reply before after i w r he =>
    refine h.replace he rfl (List.subset_append_left _ _) ?_
    rintro _ ⟨⟩
    exact List.mem_append_right _ (List.mem_singleton_self _)
  | @merge before after i w r he =>
    -- The errand ends first: no other one is about its edit, whose verdict was not shown yet.
    have hdistinct := h.distinct
    rw [he, List.map_append, List.map_cons, List.nodup_middle, ← List.map_append] at hdistinct
    have hmem : ⟨i, .answered r, w⟩ ∈ s.errands := by simp [he]
    have hgen : i.generation ∈ s.errands.map Errand.generation :=
      List.mem_map_of_mem (f := Errand.generation) hmem
    have hext : Extends { s with errands := before ++ after } s :=
      ⟨rfl, rfl, ⟨[], by simp⟩, fun _ h ↦ h⟩
    have hi : s.Carries ⟨i, .answered r, w⟩ := h.carries _ hmem
    exact (h.remove he).merge (hi.mono hext) (List.nodup_cons.1 hdistinct).1
      (h.pending i.generation hgen)

/-- What a session shows is right in every situation that can come about. -/
theorem inv_of_reachable {catalog : Catalog} {settings : EditorSettings}
    (h : Reachable catalog settings s) : s.Inv := by
  induction h with
  | start => exact inv_start catalog settings
  | step _ hs ih => exact ih.step hs

/-- The catalog and the settings of a session never change. -/
theorem session_of_reachable {catalog : Catalog} {settings : EditorSettings}
    (h : Reachable catalog settings s) :
    s.session.catalog = catalog ∧ s.session.settings = settings := by
  induction h with
  | start => exact ⟨rfl, rfl⟩
  | @step s _ _ hs ih =>
    cases hs with
    | @merge before after i w r he =>
      rcases merge_cases { s with errands := before ++ after } i r with h | ⟨_, _, -, -, -, h⟩ <;>
        rw [h] <;> exact ih
    | _ => exact ih

theorem texts_merge (s : Situation) (i : Inquiry) (r : Server.Reply) :
    (s.merge i r).texts = s.texts := by
  rcases merge_cases s i r with he | ⟨_, _, -, -, -, he⟩ <;> rw [he]

theorem exchanges_merge (s : Situation) (i : Inquiry) (r : Server.Reply) :
    (s.merge i r).exchanges = s.exchanges := by
  rcases merge_cases s i r with he | ⟨_, _, -, -, -, he⟩ <;> rw [he]

/-! ### What is shown -/

variable {catalog : Catalog} {settings : EditorSettings}

/-- After an edit something is shown. -/
theorem Inv.exists_latest (h : s.Inv) (hne : s.texts ≠ []) :
    ∃ u, s.session.latest = some u ∧ u ∈ s.published := by
  have hlocals : s.published ≠ [] := by
    intro hnil
    have hlen := congrArg List.length h.locals
    rw [hnil, List.length_range'] at hlen
    exact hne (List.length_eq_zero_iff.1 hlen.symm)
  refine ⟨s.published.getLast hlocals, ?_, List.getLast_mem hlocals⟩
  rw [h.latest, List.getLast?_eq_some_getLast]

/-- A reply may come when a further edit was made, although the errand was called back. -/
theorem reachable_late_reply {first : String} (second : String)
    (hvalid : (Validation.ofText catalog first).valid = true) (r : Server.Reply) :
    ∃ s, Reachable catalog settings s ∧ s.texts = [first, second] ∧
      s.exchanges.map Exchange.generation = [1] := by
  have hsent : ((start catalog settings).edit first).errands =
      [] ++ (start catalog settings).errand first :: [] := by
    rw [errands_edit]
    exact congrArg _ (if_pos hvalid)
  have hstart : Reachable catalog settings (start catalog settings) := .start
  have hedit := hstart.step (.edit first)
  have hask := (hedit.step (.elapse hsent)).step (.ask rfl)
  have hreply := (hask.step (.edit second)).step (@Step.reply _ [] _ _ _ r (errands_edit _ _))
  refine ⟨_, hreply.step (.merge rfl), ?_, ?_⟩
  · rw [texts_merge]
    rfl
  · rw [exchanges_merge]
    rfl

/-- However edits, quiet periods, questions, replies and verdicts follow each other, what is shown
last is about the last edit. Its local part is the validation of that text; it has a verdict only if
the text is valid by itself, and then the one that the server gave for that edit, on that very text;
and it is valid exactly if the text is and was not rejected. The updates are shown in the order of
their edits, each edit once by itself and after that at most once with a verdict. -/
theorem latest_update_of_reachable (catalog : Catalog) (settings : EditorSettings) (s : Situation)
    (h : Reachable catalog settings s) (hne : s.texts ≠ []) :
    (∃ u, s.session.latest = some u ∧ s.published.getLast? = some u ∧
      u.generation = s.texts.length ∧ s.texts.getLast? = some u.text ∧
      u.result.reports = (Validation.ofText catalog u.text).reports ∧
      u.result.highlights = (Validation.ofText catalog u.text).highlights ∧
      (∀ v, u.result.server = some v → (Validation.ofText catalog u.text).valid = true ∧
        ∃ reply, ⟨u.generation, .ofSettings settings u.text, reply⟩ ∈ s.exchanges ∧
          v = Server.verdictOf (.ofSettings settings u.text) reply) ∧
      (u.result.valid = true ↔ (Validation.ofText catalog u.text).valid = true ∧
        ∀ v, u.result.server = some v → v.isRejection = false)) ∧
    s.published.Pairwise Update.Before ∧
    (s.published.filter (!·.isAuthoritative)).map Update.generation =
      List.range' 1 s.texts.length := by
  have hinv := inv_of_reachable h
  obtain ⟨rfl, rfl⟩ := session_of_reachable h
  refine ⟨?_, hinv.increasing, hinv.locals⟩
  obtain ⟨u, hu, hmem⟩ := hinv.exists_latest hne
  have hlast := hinv.latest ▸ hu
  have hgen := hinv.current u hlast
  obtain ⟨n, hn, htext, hresult⟩ := hinv.shows u hmem
  have htext' : s.texts.getLast? = some u.text := by
    rw [List.getLast?_eq_getElem?, ← htext]
    congr 1
    omega
  refine ⟨u, hu, hlast, hgen, htext', ?_⟩
  rcases hresult with hresult | ⟨hvalid, reply, hex, hresult⟩
  · rw [hresult]
    refine ⟨rfl, rfl, ?_, ?_⟩
    · rintro v ⟨⟩
    · simp [server_ofText]
  · rw [hresult]
    refine ⟨rfl, rfl, ?_, ?_⟩
    · rintro v ⟨⟩
      exact ⟨hvalid, reply, hex, rfl⟩
    · simp [Validation.merge, hvalid]

/-- The rejection of an edit that comes after a further edit is not shown. -/
theorem latest_after_late_rejection : ∃ s, Reachable .builtin .default s ∧
    s.texts = ["channel_name contains 'a'", "channel_name contains 'b'"] ∧
    ∃ u, s.session.latest = some u ∧ u.generation = 2 ∧ u.result.server = none ∧
      u.result.valid = true := by
  have hfirst : (Validation.ofText .builtin "channel_name contains 'a'").valid = true := by
    decide +kernel
  have hsecond : (Validation.ofText .builtin "channel_name contains 'b'").valid = true := by
    decide +kernel
  obtain ⟨s, hs, htexts, hex⟩ : ∃ s, Reachable .builtin .default s ∧
      s.texts = ["channel_name contains 'a'", "channel_name contains 'b'"] ∧
      s.exchanges.map Exchange.generation = [1] :=
    reachable_late_reply _ hfirst (.ok (.obj [("is_valid", .bool false)]))
  obtain ⟨⟨u, hu, -, hgen, htext, -, -, hserver, hvalid⟩, -⟩ :=
    latest_update_of_reachable .builtin .default s hs (by simp [htexts])
  have hgen' : u.generation = 2 := by rw [hgen, htexts]; rfl
  have hnone : u.result.server = none := by
    refine Option.eq_none_iff_forall_ne_some.2 fun v hv ↦ ?_
    obtain ⟨-, reply, hmem, -⟩ := hserver v hv
    have hmem' := List.mem_map_of_mem (f := Exchange.generation) hmem
    simp [hex, hgen'] at hmem'
  have htext' : u.text = "channel_name contains 'b'" := by
    rw [htexts] at htext
    exact (Option.some.inj htext).symm
  refine ⟨s, hs, htexts, u, hu, hgen', hnone, hvalid.2 ⟨htext' ▸ hsecond, ?_⟩⟩
  simp [hnone]

end Situation

/-! ### Sessions on a clock -/

namespace Timeline

variable {catalog : Catalog} {settings : EditorSettings} {t : Timeline} {s : Situation}

/-- What can happen to a session on a clock. -/
inductive Run (catalog : Catalog) (settings : EditorSettings) : Timeline → Prop
  | start (replies : List TimedReply) (otherwise : Server.Request → TimedReply) :
      Run catalog settings (start (.start catalog settings) replies otherwise)
  | edit {t : Timeline} (h : Run catalog settings t) (text : String) :
      Run catalog settings (t.edit text)
  | pause {t : Timeline} (h : Run catalog settings t) (millis : Nat) :
      Run catalog settings (t.pause millis)
  | look {t : Timeline} (h : Run catalog settings t) : Run catalog settings t.look
  | close {t : Timeline} (h : Run catalog settings t) : Run catalog settings t.close

/-- The errand of a session on a clock, if one is on its way. -/
def errands (t : Timeline) : List Errand :=
  match t.inquiry with
  | none => []
  | some (.waiting i _) => [⟨i, .waiting, false⟩]
  | some (.asked i _ _) => [⟨i, .asked, false⟩]

/-- Whether a session on a clock is one of the situations that can come about. -/
def IsReachable (catalog : Catalog) (settings : EditorSettings) (t : Timeline) : Prop :=
  ∃ s, Reachable catalog settings s ∧ s.session = t.session ∧ s.errands = t.errands

/-- Errands that were called back may all stop. -/
theorem reachable_cancel {errands rest : List Errand} (h : Reachable catalog settings s)
    (he : s.errands = errands.map Errand.withdraw ++ rest) :
    Reachable catalog settings { s with errands := rest } := by
  induction errands generalizing s with
  | nil =>
    obtain ⟨session, _, texts, exchanges, published⟩ := s
    obtain rfl : _ = rest := he
    exact h
  | cons e errands ih =>
    have hstep : Step s { s with errands := errands.map Errand.withdraw ++ rest } :=
      @Step.cancel s [] _ e.inquiry e.stage he
    have hrest := ih (h.step hstep) rfl
    exact hrest

theorem isReachable_start (replies : List TimedReply)
    (otherwise : Server.Request → TimedReply) :
    (start (.start catalog settings) replies otherwise).IsReachable catalog settings :=
  ⟨_, .start, rfl, rfl⟩

/-- On a clock, an edit takes back the errand on its way at once. -/
theorem IsReachable.edit (h : t.IsReachable catalog settings) (text : String) :
    (t.edit text).IsReachable catalog settings := by
  obtain ⟨s, hs, hsession, -⟩ := h
  have hedit := hs.step (.edit text)
  refine ⟨_, reachable_cancel hedit (Situation.errands_edit s text), ?_, ?_⟩
  · show (s.session.edit text).1 = (t.session.edit text).1
    rw [hsession]
  · show (if _ then [s.errand text] else []) = (t.edit text).errands
    unfold Timeline.edit Session.edit Timeline.errands
    rw [Situation.errand, hsession]
    dsimp only
    split <;> rfl

/-- The end of a session takes back the errand on its way at once. -/
theorem IsReachable.close (h : t.IsReachable catalog settings) :
    t.close.IsReachable catalog settings := by
  obtain ⟨s, hs, hsession, -⟩ := h
  exact ⟨_, reachable_cancel (hs.step .close) (List.append_nil _).symm, hsession, rfl⟩

/-- What happens by the clock are the steps of the one errand on its way: its quiet period ends and
the server is asked, or the reply arrives and its verdict is merged. -/
theorem IsReachable.step (h : t.IsReachable catalog settings) (limit : Nat) :
    (t.step limit).IsReachable catalog settings := by
  obtain ⟨s, hs, hsession, herrands⟩ := h
  unfold Timeline.step
  cases hi : t.inquiry with
  | none => exact ⟨s, hs, hsession, herrands⟩
  | some inquiry =>
    cases inquiry with
    | waiting i due =>
      dsimp only
      split
      · rw [Timeline.errands, hi] at herrands
        exact ⟨_, (hs.step (@Step.elapse s [] [] i false herrands)).step
          (@Step.ask _ [] [] i false rfl), hsession, rfl⟩
      · exact ⟨s, hs, hsession, herrands⟩
    | asked i due reply =>
      dsimp only
      split
      · rw [Timeline.errands, hi] at herrands
        have hmerge := (hs.step (@Step.reply s [] [] i false reply herrands)).step
          (@Step.merge _ [] [] i false reply rfl)
        refine ⟨_, hmerge, ?_⟩
        unfold Situation.merge
        dsimp only
        rw [hsession]
        cases t.session.answer? i (Server.verdictOf i.request reply) <;> exact ⟨rfl, rfl⟩
      · exact ⟨s, hs, hsession, herrands⟩

theorem IsReachable.pause (h : t.IsReachable catalog settings) (millis : Nat) :
    (t.pause millis).IsReachable catalog settings := by
  obtain ⟨s, hs, hsession, herrands⟩ := (h.step (t.now + millis)).step (t.now + millis)
  exact ⟨s, hs, hsession, herrands⟩

/-- A session on a clock shows what it shows in some interleaving of its checks. -/
theorem exists_reachable_of_run (h : Run catalog settings t) :
    ∃ s, Reachable catalog settings s ∧ s.session = t.session := by
  have hreach : t.IsReachable catalog settings := by
    induction h with
    | start replies otherwise => exact isReachable_start replies otherwise
    | edit _ text ih => exact ih.edit text
    | pause _ millis ih => exact ih.pause millis
    | look _ ih => exact ih
    | close _ ih => exact ih.close
  obtain ⟨s, hs, hsession, -⟩ := hreach
  exact ⟨s, hs, hsession⟩

end Timeline

end FilterLang
