import FilterLang.Display.Marker
import FilterLang.Proofs.Consistency
import Mathlib.Data.List.DropRight
import Mathlib.Data.List.GetD

/-!
# What the marker line shows

A marker line is made by putting one mark after another over a blank line. What it shows in the end
can be said without that order: a column shows a caret if some error covers it, a tilde if only
warnings do, and nothing else. `Draws` says so of a line, with the columns of a mark (`Mark.Covers`)
read off the text and not off what the program computes, and there is exactly one such line
(`Draws.unique`). So neither the order of the marks nor their repetition matters.

Marks may have any bytes for their ends. A mark that starts inside of a character or behind the text
is moved to the first column, and one that is no part of the text takes one column, so every mark is
on the line (`Mark.column_add_span_le`). The marks of a validation start where they say.
-/

namespace FilterLang

/-! ### Slices -/

namespace Text

variable {cs before after middle : List Char} {start stop : Nat}

/-- A slice is what stands between two bytes. -/
theorem slice?_eq_some_iff : slice? cs start stop = some middle ↔ ∃ before after,
    cs = before ++ (middle ++ after) ∧ byteLength before = start ∧
      start + byteLength middle = stop := by
  constructor
  · intro h
    unfold slice? at h
    split at h
    · rename_i hle
      obtain ⟨⟨before, rest⟩, hbefore, h⟩ := Option.bind_eq_some_iff.1 h
      obtain ⟨⟨middle', after⟩, hmiddle, h⟩ := Option.bind_eq_some_iff.1 h
      cases h
      obtain ⟨rfl, hstart⟩ := eq_of_cutAt? hbefore
      obtain ⟨rfl, hstop⟩ := eq_of_cutAt? hmiddle
      exact ⟨before, after, rfl, hstart, by omega⟩
    · cases h
  · rintro ⟨before, after, rfl, rfl, rfl⟩
    exact slice?_append before middle after

/-- There is a slice between two bytes exactly if they bound a part of the text. -/
theorem isRange_iff : IsRange cs start stop ↔ ∃ middle, slice? cs start stop = some middle := by
  constructor
  · rintro ⟨hle, ⟨before, after, rfl, rfl⟩, ⟨before', after', h, rfl⟩⟩
    -- Of two beginnings of a text, the one with fewer bytes is a beginning of the other.
    rcases List.append_eq_append_iff.1 h with ⟨middle, rfl, rfl⟩ | ⟨middle, rfl, rfl⟩
    · exact ⟨middle, by rw [byteLength_append]; exact slice?_append before middle after'⟩
    · have hmiddle : byteLength middle = 0 := by
        rw [byteLength_append] at hle
        omega
      refine ⟨[], slice?_eq_some_iff.2 ⟨before' ++ middle, after, rfl, rfl, ?_⟩⟩
      rw [byteLength_append, hmiddle]
      rfl
  · rintro ⟨middle, h⟩
    obtain ⟨before, after, rfl, rfl, rfl⟩ := slice?_eq_some_iff.1 h
    exact ⟨Nat.le_add_right _ _, ⟨before, middle ++ after, rfl, rfl⟩,
      ⟨before ++ middle, after, by simp, byteLength_append _ _⟩⟩

end Text

namespace Display

open Text

variable {text line line' : List Char} {m : Mark} {marks marks' : List Mark} {k : Nat}

/-! ### The columns of a mark -/

namespace Mark

/-- The column at which a mark starts: behind the characters before it, or the first column if no
character starts or ends there. -/
inductive StartsAt (text : List Char) (m : Mark) : Nat → Prop
  | inside {before after : List Char} (h : text = before ++ after)
      (hstart : byteLength before = m.start) : StartsAt text m before.length
  | outside (h : ¬ IsBoundary text m.start) : StartsAt text m 0

/-- The number of columns of a mark: one for each character of it and at least one, or one if it is
no part of the text. -/
inductive Takes (text : List Char) (m : Mark) : Nat → Prop
  | part {before marked after : List Char} (h : text = before ++ (marked ++ after))
      (hstart : byteLength before = m.start) (hstop : byteLength (before ++ marked) = m.stop) :
      Takes text m (max 1 marked.length)
  | noPart (h : ¬ IsRange text m.start m.stop) : Takes text m 1

/-- Whether a column is one of those of a mark. -/
def Covers (text : List Char) (m : Mark) (k : Nat) : Prop :=
  ∃ column span, StartsAt text m column ∧ Takes text m span ∧ column ≤ k ∧ k < column + span

theorem startsAt_iff {column : Nat} : StartsAt text m column ↔ column = m.column text := by
  have hslice {before after : List Char} (h : text = before ++ after)
      (hstart : byteLength before = m.start) : m.column text = before.length := by
    have hsome : slice? text 0 m.start = some before :=
      slice?_eq_some_iff.2 ⟨[], after, h, rfl, by rw [hstart, Nat.zero_add]⟩
    rw [Mark.column, hsome]
  have hnone (h : ¬ IsBoundary text m.start) : m.column text = 0 := by
    have hnone : slice? text 0 m.start = none :=
      Option.eq_none_iff_forall_ne_some.2 fun before hbefore ↦
        h (isRange_iff.2 ⟨before, hbefore⟩).stop
    rw [Mark.column, hnone]
  constructor
  · rintro (⟨h, hstart⟩ | h)
    · exact (hslice h hstart).symm
    · exact (hnone h).symm
  · rintro rfl
    by_cases h : IsBoundary text m.start
    · obtain ⟨before, after, htext, hstart⟩ := h
      exact hslice htext hstart ▸ .inside htext hstart
    · exact hnone h ▸ .outside h

theorem takes_iff {span : Nat} : Takes text m span ↔ span = m.span text := by
  have hslice {before marked after : List Char} (h : text = before ++ (marked ++ after))
      (hstart : byteLength before = m.start) (hstop : byteLength (before ++ marked) = m.stop) :
      m.span text = max 1 marked.length := by
    have hsome : slice? text m.start m.stop = some marked :=
      slice?_eq_some_iff.2 ⟨before, after, h, hstart, by rw [← hstop, byteLength_append, hstart]⟩
    rw [Mark.span, hsome]
  have hnone (h : ¬ IsRange text m.start m.stop) : m.span text = 1 := by
    have hnone : slice? text m.start m.stop = none :=
      Option.eq_none_iff_forall_ne_some.2 fun marked hmarked ↦ h (isRange_iff.2 ⟨marked, hmarked⟩)
    rw [Mark.span, hnone]
  constructor
  · rintro (⟨h, hstart, hstop⟩ | h)
    · exact (hslice h hstart hstop).symm
    · exact (hnone h).symm
  · rintro rfl
    by_cases h : IsRange text m.start m.stop
    · obtain ⟨marked, hmarked⟩ := isRange_iff.1 h
      obtain ⟨before, after, htext, hstart, hstop⟩ := slice?_eq_some_iff.1 hmarked
      have hstop' : byteLength (before ++ marked) = m.stop := by
        rw [byteLength_append, hstart, hstop]
      exact hslice htext hstart hstop' ▸ .part htext hstart hstop'
    · exact hnone h ▸ .noPart h

theorem covers_iff :
    Covers text m k ↔ m.column text ≤ k ∧ k < m.column text + m.span text := by
  simp [Covers, startsAt_iff, takes_iff]

instance (text : List Char) (m : Mark) (k : Nat) : Decidable (Covers text m k) :=
  decidable_of_iff _ covers_iff.symm

/-- A mark covers the column at which it starts. -/
theorem covers_column (text : List Char) (m : Mark) : Covers text m (m.column text) :=
  covers_iff.2 ⟨Nat.le_refl _, Nat.lt_add_of_pos_right (m.span_pos text)⟩

/-- A mark ends on the line, which has one column more than the text has characters. -/
theorem column_add_span_le (text : List Char) (m : Mark) :
    m.column text + m.span text ≤ text.length + 1 := by
  have hcolumn := startsAt_iff.2 (rfl : m.column text = _)
  have hspan := takes_iff.2 (rfl : m.span text = _)
  generalize m.column text = column at hcolumn
  generalize m.span text = span at hspan
  cases hcolumn with
  | @inside before after h hstart =>
    cases hspan with
    | @part before' marked after' h' hstart' hstop =>
      obtain ⟨rfl, rfl⟩ := append_inj_of_byteLength (h.symm.trans h') (hstart.trans hstart'.symm)
      rw [h]
      simp only [List.length_append]
      omega
    | noPart =>
      rw [h]
      simp
  | outside h =>
    cases hspan with
    | @part before' marked after' h' hstart' hstop =>
      exact absurd ⟨before', marked ++ after', h', hstart'⟩ h
    | noPart => omega

theorem Covers.lt (h : Covers text m k) : k < text.length + 1 :=
  Nat.lt_of_lt_of_le (covers_iff.1 h).2 (column_add_span_le text m)

end Mark

/-! ### One mark after another -/

/-- A mark that is put on a line changes its own columns only, and no caret. -/
theorem getElem?_overlay (sign : Char) (column span : Nat) (cs : List Char) (k : Nat) :
    (overlay sign column span cs)[k]? = cs[k]?.map fun c ↦
      if column ≤ k ∧ k < column + span ∧ c ≠ '^' then sign else c := by
  fun_induction overlay sign column span cs generalizing k with
  | case1 => rfl
  | case2 column span c cs ih =>
    cases k with
    | zero => simp
    | succ k =>
      rw [List.getElem?_cons_succ, List.getElem?_cons_succ, ih]
      have hshift : column + 1 ≤ k + 1 ∧ k + 1 < column + 1 + span ↔
          column ≤ k ∧ k < column + span := by omega
      simp only [← and_assoc, hshift]
  | case3 cs => simp
  | case4 span c cs ih =>
    cases k with
    | zero => by_cases hc : c = '^' <;> simp [hc]
    | succ k =>
      rw [List.getElem?_cons_succ, List.getElem?_cons_succ, ih]
      simp

/-- The sign that marks leave in a column. -/
def signAt (text : List Char) (marks : List Mark) (k : Nat) : Char :=
  if ∃ m ∈ marks, m.severity = .error ∧ m.Covers text k then '^'
  else if ∃ m ∈ marks, m.Covers text k then '~'
  else ' '

theorem signAt_eq_caret_iff :
    signAt text marks k = '^' ↔ ∃ m ∈ marks, m.severity = .error ∧ m.Covers text k := by
  unfold signAt
  split_ifs with herror hany
  · exact iff_of_true rfl herror
  · exact iff_of_false (by decide) herror
  · exact iff_of_false (by decide) herror

theorem signAt_eq_tilde_iff : signAt text marks k = '~' ↔
    (∀ m ∈ marks, m.severity = .error → ¬ m.Covers text k) ∧
      ∃ m ∈ marks, m.severity = .warning ∧ m.Covers text k := by
  unfold signAt
  split_ifs with herror hany
  · obtain ⟨m, hm, hseverity, hcovers⟩ := herror
    exact iff_of_false (by decide) fun ⟨h, _⟩ ↦ h m hm hseverity hcovers
  · obtain ⟨m, hm, hcovers⟩ := hany
    have hnone : ∀ m ∈ marks, m.severity = .error → ¬ m.Covers text k :=
      fun m hm hseverity hcovers ↦ herror ⟨m, hm, hseverity, hcovers⟩
    have hwarning : m.severity = .warning := by
      cases hseverity : m.severity with
      | error => exact absurd hcovers (hnone m hm hseverity)
      | warning => rfl
    exact iff_of_true rfl ⟨hnone, m, hm, hwarning, hcovers⟩
  · exact iff_of_false (by decide) fun ⟨_, m, hm, _, hcovers⟩ ↦ hany ⟨m, hm, hcovers⟩

theorem signAt_eq_blank_iff : signAt text marks k = ' ' ↔ ∀ m ∈ marks, ¬ m.Covers text k := by
  unfold signAt
  split_ifs with herror hany
  · obtain ⟨m, hm, -, hcovers⟩ := herror
    exact iff_of_false (by decide) fun h ↦ h m hm hcovers
  · obtain ⟨m, hm, hcovers⟩ := hany
    exact iff_of_false (by decide) fun h ↦ h m hm hcovers
  · exact iff_of_true rfl fun m hm hcovers ↦ hany ⟨m, hm, hcovers⟩

theorem signAt_cases (text : List Char) (marks : List Mark) (k : Nat) :
    signAt text marks k = '^' ∨ signAt text marks k = '~' ∨ signAt text marks k = ' ' := by
  unfold signAt
  split_ifs <;> simp

/-- One more mark shows in its own columns, unless an error was there before. -/
theorem signAt_concat : signAt text (marks ++ [m]) k =
    if m.Covers text k ∧ signAt text marks k ≠ '^' then m.sign else signAt text marks k := by
  have hconcat (p : Mark → Prop) : (∃ x ∈ marks ++ [m], p x) ↔ (∃ x ∈ marks, p x) ∨ p m := by
    simp [or_and_right, exists_or]
  by_cases hcovers : m.Covers text k
  · by_cases hcaret : signAt text marks k = '^'
    · rw [if_neg fun h ↦ h.2 hcaret, hcaret]
      exact signAt_eq_caret_iff.2 ((hconcat _).2 (.inl (signAt_eq_caret_iff.1 hcaret)))
    · rw [if_pos ⟨hcovers, hcaret⟩, Mark.sign]
      cases hseverity : m.severity with
      | error => exact signAt_eq_caret_iff.2 ((hconcat _).2 (.inr ⟨hseverity, hcovers⟩))
      | warning =>
        have hnone : ¬ ∃ x ∈ marks ++ [m], x.severity = .error ∧ x.Covers text k := by
          rw [hconcat, ← signAt_eq_caret_iff, hseverity]
          simp [hcaret]
        have hany : ∃ x ∈ marks ++ [m], x.Covers text k := (hconcat _).2 (.inr hcovers)
        rw [signAt, if_neg hnone, if_pos hany]
  · rw [if_neg fun h ↦ hcovers h.1]
    simp only [signAt, hconcat, hcovers, and_false, or_false]

/-- A line of marks shows what they leave in each column. -/
theorem getElem?_columns (marks : List Mark) (h : k < text.length + 1) :
    (columns text marks)[k]? = some (signAt text marks k) := by
  -- One mark after another is put on the line, so the induction is on the last of them.
  induction marks using List.reverseRecOn with
  | nil => simp [columns, signAt, h]
  | append_singleton marks m ih =>
    have hlast : columns text (marks ++ [m]) =
        overlay m.sign (m.column text) (m.span text) (columns text marks) := by
      rw [columns, List.foldl_append]
      rfl
    rw [hlast, getElem?_overlay, ih, signAt_concat, Option.map_some]
    simp only [Mark.covers_iff, and_assoc]

/-! ### What is shown -/

/-- Whether a line shows marks as it should. Behind its end it is blank. -/
structure Draws (text : List Char) (marks : List Mark) (line : List Char) : Prop where
  length_le : line.length ≤ text.length + 1
  trimmed : line.getLast? ≠ some ' '
  caret : ∀ k, line.getD k ' ' = '^' ↔ ∃ m ∈ marks, m.severity = .error ∧ m.Covers text k
  tilde : ∀ k, line.getD k ' ' = '~' ↔
    (∀ m ∈ marks, m.severity = .error → ¬ m.Covers text k) ∧
      ∃ m ∈ marks, m.severity = .warning ∧ m.Covers text k
  blank : ∀ k, line.getD k ' ' = ' ' ↔ ∀ m ∈ marks, ¬ m.Covers text k

/-- The columns of a line that draws marks are determined. -/
theorem Draws.getD_eq (h : Draws text marks line) (k : Nat) :
    line.getD k ' ' = signAt text marks k := by
  rcases signAt_cases text marks k with hk | hk | hk <;> rw [hk]
  · exact (h.caret k).2 (signAt_eq_caret_iff.1 hk)
  · exact (h.tilde k).2 (signAt_eq_tilde_iff.1 hk)
  · exact (h.blank k).2 (signAt_eq_blank_iff.1 hk)

/-- A line without blanks at its end is no longer than one that shows the same. -/
theorem length_le_of_getD_eq (h : line.getLast? ≠ some ' ')
    (hget : ∀ k, line.getD k ' ' = line'.getD k ' ') : line.length ≤ line'.length := by
  by_contra hlt
  have hne : line ≠ [] := by
    rintro rfl
    exact hlt (Nat.zero_le _)
  have hlast := hget (line.length - 1)
  rw [List.getD_eq_default line' _ (by omega), List.getD_eq_getElem _ _ (by omega),
    ← List.getLast_eq_getElem hne] at hlast
  exact h (by rw [List.getLast?_eq_some_getLast hne, hlast])

/-- There is at most one line that draws given marks. -/
theorem Draws.unique (h : Draws text marks line) (h' : Draws text marks line') : line = line' := by
  have hget (k : Nat) : line.getD k ' ' = line'.getD k ' ' :=
    (h.getD_eq k).trans (h'.getD_eq k).symm
  have hlength : line.length = line'.length :=
    Nat.le_antisymm (length_le_of_getD_eq h.trimmed hget)
      (length_le_of_getD_eq h'.trimmed fun k ↦ (hget k).symm)
  refine List.ext_getElem hlength fun k hk hk' ↦ ?_
  rw [← List.getD_eq_getElem line ' ' hk, hget, List.getD_eq_getElem line' ' ' hk']

/-- A line draws marks whatever their order, and however often each is given. -/
theorem Draws.congr (h : Draws text marks line) (hmarks : ∀ m, m ∈ marks' ↔ m ∈ marks) :
    Draws text marks' line where
  length_le := h.length_le
  trimmed := h.trimmed
  caret k := by simpa only [hmarks] using h.caret k
  tilde k := by simpa only [hmarks] using h.tilde k
  blank k := by simpa only [hmarks] using h.blank k

end Display

/-! ### The end of the line -/

namespace Text

variable {cs : List Char}

theorem trimRight_append (cs : List Char) : trimRight cs ++ cs.rtakeWhile isBlank = cs :=
  List.rdropWhile_append_rtakeWhile

theorem length_trimRight_le (cs : List Char) : (trimRight cs).length ≤ cs.length :=
  (List.rdropWhile_prefix isBlank (l := cs)).length_le

theorem isBlank_of_getLast?_trimRight {c : Char} (h : (trimRight cs).getLast? = some c) :
    isBlank c = false := by
  have hne : trimRight cs ≠ [] := by
    rintro hnil
    rw [hnil] at h
    cases h
  rw [List.getLast?_eq_some_getLast hne, Option.some.injEq] at h
  have hlast := List.rdropWhile_last_not isBlank cs hne
  rw [← h]
  exact Bool.eq_false_iff.2 hlast

/-- Blanks at the end are seen whether they are there or not. -/
theorem getD_trimRight (h : ∀ c ∈ cs, isBlank c = true → c = ' ') (k : Nat) :
    (trimRight cs).getD k ' ' = cs.getD k ' ' := by
  conv_rhs => rw [← trimRight_append cs]
  by_cases hk : k < (trimRight cs).length
  · rw [List.getD_append _ _ _ _ hk]
  · rw [List.getD_eq_default _ _ (Nat.le_of_not_lt hk), List.getD_append_right _ _ _ _
      (Nat.le_of_not_lt hk)]
    by_cases hlast : k - (trimRight cs).length < (cs.rtakeWhile isBlank).length
    · have hmem := List.getElem_mem hlast
      rw [List.getD_eq_getElem _ _ hlast]
      exact (h _ ((List.rtakeWhile_suffix isBlank cs).subset hmem)
        (List.mem_rtakeWhile_imp hmem)).symm
    · rw [List.getD_eq_default _ _ (Nat.le_of_not_lt hlast)]

end Text

/-! ### The marker line -/

namespace Display

open Text

/-- The marker line of a text shows what the marks leave in each column. -/
theorem getD_markerLine (text : String) (marks : List Mark) (k : Nat) :
    (markerLine text marks).toList.getD k ' ' = signAt text.toList marks k := by
  have hlength := length_columns text.toList marks
  have hblank : ∀ c ∈ columns text.toList marks, isBlank c = true → c = ' ' := by
    intro c hc hblank
    obtain ⟨i, hi, rfl⟩ := List.mem_iff_getElem.1 hc
    have hsome := getElem?_columns marks (hlength ▸ hi)
    rw [List.getElem?_eq_getElem hi, Option.some.injEq] at hsome
    rw [hsome] at hblank ⊢
    rcases signAt_cases text.toList marks i with h | h | h
    · exact absurd (h ▸ hblank) (by decide)
    · exact absurd (h ▸ hblank) (by decide)
    · exact h
  rw [markerLine, String.toList_ofList, getD_trimRight hblank]
  by_cases hk : k < text.toList.length + 1
  · rw [List.getD_eq_getElem?_getD, getElem?_columns marks hk, Option.getD_some]
  · rw [List.getD_eq_default _ _ (hlength ▸ Nat.le_of_not_lt hk)]
    exact (signAt_eq_blank_iff.2 fun m _ hcovers ↦ hk hcovers.lt).symm

theorem draws_markerLine (text : String) (marks : List Mark) :
    Draws text.toList marks (markerLine text marks).toList where
  length_le := by
    rw [markerLine, String.toList_ofList, ← length_columns text.toList marks]
    exact length_trimRight_le _
  trimmed := by
    rw [markerLine, String.toList_ofList]
    exact fun h ↦ absurd (isBlank_of_getLast?_trimRight h) (by decide)
  caret k := by rw [getD_markerLine, signAt_eq_caret_iff]
  tilde k := by rw [getD_markerLine, signAt_eq_tilde_iff]
  blank k := by rw [getD_markerLine, signAt_eq_blank_iff]

/-- A mark that starts behind some characters covers the column behind them. -/
theorem Mark.covers_of_append {m : Mark} {text before after : List Char}
    (h : text = before ++ after) (hstart : byteLength before = m.start) :
    m.Covers text before.length := by
  rw [startsAt_iff.1 (.inside h hstart)]
  exact covers_column text m

/-- The marker line is the one line that draws the marks, so it depends neither on their order nor
on their repetition. For the marks of a validation it has a sign in the column of each start, and a
caret in that of each error. -/
theorem markerLine_eq_iff_draws (text : String) (marks : List Mark) :
    (∀ line, markerLine text marks = line ↔ Draws text.toList marks line.toList) ∧
    (∀ marks', (∀ m, m ∈ marks' ↔ m ∈ marks) → markerLine text marks' = markerLine text marks) ∧
    ∀ catalog, ∀ h ∈ (Validation.ofText catalog text).highlights, ∃ before after,
      text.toList = before ++ after ∧ byteLength before = h.start ∧
      let line := markerLine text ((Validation.ofText catalog text).highlights.map (·.mark))
      line.toList.getD before.length ' ' = '^' ∨
        h.severity = .warning ∧ line.toList.getD before.length ' ' = '~' := by
  have hunique {marks : List Mark} {line : String} (h : Draws text.toList marks line.toList) :
      markerLine text marks = line :=
    String.toList_injective ((draws_markerLine text marks).unique h)
  refine ⟨fun line ↦ ⟨?_, hunique⟩, fun marks' h ↦ ?_, fun catalog h hh ↦ ?_⟩
  · rintro rfl
    exact draws_markerLine text marks
  · exact hunique ((draws_markerLine text marks).congr h)
  · obtain ⟨before, after, htext, hstart⟩ := (Validation.isRange_of_mem_highlights hh).1.start
    refine ⟨before, after, htext, hstart, ?_⟩
    have hmem := List.mem_map_of_mem (f := Check.Highlight.mark) hh
    have hcovers : h.mark.Covers text.toList before.length := Mark.covers_of_append htext hstart
    dsimp only
    rw [getD_markerLine]
    cases hseverity : h.severity with
    | error => exact .inl (signAt_eq_caret_iff.2 ⟨h.mark, hmem, hseverity, hcovers⟩)
    | warning =>
      rcases signAt_cases text.toList _ before.length with hk | hk | hk
      · exact .inl hk
      · exact .inr ⟨rfl, hk⟩
      · exact absurd hcovers (signAt_eq_blank_iff.1 hk _ hmem)

/-- The first character takes two bytes. A caret stays where a warning is as well, whichever of them
comes first, and a mark behind the text is one caret wide. -/
theorem markerLine_of_overlapping :
    markerLine "é or (" [⟨0, 5, .warning⟩, ⟨3, 5, .error⟩, ⟨7, 9, .error⟩] = "~~^^  ^" ∧
      markerLine "é or (" [⟨7, 9, .error⟩, ⟨3, 5, .error⟩, ⟨0, 5, .warning⟩, ⟨3, 5, .error⟩] =
        "~~^^  ^" := by
  have hline : markerLine "é or (" [⟨0, 5, .warning⟩, ⟨3, 5, .error⟩, ⟨7, 9, .error⟩] =
      "~~^^  ^" := by decide +kernel
  refine ⟨hline, ?_⟩
  rw [← hline]
  refine (markerLine_eq_iff_draws _ _).2.1 _ fun m ↦ ?_
  simp only [List.mem_cons, List.not_mem_nil, or_false]
  tauto

end Display

end FilterLang
