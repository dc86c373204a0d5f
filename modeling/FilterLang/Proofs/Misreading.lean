import FilterLang.Proofs.Loading
import FilterLang.Proofs.RoundTrip
import FilterLang.Proofs.Stages

/-!
# Texts of stored trees that are read as something else

The fields and values of a stored tree are any strings, and they are written into its canonical text
as they are. Mostly, what cannot be written faithfully cannot be read at all. But a field may read
like the beginning of an expression, and the end of a value like the continuation of one, and then
the text may be read as another tree. `Condition.IsMisleading` says when this can happen. It asks of
the field and of the value alone to what stage of an expression they lead, and not what stands
beside them in the tree.

If no condition of a tree is misleading, the canonical text is read as the tree or not at all
(`Tree.parse_render_iff_of_load`). The proof follows the stages along the text. As long as the text
may still be that of an expression, it is cut as if each condition stood alone (`Walked`): a field
that opens a value, or a value that is closed before its end, must have led to a stage where the
rest of the condition cannot stand. What is left are parentheses in front of a field, and nothing
closes those.
-/

namespace FilterLang

open Grammar

/-! ### Misleading conditions -/

/-- Whether a text leads from one stage of an expression to another. -/
def Grammar.Stage.Leads (s : Stage) (text : List Char) (s' : Stage) : Prop :=
  s.run (Lexeme.significant ∅ text) = some s'

instance (s : Stage) (text : List Char) (s' : Stage) : Decidable (s.Leads text s') :=
  inferInstanceAs (Decidable (_ = _))

instance (s : Stage) (text : List Char) : Decidable (∃ ms, s.Leads text (.named ms)) :=
  decidable_of_iff ((s.run (Lexeme.significant ∅ text)).any (· matches .named _) = true) (by
    unfold Stage.Leads
    rcases s.run (Lexeme.significant ∅ text) with _ | _ | _ | _ | _ | _ <;> simp)

/-- Whether a field can be taken for the beginning of an expression: it is not the name of a field,
but it leads from the beginning of an expression to the name of a field or into a value. A field
without values leads to a name behind parentheses too, but such parentheses are not closed. -/
def IsMisleadingField (field : String) : Prop :=
  ¬ IsFieldName field ∧ ('(' ∈ field.toList → ∃ q ∈ field.toList, IsQuote q) ∧
    ((Stage.due []).Leads field.toList .inside ∨
      ∃ ms, (Stage.due []).Leads field.toList (.named ms))

instance (field : String) : Decidable (IsMisleadingField field) :=
  inferInstanceAs (Decidable (_ ∧ _ ∧ (_ ∨ _)))

/-- What of a value stands behind its first double quote. -/
def behindQuote (value : List Char) : List Char := (value.dropWhile (· != '"')).tail

/-- Whether the end of a value can be taken for the continuation of an expression: the value holds
quotes of both kinds, so it ends at its first double quote, and what follows there leads from a
complete condition to the beginning of a value or into one. -/
def IsMisleadingValue (value : String) : Prop :=
  ('"' ∈ value.toList ∧ '\'' ∈ value.toList) ∧
    (Stage.complete.Leads (behindQuote value.toList) .inside ∨
      Stage.complete.Leads (behindQuote value.toList) .compared)

instance (value : String) : Decidable (IsMisleadingValue value) :=
  inferInstanceAs (Decidable (_ ∧ (_ ∨ _)))

/-- Whether the text of a condition can be read as something else. -/
def Condition.IsMisleading (c : Condition) : Prop :=
  IsMisleadingField c.field ∨ IsMisleadingValue c.value

instance (c : Condition) : Decidable c.IsMisleading := inferInstanceAs (Decidable (_ ∨ _))

/-! ### Quotes and parentheses of a text -/

namespace Lexeme

variable {cs : List Char} {l : Lexeme} {q : Char}

/-- The characters of a lexeme are characters of the text. -/
theorem mem_of_mem_chars {c : Char} (hl : l ∈ significant ∅ cs) (hc : c ∈ l.chars) : c ∈ cs := by
  rw [← flatMap_chars_cut ∅ cs]
  exact List.mem_flatMap.2 ⟨l, mem_cut_of_mem_significant hl, hc⟩

/-- What is cut from a text without quotes is no value. -/
theorem kind_ne_value_of_mem (hl : l ∈ significant ∅ cs) (hcs : ∀ q ∈ cs, ¬ IsQuote q) :
    l.kind ≠ .value := by
  rw [ne_eq, kind_eq_value_iff]
  obtain ⟨ds, rest, hc⟩ := exists_cuts_of_mem_cut (mem_cut_of_mem_significant hl)
  rintro (⟨q, v, rfl⟩ | ⟨q, v, rfl⟩) <;> cases hc <;>
    exact hcs q (mem_of_mem_chars hl (by simp [chars])) ‹_›

/-- An opening parenthesis outside of values is a lexeme. -/
theorem openParen_mem_significant (h : '(' ∈ cs) (hcs : ∀ q ∈ cs, ¬ IsQuote q) :
    .openParen ∈ significant ∅ cs := by
  have hall := h
  rw [← flatMap_chars_cut ∅ cs] at hall
  obtain ⟨l, hl, hparen⟩ := List.mem_flatMap.1 hall
  obtain ⟨ds, rest, hc⟩ := exists_cuts_of_mem_cut hl
  have hsignificant : l.isBlank = false → l ∈ significant ∅ cs :=
    fun hb ↦ List.mem_filter.2 ⟨hl, by rw [hb]; rfl⟩
  cases hc with
  | word _ hw _ =>
    have hbare := hw '(' (by simpa [chars] using hparen)
    simp [isBareChar_of_paren] at hbare
  | quoted => exact absurd rfl (kind_ne_value_of_mem (hsignificant rfl) hcs)
  | unclosed => exact absurd rfl (kind_ne_value_of_mem (hsignificant rfl) hcs)
  | openParen => exact hsignificant rfl
  | closeParen => simp [chars] at hparen
  | blank _ hb _ =>
    have hblank := hb '(' (by simpa [chars] using hparen)
    exact absurd hblank (by decide)
  | glyph k => cases k <;> simp [chars, toList_glyph] at hparen
  | stray hs => exact absurd (List.mem_singleton.1 hparen).symm hs.2.2.1

/-- What is cut off at a quote is a value. -/
theorem exists_value_of_isQuote (hq : IsQuote q) (cs : List Char) :
    ∃ l ls, significant ∅ (q :: cs) = l :: ls ∧ l.kind = .value := by
  by_cases h : q ∈ cs
  · obtain ⟨v, rest, rfl, hv⟩ := List.eq_append_cons_of_mem h
    exact ⟨_, _, significant_quoted hq hv, rfl⟩
  · exact ⟨_, _, (Cuts.unclosed hq h).significant_eq, rfl⟩

end Lexeme

open Lexeme (significant)

variable {s e : Stage} {q : Char} {front : List Lexeme} {cs rest more : List Char}

/-- A quote stands where a value is due. -/
theorem Grammar.Stage.run_of_isQuote (hq : IsQuote q)
    (h : s.run (front ++ significant ∅ (q :: cs)) = some e) : s.run front = some .compared := by
  obtain ⟨l, ls, hcs, hl⟩ := Lexeme.exists_value_of_isQuote hq cs
  rw [hcs] at h
  obtain ⟨m, hfront, hm⟩ := Stage.run_append_eq_some h
  obtain ⟨m', hm', -⟩ := Stage.run_cons_eq_some hm
  rwa [Stage.eq_compared hm' hl] at hfront

/-- A text that goes on at a quote leads to the place of a value or into a value. -/
theorem Grammar.Stage.leads_of_isQuote (hq : IsQuote q)
    (h : s.run (significant ∅ (cs ++ q :: more)) = some e) :
    s.Leads cs .inside ∨ s.Leads cs .compared := by
  rcases @Lexeme.significant_append_break ∅ q (.inl hq) cs more with
    hcut | ⟨front, q', v, hq', hv, hcs, hcut⟩
  · rw [hcut] at h
    exact .inr (run_of_isQuote hq h)
  · rw [hcut] at h
    left
    rw [Leads, hcs, run_append, run_of_isQuote hq' h]
    rfl

/-! ### Fields -/

/-- A field with an operator behind it is a name, or it is misleading, or it opens parentheses. -/
theorem significant_field {field : String} {mods ls : List Lexeme} {op : Lexeme}
    (hfield : ¬ IsMisleadingField field) (hmods : ∀ l ∈ mods, l.modifier?.isSome = true)
    (hop : op.operator?.isSome = true) (hmore : significant ∅ more = mods ++ op :: ls)
    (hrun : (Stage.due []).run (significant ∅ (field.toList ++ ' ' :: more)) = some e) :
    ∃ front, significant ∅ (field.toList ++ ' ' :: more) = front ++ op :: ls ∧
      (Stage.due []).run (front ++ [op]) = some .compared ∧ Stage.compared.run ls = some e ∧
      .closeParen ∉ front ∧ (.openParen ∉ front → IsFieldName field) := by
  have hquoted {q : Char} (hq : IsQuote q) (hmem : q ∈ field.toList) : ¬ IsFieldName field := by
    intro hname
    have hbare := hname.1.2 q hmem
    simp [isBareChar_of_isQuote hq] at hbare
  rcases @Lexeme.significant_append_break ∅ ' ' (.inr (by decide)) field.toList more with
    hcut | ⟨front, q, v, hq, hv, hcs, hcut⟩
  · -- The field ends outside of values, and what leads to the operator has named a field.
    rw [hcut, Lexeme.significant_blank (by decide), hmore] at hrun
    obtain ⟨m, hfront, hrest⟩ := Stage.run_append_eq_some hrun
    obtain ⟨⟨ms, rfl⟩, hcompared, hls⟩ := Stage.run_operator hmods hop hrest
    have hplain : ∀ q ∈ field.toList, ¬ IsQuote q := fun q hmem hq ↦
      hfield ⟨hquoted hq hmem, fun _ ↦ ⟨q, hmem, hq⟩, .inr ⟨ms, hfront⟩⟩
    have hclose : .closeParen ∉ significant ∅ field.toList :=
      Stage.closeParen_notMem hfront trivial fun l hl ↦ Lexeme.kind_ne_value_of_mem hl hplain
    refine ⟨significant ∅ field.toList ++ mods, ?_, ?_, hls, ?_, fun hopen ↦ ?_⟩
    · rw [hcut, Lexeme.significant_blank (by decide), hmore, List.append_assoc]
    · rw [List.append_assoc, Stage.run_append, hfront, Option.bind_some, hcompared]
    · rw [List.mem_append, not_or]
      exact ⟨hclose, fun hmem ↦ by simpa [Lexeme.modifier?] using hmods _ hmem⟩
    · by_contra hname
      refine hfield ⟨hname, fun hparen ↦ ?_, .inr ⟨ms, hfront⟩⟩
      exact absurd (List.mem_append_left _ (Lexeme.openParen_mem_significant hparen hplain)) hopen
  · -- The field opens a value that the operator becomes a part of.
    rw [hcut] at hrun
    have hmem : q ∈ field.toList :=
      Lexeme.mem_of_mem_chars (hcs ▸ List.mem_append_right _ List.mem_cons_self)
        (by simp [Lexeme.chars])
    have hinside : (Stage.due []).Leads field.toList .inside := by
      rw [Stage.Leads, hcs, Stage.run_append, Stage.run_of_isQuote hq hrun]
      rfl
    exact absurd ⟨hquoted hq hmem, fun _ ↦ ⟨q, hmem, hq⟩, .inl hinside⟩ hfield

/-! ### Values -/

/-- A value that stands where one is due is read as it is, or it is misleading. -/
theorem significant_value {value : String} (hvalue : ¬ IsMisleadingValue value)
    (hrun : Stage.compared.run (significant ∅ (renderValue value.toList ++ rest)) = some e) :
    (∃ q, IsQuote q ∧ q ∉ value.toList) ∧
      significant ∅ (renderValue value.toList ++ rest) =
        .quoted (quoteFor value.toList) value :: significant ∅ rest := by
  have hlacks : ∃ q, IsQuote q ∧ q ∉ value.toList := by
    by_contra hboth
    rw [Condition.exists_quote_iff, not_not] at hboth
    -- The value ends at its first double quote, and the text goes on at the closing one.
    obtain ⟨before, after, hsplit, hbefore⟩ := List.eq_append_cons_of_mem hboth.1
    have hbehind : behindQuote value.toList = after := by
      have hall : ∀ c ∈ before, (c != '"') = true := fun c hc ↦ by
        simpa using fun he : c = '"' ↦ hbefore (he ▸ hc)
      rw [behindQuote, hsplit, Lexeme.dropWhile_append_eq hall (by simp), List.tail_cons]
    have htext : renderValue value.toList ++ rest =
        '"' :: (before ++ '"' :: (after ++ '"' :: rest)) := by
      have hquote : quoteFor value.toList = '"' := by simp [quoteFor, hboth.2]
      rw [renderValue, hquote, hsplit]
      simp
    rw [htext, Lexeme.significant_quoted (.inl rfl) hbefore] at hrun
    have hleads := Stage.leads_of_isQuote (s := .complete) (.inl rfl) hrun
    exact hvalue ⟨hboth, hbehind ▸ hleads⟩
  obtain ⟨hq, hv⟩ := Condition.quoteFor_spec hlacks
  refine ⟨hlacks, ?_⟩
  rw [renderValue, List.cons_append, List.append_assoc, List.singleton_append,
    Lexeme.significant_quoted hq hv, String.ofList_toList]

/-! ### Conditions and trees -/

/-- What the lexemes of the text of some conditions are, within a text that may be that of an
expression. -/
structure Walked (text rest : List Char) (cs : List Condition) (ls : List Lexeme) : Prop where
  /-- The text is cut apart from what follows it. -/
  cut : significant ∅ (text ++ rest) = ls ++ significant ∅ rest
  /-- The last condition is complete. -/
  run : (Stage.due []).run ls = some .complete
  /-- The text closes no parentheses but its own. -/
  parens : ls.count .closeParen ≤ ls.count .openParen
  /-- If it leaves none open, the conditions are written faithfully. -/
  writable : ls.count .closeParen = ls.count .openParen → ∀ c ∈ cs, c.IsWritable

/-- The text of a condition that is not misleading. -/
theorem Condition.walked {c : Condition} (hc : ¬ c.IsMisleading)
    (hrun : (Stage.due []).run (significant ∅ (c.render ++ rest)) = some e) :
    ∃ ls, Walked c.render rest [c] ls := by
  obtain ⟨hfield, hvalue⟩ := not_or.1 hc
  let mods : List Lexeme := c.operator.modifiers.map fun m ↦ .word m.keyword (.modifier m)
  let op : Lexeme :=
    .word c.operator.comparison.keyword (.operator ⟨c.operator.comparison, false, false⟩)
  have htext : c.render ++ rest = c.field.toList ++ ' ' ::
      (c.operator.modifiers.flatMap (fun m ↦ m.keyword.toList ++ [' ']) ++
        (c.operator.comparison.keyword.toList ++ ' ' :: (renderValue c.value.toList ++ rest))) := by
    rw [render_eq]
    simp
  have hmore := significant_modifiers c.operator.modifiers
    (c.operator.comparison.keyword.toList ++ ' ' :: (renderValue c.value.toList ++ rest))
  rw [Lexeme.significant_word_blank c.operator.comparison.isBareWord_keyword,
    Comparison.reserved_keyword] at hmore
  have hmods : ∀ l ∈ mods, l.modifier?.isSome = true := by simp [mods, Lexeme.modifier?]
  rw [htext] at hrun
  obtain ⟨front, hcut, hfront, hls, hclose, hname⟩ :=
    significant_field hfield hmods rfl hmore hrun
  obtain ⟨hlacks, hquoted⟩ := significant_value hvalue hls
  refine ⟨front ++ [op, .quoted (quoteFor c.value.toList) c.value], ?_⟩
  have hzero : (front ++ [op, .quoted (quoteFor c.value.toList) c.value]).count .closeParen = 0 :=
    List.count_eq_zero.2 (by simp [op, hclose])
  constructor
  case cut =>
    rw [htext, hcut, hquoted]
    simp [op]
  case run =>
    have hsplit : front ++ [op, .quoted (quoteFor c.value.toList) c.value] =
        front ++ [op] ++ [.quoted (quoteFor c.value.toList) c.value] := by simp
    rw [hsplit, Stage.run_append, hfront]
    rfl
  case parens =>
    rw [hzero]
    exact Nat.zero_le _
  case writable =>
    intro heq d hd
    rw [hzero] at heq
    have hopen := List.count_eq_zero.1 heq.symm
    rw [List.mem_singleton.1 hd]
    exact ⟨hname fun hmem ↦ hopen (List.mem_append_left _ hmem), hlacks⟩

namespace Tree

variable {t u : Tree} {ts : List Tree}

/-- The texts of some trees joined by a connective, if the text of each tree is as it should be. -/
theorem walked_intercalate (k : Connective) (hne : ts ≠ [])
    (h : ∀ t ∈ ts, ∀ rest, ((Stage.due []).run (significant ∅ (t.renderChars ++ rest)) = some e) →
      ∃ ls, Walked t.renderChars rest t.leaves ls)
    (hrun : (Stage.due []).run (significant ∅ (List.intercalate (' ' :: (k.keyword.toList ++ [' ']))
      (ts.map renderChars) ++ rest)) = some e) :
    ∃ ls, Walked (List.intercalate (' ' :: (k.keyword.toList ++ [' '])) (ts.map renderChars)) rest
      (leavesAll ts) ls := by
  induction ts with
  | nil => exact absurd rfl hne
  | cons t ts ih =>
    obtain ⟨ht, hts⟩ := List.forall_mem_cons.1 h
    cases ts with
    | nil =>
      simpa [List.intercalate, leavesAll] using ht rest (by simpa [List.intercalate] using hrun)
    | cons v vs =>
      have ih := ih (List.cons_ne_nil _ _) hts
      generalize hjoined : List.intercalate (' ' :: (k.keyword.toList ++ [' ']))
        ((v :: vs).map renderChars) = joined at ih
      have hsplit : List.intercalate (' ' :: (k.keyword.toList ++ [' ']))
          ((t :: v :: vs).map renderChars) =
          t.renderChars ++ ' ' :: (k.keyword.toList ++ ' ' :: joined) := by
        rw [← hjoined]
        simp [List.intercalate]
      have hword : significant ∅ (' ' :: (k.keyword.toList ++ ' ' :: (joined ++ rest))) =
          .word k.keyword (.connective k) :: significant ∅ (joined ++ rest) := by
        rw [Lexeme.significant_blank (by decide),
          Lexeme.significant_word_blank k.isBareWord_keyword, k.reserved_keyword]
      have htext : t.renderChars ++ ' ' :: (k.keyword.toList ++ ' ' :: joined) ++ rest =
          t.renderChars ++ ' ' :: (k.keyword.toList ++ ' ' :: (joined ++ rest)) := by simp
      rw [hsplit, htext] at hrun
      obtain ⟨ls, hcut, hls, hle, hwritable⟩ := ht _ hrun
      rw [hcut, hword, Stage.run_append, hls, Option.bind_some] at hrun
      obtain ⟨ls', hcut', hls', hle', hwritable'⟩ := ih hrun
      refine ⟨ls ++ .word k.keyword (.connective k) :: ls', ?_, ?_, ?_, fun heq c hc ↦ ?_⟩
      · rw [hsplit, htext, hcut, hword, hcut', List.append_assoc, List.cons_append]
      · rw [Stage.run_append, hls, Option.bind_some]
        exact hls'
      · simp only [List.count_append, List.count_cons]
        simpa using Nat.add_le_add hle hle'
      · -- Both sides have as many parentheses to close as they opened.
        have hsum : ls.count .closeParen + ls'.count .closeParen =
            ls.count .openParen + ls'.count .openParen := by simpa using heq
        rw [leavesAll, List.mem_append] at hc
        rcases hc with hc | hc
        · exact hwritable (by omega) c hc
        · exact hwritable' (by omega) c hc

/-- The text of a tree without misleading conditions. The induction is on the tree, and whether the
text goes on as an expression is passed on from each part to the next. -/
theorem walked (hgroup : t.EveryGroup (2 ≤ ·.length)) (hleaf : ∀ c ∈ t.leaves, ¬ c.IsMisleading)
    (hrun : (Stage.due []).run (significant ∅ (t.renderChars ++ rest)) = some e) :
    ∃ ls, Walked t.renderChars rest t.leaves ls := by
  induction t using tree_induction generalizing rest with
  | condition c => exact Condition.walked (hleaf c (by simp [leaves])) hrun
  | group k ts ih =>
    obtain ⟨h2, hall⟩ := everyGroup_group.1 hgroup
    have hne : ts ≠ [] := by
      rintro rfl
      simp at h2
    have hts : ∀ t ∈ ts, ∀ rest,
        ((Stage.due []).run (significant ∅ (t.renderChars ++ rest)) = some e) →
        ∃ ls, Walked t.renderChars rest t.leaves ls :=
      fun t ht rest ↦ ih t ht (hall t ht) fun c hc ↦ hleaf c (mem_leaves_group ht hc)
    generalize hjoined : List.intercalate (' ' :: (k.keyword.toList ++ [' ']))
      (ts.map renderChars) = joined
    have htext : (group k ts).renderChars = '(' :: (joined ++ [')']) := by
      rw [renderChars, renderAll_eq, joinOperands_of_two_le k (by simpa using h2), hjoined]
    have hsplit : '(' :: (joined ++ [')']) ++ rest = '(' :: (joined ++ ')' :: rest) := by simp
    rw [htext, hsplit, Lexeme.significant_openParen] at hrun
    have hwalked := walked_intercalate k hne hts (hjoined ▸ hrun)
    rw [hjoined] at hwalked
    obtain ⟨ls, hcut, hls, hle, hwritable⟩ := hwalked
    refine ⟨.openParen :: (ls ++ [.closeParen]), ?_, ?_, ?_, fun heq ↦ hwritable ?_⟩
    · rw [htext, hsplit, Lexeme.significant_openParen, hcut, Lexeme.significant_closeParen]
      simp
    · have hinner : (Stage.due []).run (ls ++ [.closeParen]) = some .complete := by
        rw [Stage.run_append, hls]
        rfl
      exact hinner
    · simpa using hle
    · simpa using heq

/-- The text of a tree that was loaded, if it is read at all, is read as the tree without its groups
of one child, unless some condition of the tree is misleading. The trees that are read are those
that the language can write. -/
theorem parse_render_iff_of_load {text : String} (hload : load text = .ok t)
    (hleaf : ∀ c ∈ t.leaves, ¬ c.IsMisleading) (u : Tree) :
    parse t.render = .ok u ↔ t.IsWritable ∧ u = t.collapse := by
  have hgroups := everyGroup_of_load hload
  constructor
  · intro h
    obtain ⟨ts, hd, -⟩ := parse_eq_ok_iff.1 h
    have htext : t.render.toList = t.collapse.renderChars := by
      rw [render, String.toList_ofList, renderChars_collapse]
    rw [htext] at hd
    have hrun : (Stage.due []).run (significant ∅ (t.collapse.renderChars ++ [])) =
        some .complete := by
      rw [List.append_nil]
      exact hd.run
    obtain ⟨ls, hcut, -, -, hwritable⟩ := walked ((everyGroup_collapse t).2 hgroups)
      (by rwa [leaves_collapse]) hrun
    rw [Lexeme.significant_nil, List.append_nil, List.append_nil] at hcut
    -- Nothing follows the text, so its parentheses are all there, and they are balanced.
    have hbalanced := hd.count_parens
    rw [hcut] at hbalanced
    have hleaves : ∀ c ∈ t.leaves, c.IsWritable := by
      simpa [leaves_collapse] using hwritable hbalanced.symm
    have hread := isWritable_of_leaves hgroups hleaves h
    exact ⟨hread, Except.ok.inj (h.symm.trans (parse_render hread))⟩
  · rintro ⟨hwritable, rfl⟩
    exact parse_render hwritable

/-- A field of two words and a value that goes on behind its first quote, neither of which is
misleading. The text of the tree is refused. -/
theorem parse_render_of_two_words :
    let t : Tree := .group .or [.condition ⟨"a", ⟨.equals, false, false⟩, "x\" y 'z'"⟩,
      .condition ⟨"b c", ⟨.contains, true, false⟩, "and"⟩]
    load t.toJson.compact = .ok t ∧ (∀ c ∈ t.leaves, ¬ c.IsMisleading) ∧
      ∀ u, parse t.render ≠ .ok u := by
  intro t
  have hload : load t.toJson.compact = .ok t :=
    load_of_isDocument (by simp [t, everyGroup_group, EveryGroup.condition]) (by decide) .node
      (Json.isText_compact t.isPlain_toJson)
  have hleaf : ∀ c ∈ t.leaves, ¬ c.IsMisleading := by decide +kernel
  refine ⟨hload, hleaf, fun u hu ↦ ?_⟩
  have hwritable := ((parse_render_iff_of_load hload hleaf u).1 hu).1
  have hname := (hwritable.leaves ⟨"b c", ⟨.contains, true, false⟩, "and"⟩ (by decide)).1
  exact absurd hname (by decide)

theorem load_plain {field : String} (hne : field ≠ "") (k : Comparison) (value : String) :
    load (plain field k value).toJson.compact = .ok (plain field k value) :=
  load_of_isDocument (.condition _) (by simpa [plain, leaves] using hne) .node
    (Json.isText_compact (isPlain_toJson _))

/-- The texts of these trees are read as other trees: the first field holds a whole condition, the
second one a modifier, and the value two conditions. -/
theorem parse_render_of_misleading :
    let whole := plain "a equals \"x\" AND b" .equals "y"
    let padded := plain "not a" .equals "x"
    let broken := plain "a" .equals "x\" AND b equals 'y' AND c equals \"z"
    let two := group .and [plain "a" .equals "x", plain "b" .equals "y"]
    let negated := modify .not (plain "a" .equals "x")
    let three := group .and [plain "a" .equals "x", plain "b" .equals "y", plain "c" .equals "z"]
    (load whole.toJson.compact = .ok whole ∧ parse whole.render = .ok two ∧ two ≠ whole.collapse) ∧
    (load padded.toJson.compact = .ok padded ∧ parse padded.render = .ok negated ∧
      negated ≠ padded.collapse) ∧
    (load broken.toJson.compact = .ok broken ∧ parse broken.render = .ok three ∧
      three ≠ broken.collapse) := by
  intro whole padded broken two negated three
  have hwhole : parse whole.render = .ok two := eq_ok_of_toOption (by decide +kernel)
  have hpadded : parse padded.render = .ok negated := eq_ok_of_toOption (by decide +kernel)
  have hbroken : parse broken.render = .ok three := eq_ok_of_toOption (by decide +kernel)
  exact ⟨⟨load_plain (by decide) .equals "y", hwhole, by decide⟩,
    ⟨load_plain (by decide) .equals "x", hpadded, by decide⟩,
    ⟨load_plain (by decide) .equals _, hbroken, by decide⟩⟩

end Tree

end FilterLang
