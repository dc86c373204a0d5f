import FilterLang.Proofs.Reading

/-!
# Trees, their canonical texts, and back

The canonical text of a tree is read as the tree itself, up to groups of one child, exactly for the
trees that the language can write: the fields must be bare words that are not reserved, no value may
hold quotes of both kinds, no group may be empty, and the groups may not be inside each other too
deeply. There are no further conditions, on the operators, the values or the shape of the tree.

The proof goes through the lexemes of a tree, which are defined like its canonical text. The lexer
cuts the text into them (`significant_renderChars`) and the grammar derives the tree from them
(`derives_lexemes`). The converse rests on what every tree that was read has in common, and on the
number of parentheses that the lexemes hold open (`nesting_lexemes`).
-/

namespace FilterLang

open Grammar

/-! ### Keywords -/

theorem Modifier.isBareWord_keyword (m : Modifier) : IsBareWord m.keyword := by
  cases m <;> decide

theorem Connective.isBareWord_keyword (k : Connective) : IsBareWord k.keyword := by
  cases k <;> decide

theorem Comparison.isBareWord_keyword (k : Comparison) : IsBareWord k.keyword := by
  cases k <;> decide

theorem Modifier.reserved_keyword (m : Modifier) : Role.reserved m.keyword = .modifier m := by
  cases m <;> decide

theorem Connective.reserved_keyword (k : Connective) : Role.reserved k.keyword = .connective k := by
  cases k <;> decide

theorem Comparison.reserved_keyword (k : Comparison) :
    Role.reserved k.keyword = .operator ⟨k, false, false⟩ := by
  cases k <;> decide

/-- A blank ends every bare word. -/
theorem isBareChar_head_blank (cs : List Char) :
    ∀ c ∈ (' ' :: cs).head?, isBareChar c = false := by
  rintro c ⟨⟩
  decide

/-- A bare word and the blank after it. -/
theorem Lexeme.significant_word_blank {w : String} (hw : IsBareWord w) (cs : List Char) :
    significant ∅ (w.toList ++ ' ' :: cs) =
      .word w (.reserved w) :: significant ∅ cs := by
  rw [significant_word hw (isBareChar_head_blank cs), significant_blank (by decide),
    Role.ofWord_empty]

/-! ### Conditions -/

namespace Condition

variable {c : Condition}

/-- Whether the text of a condition can be read back: its field can name one, and its value lacks a
quote. -/
def IsWritable (c : Condition) : Prop :=
  IsFieldName c.field ∧ ∃ q, IsQuote q ∧ q ∉ c.value.toList

/-- The lexemes of the text of a condition. -/
def lexemes (c : Condition) : List Lexeme :=
  .word c.field .unknown :: (c.operator.modifiers.map (fun m ↦ .word m.keyword (.modifier m)) ++
    [.word c.operator.comparison.keyword (.operator ⟨c.operator.comparison, false, false⟩),
      .quoted (quoteFor c.value.toList) c.value])

/-- The text of a condition, with its modifiers as a list. -/
theorem render_eq (c : Condition) :
    c.render = c.field.toList ++ ' ' ::
      (c.operator.modifiers.flatMap (fun m ↦ m.keyword.toList ++ [' ']) ++
        (c.operator.comparison.keyword.toList ++ ' ' :: renderValue c.value.toList)) := by
  obtain ⟨f, ⟨k, n, s⟩, v⟩ := c
  cases n <;> cases s <;> simp [render, Operator.modifiers]

/-- The quote around a value is not in it if one of the quotes is not. -/
theorem quoteFor_spec {v : List Char} (h : ∃ q, IsQuote q ∧ q ∉ v) :
    IsQuote (quoteFor v) ∧ quoteFor v ∉ v := by
  unfold quoteFor
  obtain ⟨q, rfl | rfl, hq⟩ := h
  · simp [IsQuote, hq]
  · by_cases hd : '"' ∈ v <;> simp [IsQuote, hd, hq]

theorem exists_quote_iff {v : String} :
    (∃ q, IsQuote q ∧ q ∉ v.toList) ↔ ¬ ('"' ∈ v.toList ∧ '\'' ∈ v.toList) := by
  simp only [IsQuote, or_and_right, exists_or, exists_eq_left, not_and_or]

/-- Modifiers are cut as they were written. -/
theorem significant_modifiers (ms : List Modifier) (cs : List Char) :
    Lexeme.significant ∅ (ms.flatMap (fun m ↦ m.keyword.toList ++ [' ']) ++ cs) =
      ms.map (fun m ↦ .word m.keyword (.modifier m)) ++ Lexeme.significant ∅ cs := by
  induction ms with
  | nil => rfl
  | cons m ms ih =>
    rw [List.flatMap_cons, List.append_assoc, List.append_assoc, List.singleton_append,
      Lexeme.significant_word_blank m.isBareWord_keyword, ih, m.reserved_keyword]
    rfl

/-- The text of a condition is cut into its lexemes, whatever follows. -/
theorem significant_render (h : c.IsWritable) (cs : List Char) :
    Lexeme.significant ∅ (c.render ++ cs) = c.lexemes ++ Lexeme.significant ∅ cs := by
  obtain ⟨hq, hv⟩ := quoteFor_spec h.2
  have hfield : Role.reserved c.field = .unknown := (reserved_eq_unknown_iff h.1.1).2 h.1.2
  rw [render_eq, List.append_assoc, List.cons_append,
    Lexeme.significant_word_blank h.1.1, hfield, List.append_assoc, significant_modifiers,
    List.append_assoc, List.cons_append,
    Lexeme.significant_word_blank c.operator.comparison.isBareWord_keyword,
    Comparison.reserved_keyword, renderValue, List.cons_append, List.append_assoc,
    List.singleton_append, Lexeme.significant_quoted hq hv]
  simp [lexemes]

/-- An operator is its comparison with its modifiers. -/
theorem qualified_modifiers (o : Operator) : o.comparison.qualified o.modifiers = o := by
  obtain ⟨k, n, s⟩ := o
  cases n <;> cases s <;> rfl

theorem nodup_modifiers (o : Operator) : o.modifiers.Nodup := by
  obtain ⟨k, n, s⟩ := o
  cases n <;> cases s <;> simp [Operator.modifiers]

/-- The lexemes of a condition make up the condition. -/
theorem isCondition_lexemes (c : Condition) : IsCondition c.lexemes c := by
  have hbefore : ([] : List Lexeme).map Lexeme.modifier? = ([] : List Modifier).map some := rfl
  have hname : (Lexeme.word c.field .unknown).name? = some c.field := rfl
  have hafter : (c.operator.modifiers.map fun m ↦ Lexeme.word m.keyword (.modifier m)).map
      Lexeme.modifier? = c.operator.modifiers.map some := by
    rw [List.map_map]
    rfl
  have hop : (Lexeme.word c.operator.comparison.keyword
      (.operator ⟨c.operator.comparison, false, false⟩)).operator? = some _ := rfl
  have hvalue : (Lexeme.quoted (quoteFor c.value.toList) c.value).content? = some c.value := rfl
  have hplain : [] ++ c.operator.modifiers ++
      (⟨c.operator.comparison, false, false⟩ : Operator).modifiers = c.operator.modifiers :=
    List.append_nil _
  have h := IsCondition.intro hbefore hname hafter hop hvalue
    (by rw [hplain]; exact nodup_modifiers c.operator)
  rw [hplain] at h
  have hc : (⟨c.field, c.operator.comparison.qualified c.operator.modifiers, c.value⟩ : Condition) =
      c := by rw [qualified_modifiers]
  exact (congrArg (IsCondition c.lexemes) hc).mp h

end Condition

/-! ### Trees -/

namespace Tree

variable {k : Connective} {t : Tree} {ts : List Tree}

/-- Lists of lexemes joined by a connective. -/
def joinLexemes (k : Connective) : List (List Lexeme) → List Lexeme
  | [] => []
  | [only] => only
  | first :: rest => first ++ .word k.keyword (.connective k) :: joinLexemes k rest

mutual

/-- The lexemes of the text of a tree without groups of one child. -/
def lexemes : Tree → List Lexeme
  | condition c => c.lexemes
  | group k children => .openParen :: (joinLexemes k (lexemesAll children) ++ [.closeParen])

/-- The lexemes of the texts of a list of trees. -/
def lexemesAll : List Tree → List (List Lexeme)
  | [] => []
  | t :: ts => lexemes t :: lexemesAll ts

end

theorem lexemesAll_eq (ts : List Tree) : lexemesAll ts = ts.map lexemes := by
  induction ts with
  | nil => rfl
  | cons t ts ih => rw [lexemesAll, ih, List.map_cons]

/-- Two operands or more stand in parentheses. -/
theorem joinOperands_of_two_le (k : Connective) {parts : List (List Char)} (h : 2 ≤ parts.length) :
    joinOperands k parts =
      '(' :: (List.intercalate (' ' :: (k.keyword.toList ++ [' '])) parts ++ [')']) := by
  match parts, h with
  | _ :: _ :: _, _ => rfl

/-- Texts that are cut into their lexemes whatever follows are so when they are joined. -/
theorem significant_intercalate (k : Connective) (hne : ts ≠ [])
    (h : ∀ t ∈ ts, ∀ cs, Lexeme.significant ∅ (t.renderChars ++ cs) =
      t.lexemes ++ Lexeme.significant ∅ cs) (cs : List Char) :
    Lexeme.significant ∅ (List.intercalate (' ' :: (k.keyword.toList ++ [' ']))
        (ts.map renderChars) ++ cs) =
      joinLexemes k (ts.map lexemes) ++ Lexeme.significant ∅ cs := by
  induction ts with
  | nil => exact absurd rfl hne
  | cons t ts ih =>
    cases ts with
    | nil => simpa [List.intercalate, joinLexemes] using h t List.mem_cons_self cs
    | cons u us =>
      have ih := ih (List.cons_ne_nil _ _) fun v hv ↦ h v (List.mem_cons_of_mem _ hv)
      have hsplit : List.intercalate (' ' :: (k.keyword.toList ++ [' ']))
          ((t :: u :: us).map renderChars) ++ cs =
          t.renderChars ++ ' ' :: (k.keyword.toList ++ ' ' ::
            (List.intercalate (' ' :: (k.keyword.toList ++ [' '])) ((u :: us).map renderChars) ++
              cs)) := by
        simp [List.intercalate]
      rw [hsplit, h t List.mem_cons_self, Lexeme.significant_blank (by decide),
        Lexeme.significant_word_blank k.isBareWord_keyword, ih, k.reserved_keyword]
      simp [joinLexemes]

/-- The canonical text of a tree is cut into the tree's lexemes, whatever follows. -/
theorem significant_renderChars (hgroup : t.EveryGroup (2 ≤ ·.length))
    (hleaf : ∀ c ∈ t.leaves, c.IsWritable) (cs : List Char) :
    Lexeme.significant ∅ (t.renderChars ++ cs) = t.lexemes ++ Lexeme.significant ∅ cs := by
  induction t using tree_induction generalizing cs with
  | condition c => exact Condition.significant_render (hleaf c (by simp [leaves])) cs
  | group k ts ih =>
    obtain ⟨h2, hall⟩ := everyGroup_group.1 hgroup
    have hne : ts ≠ [] := by
      rintro rfl
      simp at h2
    have hts : ∀ t ∈ ts, ∀ cs, Lexeme.significant ∅ (t.renderChars ++ cs) =
        t.lexemes ++ Lexeme.significant ∅ cs :=
      fun t ht ↦ ih t ht (hall t ht) fun c hc ↦ hleaf c (mem_leaves_group ht hc)
    rw [renderChars, renderAll_eq, joinOperands_of_two_le k (by simpa using h2), List.cons_append,
      Lexeme.significant_openParen, List.append_assoc, significant_intercalate k hne hts,
      List.singleton_append, Lexeme.significant_closeParen, lexemes, lexemesAll_eq]
    simp

/-- Operands make up a chain of their connective. -/
theorem derives_joinLexemes {n : Nat} (hne : ts ≠ [])
    (h : ∀ t ∈ ts, Derives n (.operand k) t.lexemes [t]) :
    Derives n (.chain k) (joinLexemes k (ts.map lexemes)) ts := by
  induction ts with
  | nil => exact absurd rfl hne
  | cons t ts ih =>
    have ht := h t List.mem_cons_self
    cases ts with
    | nil => exact .single ht
    | cons u us =>
      exact .joined ht rfl (ih (List.cons_ne_nil _ _) fun v hv ↦ h v (List.mem_cons_of_mem _ hv))

/-- The grammar derives a tree from its lexemes. The parentheses of its groups are all that it
needs. -/
theorem derives_lexemes {n : Nat} (hgroup : t.EveryGroup (2 ≤ ·.length)) (hn : t.height ≤ n) :
    Derives n .term t.lexemes [t] := by
  induction t using tree_induction generalizing n with
  | condition c => exact .condition c.isCondition_lexemes
  | group k ts ih =>
    obtain ⟨h2, hall⟩ := everyGroup_group.1 hgroup
    rw [height] at hn
    obtain ⟨n, rfl⟩ : ∃ m, n = m + 1 := ⟨n - 1, by omega⟩
    have hterm : ∀ t ∈ ts, Derives n .term t.lexemes [t] := fun t ht ↦
      ih t ht (hall t ht) (by have := height_le_heightAll ht; omega)
    have hne : ts ≠ [] := by
      rintro rfl
      simp at h2
    rw [lexemes, lexemesAll_eq]
    -- What stands in parentheses is a chain of `OR`, so a chain of `AND` is its only operand.
    cases k with
    | and =>
      have h := (Derives.single (k := .or) (derives_joinLexemes (k := .and) hne hterm)).parentheses
      rwa [ofChain_singleton, ofChain_of_two_le _ h2] at h
    | or =>
      have hchain : ∀ t ∈ ts, Derives n (.chain .and) t.lexemes [ofChain .and [t]] :=
        fun t ht ↦ .single (hterm t ht)
      have h := (derives_joinLexemes (k := .or) hne hchain).parentheses
      rwa [ofChain_of_two_le _ h2] at h

theorem nesting_joinLexemes (k : Connective)
    (h : ∀ t ∈ ts, ∀ j ls, nesting j (t.lexemes ++ ls) = max (j + t.height) (nesting j ls))
    (j : Nat) (ls : List Lexeme) :
    nesting j (joinLexemes k (ts.map lexemes) ++ ls) = max (j + heightAll ts) (nesting j ls) := by
  have hle := le_nesting j ls
  induction ts with
  | nil =>
    rw [List.map_nil, joinLexemes, List.nil_append, heightAll]
    omega
  | cons t ts ih =>
    have ht := h t List.mem_cons_self j
    have ih := ih fun u hu ↦ h u (List.mem_cons_of_mem _ hu)
    rw [heightAll]
    cases ts with
    | nil =>
      rw [List.map_singleton, joinLexemes, ht, heightAll]
      omega
    | cons u us =>
      have hjoin : joinLexemes k ((t :: u :: us).map lexemes) ++ ls = t.lexemes ++
          .word k.keyword (.connective k) :: (joinLexemes k ((u :: us).map lexemes) ++ ls) := by
        simp [joinLexemes]
      rw [hjoin, ht, nesting_cons (by simp), ih]
      omega

/-- The lexemes of a tree open as many parentheses at once as groups stand inside each other. -/
theorem nesting_lexemes (t : Tree) (j : Nat) (ls : List Lexeme) :
    nesting j (t.lexemes ++ ls) = max (j + t.height) (nesting j ls) := by
  induction t using tree_induction generalizing j ls with
  | condition c =>
    have := le_nesting j ls
    rw [lexemes, c.isCondition_lexemes.nesting_append, height]
    omega
  | group k ts ih =>
    -- The group is open while its children are read, and closed for what follows.
    have hclose := nesting_joinLexemes k ih (j + 1) (.closeParen :: ls)
    have := le_nesting j ls
    rw [nesting, Nat.add_sub_cancel] at hclose
    rw [lexemes, lexemesAll_eq, List.cons_append, List.append_assoc, List.singleton_append, nesting,
      hclose, height]
    omega

/-! ### The round trip -/

/-- The lexemes of the text of a writable tree are those of the tree without groups of one child. -/
theorem significant_render (hgroup : t.EveryGroup (· ≠ [])) (hleaf : ∀ c ∈ t.leaves, c.IsWritable) :
    Lexeme.significant ∅ t.render.toList = t.collapse.lexemes := by
  have h := significant_renderChars ((everyGroup_collapse t).2 hgroup)
    (by rwa [leaves_collapse]) []
  rw [List.append_nil, Lexeme.significant_nil, List.append_nil, renderChars_collapse] at h
  rwa [render, String.toList_ofList]

/-- Whether a text can stand for a tree: the conditions can be written, no group is empty, and
without its groups of one child the tree is not too high. -/
structure IsWritable (t : Tree) : Prop where
  leaves : ∀ c ∈ t.leaves, c.IsWritable
  groups : t.EveryGroup (· ≠ [])
  height : t.collapse.height ≤ maxNesting

/-- The canonical text of a writable tree is read as the tree without its groups of one child. -/
theorem parse_render (h : t.IsWritable) : parse t.render = .ok t.collapse := by
  have hd := derives_lexemes ((everyGroup_collapse t).2 h.groups) h.height
  rw [parse_eq_ok_iff, significant_render h.groups h.leaves]
  exact ⟨_, .single (.single hd), rfl⟩

/-- A tree with conditions that can be written and without empty groups is not too high if its text
is read at all, since the text is cut as expected and its parentheses can be counted. -/
theorem isWritable_of_leaves {u : Tree} (hgroups : t.EveryGroup (· ≠ []))
    (hleaves : ∀ c ∈ t.leaves, c.IsWritable) (h : parse t.render = .ok u) : t.IsWritable := by
  refine ⟨hleaves, hgroups, ?_⟩
  obtain ⟨ts, hd, -⟩ := parse_eq_ok_iff.1 h
  rw [significant_render hgroups hleaves] at hd
  have hle := hd.nesting_le 0 []
  rw [nesting_lexemes] at hle
  simp only [nesting] at hle
  omega

/-- Only writable trees come back from their texts. -/
theorem isWritable_of_parse_render (h : parse t.render = .ok t.collapse) : t.IsWritable := by
  have hleaves : ∀ c ∈ t.leaves, c.IsWritable := by
    rw [← leaves_collapse]
    exact leaves_of_parse_eq_ok h
  have hgroups : t.EveryGroup (· ≠ []) := (everyGroup_collapse t).1 (everyGroup_of_parse_eq_ok h)
  exact isWritable_of_leaves hgroups hleaves h

/-- The canonical text of a tree is read as that tree, without its groups of one child, exactly if
every field is a bare word that is not reserved, no value holds quotes of both kinds, no group is
empty and, without the groups of one child, at most `maxNesting` groups are inside each other. -/
theorem parse_render_eq_collapse_iff (t : Tree) :
    parse t.render = .ok t.collapse ↔
      (∀ c ∈ t.leaves, IsFieldName c.field) ∧
      (∀ c ∈ t.leaves, ¬ ('"' ∈ c.value.toList ∧ '\'' ∈ c.value.toList)) ∧
      t.EveryGroup (· ≠ []) ∧ t.collapse.height ≤ maxNesting := by
  constructor
  · intro h
    obtain ⟨hleaves, hgroups, hheight⟩ := isWritable_of_parse_render h
    exact ⟨fun c hc ↦ (hleaves c hc).1,
      fun c hc ↦ Condition.exists_quote_iff.1 (hleaves c hc).2, hgroups, hheight⟩
  · rintro ⟨hfields, hvalues, hgroups, hheight⟩
    exact parse_render ⟨fun c hc ↦ ⟨hfields c hc, Condition.exists_quote_iff.2 (hvalues c hc)⟩,
      hgroups, hheight⟩

/-- Words of the language, parentheses and one kind of quote may stand in a value. -/
example :
    let t : Tree := .condition ⟨"title", ⟨.contains, true, false⟩, "or (not 'x'"⟩
    (parse t.render).toOption = some t := by
  decide +kernel

end Tree

end FilterLang
