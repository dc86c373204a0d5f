import FilterLang.Proofs.RoundTrip

/-!
# The canonical text of an expression

The tree of a text has a canonical text, and the canonical text of a tree that was read differs from
other texts in one thing only: there are parentheses around every group. So it is read as the same
tree exactly if at most `maxNesting` groups stand inside each other
(`parse_render_of_parse_eq_ok_iff`).

That is a condition on what an author may write. The limit counts parentheses, and of the two groups
in `a AND b OR c` none needs any. A pair of parentheses around such an expression can hold two
groups, but no more (`height_le_of_isExpression`): texts that stay below half of the limit are safe.
Above, there are texts that are read while their canonical texts are refused. The ladders are such
texts, of any height (`parse_ladder`, `height_ladderTree`).
-/

namespace FilterLang

open Grammar

/-! ### Trees without groups of one -/

namespace Tree

variable {k : Connective} {t : Tree} {ts : List Tree} {text : String}

/-- Without groups of one child there is nothing to collapse. -/
theorem collapse_eq_self (h : t.EveryGroup (2 ≤ ·.length)) : t.collapse = t := by
  induction t using tree_induction with
  | condition c => rfl
  | group k ts ih =>
    obtain ⟨h2, hall⟩ := everyGroup_group.1 h
    have hmap : ts.map collapse = ts := by
      conv_rhs => rw [← List.map_id ts]
      exact List.map_congr_left fun t ht ↦ ih t ht (hall t ht)
    rw [collapse_group, hmap, ofChain_of_two_le k h2]

/-- A tree that was read can be written exactly if its groups are not inside each other too deeply.
-/
theorem isWritable_iff_of_parse_eq_ok (h : parse text = .ok t) :
    t.IsWritable ↔ t.height ≤ maxNesting := by
  have hgroups := everyGroup_of_parse_eq_ok h
  have hself := collapse_eq_self hgroups
  constructor
  · intro hwritable
    have hheight := hwritable.height
    rwa [hself] at hheight
  · intro hheight
    exact ⟨leaves_of_parse_eq_ok h, (everyGroup_collapse t).1 (by rwa [hself]), by rwa [hself]⟩

/-- The canonical text of a tree that was read is read as that tree again exactly if at most
`maxNesting` of the tree's groups are inside each other. -/
theorem parse_render_of_parse_eq_ok_iff (text : String) (t : Tree) (h : parse text = .ok t) :
    parse t.render = .ok t ↔ t.height ≤ maxNesting := by
  have hself := collapse_eq_self (everyGroup_of_parse_eq_ok h)
  rw [← isWritable_iff_of_parse_eq_ok h]
  constructor
  · intro hback
    exact isWritable_of_parse_render (by rw [hself, hback])
  · intro hwritable
    have hback := parse_render hwritable
    rwa [hself] at hback

theorem parse_render_of_mixed_chain :
    let t : Tree := .group .or [.group .and [.condition ⟨"a", ⟨.equals, false, false⟩, "x"⟩,
      .condition ⟨"b", ⟨.equals, true, false⟩, "\""⟩],
      .condition ⟨"c", ⟨.equals, false, false⟩, "z"⟩]
    parse "a equals 'x' && b not_equals '\"' or c equals 'z'" = .ok t ∧ parse t.render = .ok t := by
  intro t
  have h : parse "a equals 'x' && b not_equals '\"' or c equals 'z'" = .ok t := by decide +kernel
  exact ⟨h, (parse_render_of_parse_eq_ok_iff _ t h).2 (by decide)⟩

/-! ### Parentheses and groups -/

theorem heightAll_le {m : Nat} (h : ∀ t ∈ ts, t.height ≤ m) : heightAll ts ≤ m := by
  induction ts with
  | nil => exact Nat.zero_le _
  | cons t ts ih =>
    rw [heightAll]
    exact Nat.max_le.2 ⟨h t List.mem_cons_self, ih fun u hu ↦ h u (List.mem_cons_of_mem _ hu)⟩

/-- A chain adds at most one group to its operands. -/
theorem height_ofChain_le {m : Nat} (k : Connective) (h : ∀ t ∈ ts, t.height ≤ m) :
    (ofChain k ts).height ≤ m + 1 := by
  unfold ofChain
  split
  · exact Nat.le_succ_of_le (h _ List.mem_cons_self)
  · rw [height]
    exact Nat.succ_le_succ (heightAll_le h)

end Tree

namespace Grammar

variable {n : Nat} {p : Phrase} {ls : List Lexeme} {ts : List Tree} {t : Tree}

/-- The groups that an operand of a phrase can have outside of all parentheses: an operand of `OR`
can be a chain of `AND`. -/
def Phrase.looseGroups : Phrase → Nat
  | term => 0
  | chain .and => 0
  | chain .or => 1

/-- An operand of `OR` can be a group of its own, and an operand of `AND` has one tree. -/
theorem height_operand_le {k : Connective} (h : Derives n (.operand k) ls ts)
    (hts : ∀ t ∈ ts, t.height ≤ 2 * n + (Phrase.operand k).looseGroups) :
    (Tree.ofChain .and ts).height ≤ 2 * n + (Phrase.chain k).looseGroups := by
  cases k with
  | or => exact Tree.height_ofChain_le .and hts
  | and =>
    obtain ⟨t, rfl⟩ : ∃ t, ts = [t] := by
      rcases derives_term_iff.1 h with ⟨c, -, rfl⟩ | ⟨-, -, -, -, -, -, rfl⟩ <;> exact ⟨_, rfl⟩
    exact hts t List.mem_cons_self

/-- Each pair of parentheses holds at most two groups inside each other. -/
theorem Derives.height_le (h : Derives n p ls ts) :
    ∀ t ∈ ts, t.height ≤ 2 * n + p.looseGroups := by
  induction h with
  | condition h =>
    intro t ht
    obtain rfl := List.mem_singleton.1 ht
    exact Nat.zero_le _
  | parentheses _ ih =>
    intro t ht
    obtain rfl := List.mem_singleton.1 ht
    exact Tree.height_ofChain_le .or ih
  | single h ih =>
    intro t ht
    obtain rfl := List.mem_singleton.1 ht
    exact height_operand_le h ih
  | joined h _ _ ih ih' =>
    intro t ht
    rcases List.mem_cons.1 ht with rfl | ht
    · exact height_operand_le h ih
    · exact ih' t ht

/-- The tree of an expression has at most two groups for each level of parentheses, and two more. -/
theorem height_le_of_isExpression (h : IsExpression n ls t) : t.height ≤ 2 * n + 2 := by
  obtain ⟨ts, hd, rfl⟩ := h
  exact Tree.height_ofChain_le .or hd.height_le

end Grammar

/-! ### Ladders -/

namespace Tree

/-- The condition that ladders are made of. -/
def rung : Condition := ⟨"a", ⟨.equals, false, false⟩, "x"⟩

/-- A ladder: a condition inside of parentheses, each followed by an operand of `AND` and one of
`OR`. -/
def ladder : Nat → List Char
  | 0 => rung.render
  | n + 1 => '(' :: (ladder n ++ ')' :: ' ' :: (Connective.and.keyword.toList ++ ' ' ::
      (rung.render ++ ' ' :: (Connective.or.keyword.toList ++ ' ' :: rung.render))))

/-- The tree of a ladder, with two groups for each pair of parentheses. -/
def ladderTree : Nat → Tree
  | 0 => condition rung
  | n + 1 => group .or [group .and [ladderTree n, condition rung], condition rung]

theorem height_ladderTree (n : Nat) : (ladderTree n).height = 2 * n := by
  induction n with
  | zero => rfl
  | succ n ih => simp [ladderTree, height, heightAll, ih]; omega

/-- The lexemes of a ladder. -/
def ladderLexemes : Nat → List Lexeme
  | 0 => rung.lexemes
  | n + 1 => .openParen :: (ladderLexemes n ++ [.closeParen]) ++
      .word Connective.and.keyword (.connective .and) :: rung.lexemes ++
      .word Connective.or.keyword (.connective .or) :: rung.lexemes

theorem significant_ladder (n : Nat) (cs : List Char) :
    Lexeme.significant ∅ (ladder n ++ cs) = ladderLexemes n ++ Lexeme.significant ∅ cs := by
  have hrung : rung.IsWritable := ⟨by decide, '"', .inl rfl, by decide⟩
  induction n generalizing cs with
  | zero => exact Condition.significant_render hrung cs
  | succ n ih =>
    have hsplit : ladder (n + 1) ++ cs = '(' :: (ladder n ++ ')' :: ' ' ::
        (Connective.and.keyword.toList ++ ' ' :: (rung.render ++ ' ' ::
          (Connective.or.keyword.toList ++ ' ' :: (rung.render ++ cs))))) := by
      simp [ladder]
    rw [hsplit, Lexeme.significant_openParen, ih, Lexeme.significant_closeParen,
      Lexeme.significant_blank (by decide),
      Lexeme.significant_word_blank (Connective.isBareWord_keyword .and),
      Condition.significant_render hrung, Lexeme.significant_blank (by decide),
      Lexeme.significant_word_blank (Connective.isBareWord_keyword .or),
      Condition.significant_render hrung, Connective.reserved_keyword, Connective.reserved_keyword]
    simp [ladderLexemes]

/-- A ladder needs as many parentheses as it has steps. -/
theorem isExpression_ladder (n : Nat) : IsExpression n (ladderLexemes n) (ladderTree n) := by
  have hrung (m : Nat) : Derives m .term rung.lexemes [condition rung] :=
    .condition rung.isCondition_lexemes
  induction n with
  | zero => exact ⟨_, .single (.single (hrung 0)), rfl⟩
  | succ n ih =>
    obtain ⟨ts, hd, ht⟩ := ih
    have hinner := hd.parentheses
    rw [← ht] at hinner
    have hconn (k : Connective) :
        (Lexeme.word k.keyword (.connective k)).connective? = some k := rfl
    have hand : Derives (n + 1) (.chain .and) _ [ladderTree n, condition rung] :=
      .joined hinner (hconn .and) (.single (hrung (n + 1)))
    exact ⟨_, .joined hand (hconn .or) (.single (.single (hrung (n + 1)))), rfl⟩

/-- Ladders are read up to the greatest number of parentheses. -/
theorem parse_ladder {n : Nat} (h : n ≤ maxNesting) :
    parse (String.ofList (ladder n)) = .ok (ladderTree n) := by
  obtain ⟨ts, hd, ht⟩ := isExpression_ladder n
  have hcut := significant_ladder n []
  rw [List.append_nil, Lexeme.significant_nil, List.append_nil] at hcut
  rw [parse_eq_ok_iff, String.toList_ofList, hcut]
  exact ⟨ts, hd.mono h, ht⟩

/-- A ladder of 65 steps stays far below the greatest number of parentheses, and yet its canonical
text is not read as the ladder again. -/
theorem parse_render_ladder_ne :
    parse (String.ofList (ladder 65)) = .ok (ladderTree 65) ∧
      parse (ladderTree 65).render ≠ .ok (ladderTree 65) := by
  have hread : parse (String.ofList (ladder 65)) = .ok (ladderTree 65) := parse_ladder (by decide)
  refine ⟨hread, fun hback ↦ ?_⟩
  have hself := collapse_eq_self (everyGroup_of_parse_eq_ok hread)
  have hwritable := isWritable_of_parse_render (t := ladderTree 65) (by rw [hself, hback])
  have hheight := (isWritable_iff_of_parse_eq_ok hread).1 hwritable
  rw [height_ladderTree] at hheight
  exact absurd hheight (by decide)

end Tree

end FilterLang
