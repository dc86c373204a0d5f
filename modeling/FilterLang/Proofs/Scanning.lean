import FilterLang.Proofs.Boundaries
import Mathlib.Logic.Function.Iterate

/-!
# Where the shapes of a text are

The conditions of a text are picked out before it is known whether the text is an expression, so
they must make sense whatever its tokens are. `Shape.Located` lists what can be relied on: the
tokens of the shapes stand in the text one after another, none of them is a parenthesis or a
connective, and a token is the field of a shape exactly if a condition starts there, which
`StartsCondition` says by what stands in front of it. All of it rests on the pass that picks out
conditions without looking ahead (`Check.Phase`).

The scan itself does not always go forward. Where a condition may start and neither a word nor a
modifier stands, it only gives up the condition and looks at the same token again. So it is followed
turn by turn as well: each turn keeps what is still to be found (`Scan.found_turn`) and brings the
end nearer, as giving up cannot happen twice in a row (`Scan.turnsLeft_turn_lt`).
-/

namespace FilterLang

namespace Lexeme

variable {l : Lexeme}

theorem kind_eq_logic_iff : l.kind = .logic ↔ l.connective?.isSome = true := by
  rcases l with ⟨w, _ | _ | _ | _ | _⟩ | _ | _ | _ | _ | _ | _ | _ <;> simp [kind, connective?]

theorem kind_eq_modifier_iff : l.kind = .modifier ↔ l.modifier?.isSome = true := by
  rcases l with ⟨w, _ | _ | _ | _ | _⟩ | _ | _ | _ | _ | _ | _ | _ <;> simp [kind, modifier?]

theorem kind_eq_parenthesis_iff : l.kind = .parenthesis ↔ l = .openParen ∨ l = .closeParen := by
  rcases l with ⟨w, _ | _ | _ | _ | _⟩ | _ | _ | _ | _ | _ | _ | _ <;> simp [kind]

end Lexeme

namespace Token

variable {t : Token}

theorem opensCondition_iff :
    t.opensCondition = true ↔ t.lexeme = .openParen ∨ t.lexeme.kind = .logic := by
  simp [opensCondition, Lexeme.kind_eq_logic_iff]

theorem isPlainWord_iff :
    t.isPlainWord = true ↔ t.lexeme.isWord = true ∧ t.lexeme.kind ≠ .logic := by
  simp [isPlainWord, Lexeme.kind_eq_logic_iff]

theorem isBoundary_eq_false_iff :
    t.isBoundary = false ↔ t.lexeme.kind ≠ .parenthesis ∧ t.lexeme.kind ≠ .logic := by
  simp [isBoundary, Lexeme.kind_eq_logic_iff, Lexeme.kind_eq_parenthesis_iff]
  tauto

end Token

namespace Check

open Shape Phase

variable {t u : Token} {ts front back : List Token} {s : Shape}

/-! ### Where a condition starts -/

/-- Whether a condition starts at a token behind others: it is a word, neither a connective nor a
modifier, and the nearest token in front of it that is no modifier, if there is one, is an opening
parenthesis or a connective. -/
structure StartsCondition (front : List Token) (t : Token) : Prop where
  word : t.lexeme.isWord = true
  not_logic : t.lexeme.kind ≠ .logic
  not_modifier : t.lexeme.kind ≠ .modifier
  behind : ∀ u, front.reverse.find? (·.lexeme.kind ≠ .modifier) = some u →
    u.lexeme = .openParen ∨ u.lexeme.kind = .logic

theorem Phase.next_eq_start_iff {p : Phase} : p.next t = start ↔
    t.opensCondition = true ∨ p = start ∧ t.lexeme.modifier?.isSome = true := by
  constructor
  · intro h
    by_cases hopens : t.opensCondition = true
    · exact .inl hopens
    · unfold next at h
      rw [if_neg hopens] at h
      cases p with
      | idle | asked => cases h
      | start =>
        dsimp only at h
        split at h
        · rename_i hmodifier
          exact .inr ⟨rfl, hmodifier⟩
        · split at h <;> cases h
      | named field =>
        dsimp only at h
        split at h
        · cases h
        · split at h <;> cases h
  · rintro (h | ⟨rfl, h⟩)
    · exact next_of_opensCondition h
    · exact next_modifier (.inl rfl) h

/-- A condition may start behind the tokens of which the last that is no modifier opens one. -/
theorem Phase.run_eq_start_iff : start.run front = start ↔
    ∀ u, front.reverse.find? (·.lexeme.kind ≠ .modifier) = some u → u.opensCondition = true := by
  induction front using List.reverseRecOn with
  | nil => simp
  | append_singleton front t ih =>
    rw [run_concat, next_eq_start_iff, List.reverse_append, List.reverse_singleton,
      List.singleton_append, List.find?_cons, ih]
    by_cases hmodifier : t.lexeme.modifier?.isSome = true
    · have hkind : t.lexeme.kind = .modifier := Lexeme.kind_eq_modifier_iff.2 hmodifier
      simp [hkind, hmodifier, opensCondition_of_modifier? hmodifier]
    · have hkind : t.lexeme.kind ≠ .modifier := mt Lexeme.kind_eq_modifier_iff.1 hmodifier
      simp [hkind, hmodifier]

theorem startsCondition_iff : StartsCondition front t ↔
    start.run front = start ∧ t.isPlainWord = true ∧ t.lexeme.modifier? = none := by
  have hmodifier : t.lexeme.kind ≠ .modifier ↔ t.lexeme.modifier? = none := by
    rw [Ne, Lexeme.kind_eq_modifier_iff, Bool.not_eq_true, Option.isSome_eq_false_iff,
      Option.isNone_iff_eq_none]
  rw [run_eq_start_iff, Token.isPlainWord_iff, ← hmodifier]
  simp only [Token.opensCondition_iff]
  exact ⟨fun ⟨hword, hlogic, hm, hbehind⟩ ↦ ⟨hbehind, ⟨hword, hlogic⟩, hm⟩,
    fun ⟨hbehind, ⟨hword, hlogic⟩, hm⟩ ↦ ⟨hword, hlogic, hm, hbehind⟩⟩

/-- The shapes that a pass has completed come before those that it goes on to find. -/
theorem Phase.exists_walk_append (p : Phase) (front back : List Token) :
    ∃ shapes, p.walk (front ++ back) = shapes ++ (p.run front).walk back := by
  induction front generalizing p with
  | nil => exact ⟨[], rfl⟩
  | cons t front ih =>
    obtain ⟨shapes, hshapes⟩ := ih (p.next t)
    refine ⟨p.emit t ++ shapes, ?_⟩
    rw [List.cons_append, walk, hshapes, run_cons, List.append_assoc]

/-- Where a condition starts, there is a shape with this field. -/
theorem exists_shape_of_startsCondition (h : StartsCondition front t) :
    ∃ s ∈ ofTokens (front ++ t :: back), s.field = t := by
  obtain ⟨hrun, hplain, hmodifier⟩ := startsCondition_iff.1 h
  obtain ⟨shapes, hshapes⟩ := exists_walk_append start front (t :: back)
  have hnext : start.next t = named t := next_start_plain (by simp [hmodifier]) hplain
  refine ⟨(ofField t back).1, ?_, field_ofField t back⟩
  rw [ofTokens_eq_walk, hshapes, hrun, walk, hnext, walk_named]
  simp

/-! ### The tokens of shapes -/

/-- The tokens of a shape, from left to right. -/
def Shape.tokens (s : Shape) : List Token := s.field :: (s.operator.toList ++ s.value.toList)

/-- The tokens of a shape, and those behind it, are picked out from left to right. -/
theorem sublist_ofField (field : Token) (ts : List Token) :
    ((ofField field ts).1.tokens ++ (ofField field ts).2).Sublist (field :: ts) := by
  have hsuffix : (afterModifiers ts).Sublist ts := (List.dropWhile_suffix _).sublist
  refine .trans ?_ (hsuffix.cons_cons field)
  rw [ofField]
  cases afterModifiers ts with
  | nil => exact .refl _
  | cons operator rest =>
    dsimp only
    split
    · cases rest with
      | nil => exact .refl _
      | cons value rest =>
        dsimp only
        split <;> exact .refl _
    · exact .refl _

/-- The tokens of all shapes are picked out from left to right. -/
theorem sublist_scan (atStart : Bool) (ts : List Token) :
    ((scan atStart ts).flatMap Shape.tokens).Sublist ts := by
  fun_induction scan atStart ts with
  | case1 => exact .refl _
  | case2 atStart t rest hopens ih => exact ih.cons t
  | case3 => exact List.nil_sublist _
  | case4 t rest hopens field rest' hcons hplain ih =>
    have hsuffix : (field :: rest').Sublist (t :: rest) :=
      hcons ▸ (List.dropWhile_suffix _).sublist
    rw [List.flatMap_cons]
    exact ((ih.append_left _).trans (sublist_ofField field rest')).trans hsuffix
  | case5 t rest hopens field rest' hcons hplain ih =>
    have hsuffix : (field :: rest').Sublist (t :: rest) :=
      hcons ▸ (List.dropWhile_suffix _).sublist
    exact ih.trans hsuffix
  | case6 atStart t rest hopens hstart ih => exact ih.cons t

/-- No token of a shape is one that ends a condition. -/
theorem isBoundary_of_mem_tokens (hs : s ∈ ofTokens ts) (ht : t ∈ s.tokens) :
    t.isBoundary = false := by
  have hplain {t : Token} (h : t.isPlainWord = true) : t.isBoundary = false := by
    obtain ⟨hword, hlogic⟩ := Token.isPlainWord_iff.1 h
    refine Token.isBoundary_eq_false_iff.2 ⟨fun hkind ↦ ?_, hlogic⟩
    rcases Lexeme.kind_eq_parenthesis_iff.1 hkind with hl | hl <;> simp [hl, Lexeme.isWord] at hword
  rw [Shape.tokens, List.mem_cons, List.mem_append, Option.mem_toList, Option.mem_toList] at ht
  rcases ht with rfl | ht | ht
  · obtain ⟨front, back, -, -, h, -⟩ := exists_field hs
    exact hplain h
  · obtain ⟨front, back, -, -, h, -⟩ := exists_operator hs ht
    exact hplain h
  · obtain ⟨front, back, operator, -, -, -, h⟩ := exists_value hs ht
    exact h

/-! ### The scan, turn by turn -/

/-- Where the scan for shapes stands: the shapes found so far, whether a condition may start at the
next token, and the tokens from there on. -/
structure Scan where
  found : List Shape
  atStart : Bool
  rest : List Token
  deriving Repr, DecidableEq

namespace Scan

/-- The scan before its first turn. -/
def start (ts : List Token) : Scan := ⟨[], true, ts⟩

/-- One turn of the scan. It has ended where no token is left, and nothing changes any more. -/
def turn : Scan → Scan
  | ⟨found, atStart, []⟩ => ⟨found, atStart, []⟩
  | ⟨found, atStart, t :: rest⟩ =>
    if t.opensCondition then ⟨found, true, rest⟩
    else if atStart then
      match afterModifiers (t :: rest) with
      | [] => ⟨found, false, []⟩
      | field :: behind =>
        if field.isPlainWord then
          ⟨found ++ [(ofField field behind).1], false, (ofField field behind).2⟩
        -- The token may open a condition itself, so it is not passed over.
        else ⟨found, false, field :: behind⟩
    else ⟨found, false, rest⟩

/-- A bound for the turns until the end. -/
def turnsLeft (s : Scan) : Nat := 2 * s.rest.length + if s.atStart then 1 else 0

variable {s : Scan}

/-- A turn keeps what has been found and what is still to be found. -/
theorem found_turn (s : Scan) :
    s.turn.found ++ scan s.turn.atStart s.turn.rest = s.found ++ scan s.atStart s.rest := by
  obtain ⟨found, atStart, rest⟩ := s
  cases rest with
  | nil => rfl
  | cons t rest =>
    rw [turn, scan]
    by_cases hopens : t.opensCondition = true
    · simp only [hopens, if_true]
    · simp only [hopens]
      cases atStart with
      | false => simp
      | true =>
        simp only [if_true]
        cases hcons : afterModifiers (t :: rest) with
        | nil => simp [scan]
        | cons field behind =>
          by_cases hplain : field.isPlainWord = true <;> simp [hplain]

/-- A turn brings the end nearer. -/
theorem turnsLeft_turn_lt (h : s.rest ≠ []) : s.turn.turnsLeft < s.turnsLeft := by
  obtain ⟨found, atStart, rest⟩ := s
  cases rest with
  | nil => exact absurd rfl h
  | cons t rest =>
    rw [turn]
    by_cases hopens : t.opensCondition = true
    · simp only [hopens, if_true, turnsLeft, List.length_cons]
      split <;> omega
    · simp only [hopens]
      cases atStart with
      | false => simp [turnsLeft]
      | true =>
        have hlength := length_afterModifiers (t :: rest)
        simp only [if_true]
        cases hcons : afterModifiers (t :: rest) with
        | nil => simp [turnsLeft]
        | cons field behind =>
          rw [hcons] at hlength
          have hfield := length_ofField field behind
          rw [List.length_cons, List.length_cons] at hlength
          by_cases hplain : field.isPlainWord = true
          · simp only [hplain, if_true, turnsLeft, List.length_cons, Bool.false_eq_true, if_false]
            omega
          · simp only [hplain, if_true, turnsLeft, List.length_cons, Bool.false_eq_true, if_false]
            omega

/-- The scan ends in time, and then it has found what was to be found. -/
theorem exists_turns (s : Scan) : ∃ n ≤ s.turnsLeft, (turn^[n] s).rest = [] ∧
    (turn^[n] s).found = s.found ++ scan s.atStart s.rest := by
  induction hm : s.turnsLeft using Nat.strong_induction_on generalizing s with
  | _ m ih =>
    by_cases hrest : s.rest = []
    · exact ⟨0, Nat.zero_le _, hrest, by simp [hrest, scan]⟩
    · have hlt := turnsLeft_turn_lt hrest
      obtain ⟨n, hn, hend, hfound⟩ := ih _ (hm ▸ hlt) s.turn rfl
      refine ⟨n + 1, by omega, ?_, ?_⟩
      · rw [Function.iterate_succ_apply]
        exact hend
      · rw [Function.iterate_succ_apply, hfound, found_turn]

end Scan

/-! ### The shapes of a text -/

namespace Shape

/-- What can be relied on about the shapes that are found among tokens. -/
structure Located (ts : List Token) (shapes : List Shape) : Prop where
  /-- The tokens of the shapes, shape by shape, stand among the tokens in this order. -/
  sublist : (shapes.flatMap Shape.tokens).Sublist ts
  increasing : (shapes.flatMap Shape.tokens).Pairwise fun t u ↦ t.start < u.start
  distinct : (shapes.flatMap Shape.tokens).Nodup
  /-- A value is picked out behind an operator only. -/
  operator : ∀ s ∈ shapes, s.value.isSome = true → s.operator.isSome = true
  inner : ∀ t ∈ shapes.flatMap Shape.tokens,
    t.lexeme.kind ≠ .parenthesis ∧ t.lexeme.kind ≠ .logic
  field : ∀ front t back, ts = front ++ t :: back →
    ((∃ s ∈ shapes, s.field = t) ↔ StartsCondition front t)

/-- A token is the field of a shape exactly if a condition starts there. -/
theorem exists_field_eq_iff (hts : ts.Pairwise fun t u ↦ t.start < u.start)
    (h : ts = front ++ t :: back) :
    (∃ s ∈ ofTokens ts, s.field = t) ↔ StartsCondition front t := by
  constructor
  · rintro ⟨s, hs, rfl⟩
    obtain ⟨front', back', h', hstart⟩ := exists_field hs
    obtain ⟨rfl, -⟩ := Token.split_unique hts h h' rfl
    exact startsCondition_iff.2 hstart
  · intro hstarts
    exact h ▸ exists_shape_of_startsCondition hstarts

/-- The scan of any text ends, within twice as many turns as there are tokens and one more, and the
shapes that it has found by then are located. -/
theorem located_ofTokens (catalog : Catalog) (text : String) :
    let ts := Token.significant (tokenize catalog text)
    Located ts (ofTokens ts) ∧ ∃ n ≤ 2 * ts.length + 1,
      (Scan.turn^[n] (.start ts)).rest = [] ∧ (Scan.turn^[n] (.start ts)).found = ofTokens ts := by
  intro ts
  have hts : ts.Pairwise fun t u ↦ t.start < u.start := Token.pairwise_significant catalog text
  have hsublist : ((ofTokens ts).flatMap Shape.tokens).Sublist ts := sublist_scan true ts
  refine ⟨?_, Scan.exists_turns (.start ts)⟩
  constructor
  case sublist => exact hsublist
  case increasing => exact hts.sublist hsublist
  case distinct =>
    refine (hts.sublist hsublist).imp fun hlt h ↦ ?_
    rw [h] at hlt
    exact Nat.lt_irrefl _ hlt
  case operator =>
    intro s hs hvalue
    obtain ⟨v, hv⟩ := Option.isSome_iff_exists.1 hvalue
    obtain ⟨-, -, operator, -, hoperator, -⟩ := exists_value hs hv
    rw [hoperator]
    rfl
  case inner =>
    intro t ht
    obtain ⟨s, hs, hmem⟩ := List.mem_flatMap.1 ht
    exact Token.isBoundary_eq_false_iff.1 (isBoundary_of_mem_tokens hs hmem)
  case field => exact fun front t back h ↦ exists_field_eq_iff hts h

/-- A condition does not start behind a closing parenthesis, and a modifier may be picked out for a
value. -/
example : (ofTokens (Token.significant (tokenize ∅ "not ) a OR b is not c && (d"))).map tokens =
    [[⟨.word "b" .unknown, 11⟩, ⟨.word "is" .unknown, 13⟩, ⟨.word "not" (.modifier .not), 16⟩],
      [⟨.word "d" .unknown, 26⟩]] := by
  decide +kernel

end Shape

end Check

end FilterLang
