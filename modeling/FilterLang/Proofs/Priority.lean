import FilterLang.Suggestion
import Mathlib.Data.List.Infix
import Mathlib.Data.Rat.Defs
import Mathlib.Algebra.Order.Ring.Rat

/-!
# Which candidate is suggested

The candidates for a mistyped word are looked through once for each way in which they can fit, and
the first way that any of them fits decides. `ways` lists these ways in order of priority, for a
word in lower case, and `Chosen` is the choice they lead to; it is the earliest candidate that fits
in that way, empty candidates left aside. `suggestBy_eq_iff_chosen` says that this is what is
suggested, whatever function says how alike two words are: the only thing that is asked of its
values is which of two is greater.

The last way is decided by one pass that keeps the best candidate so far. What it keeps is the
earliest of those that no other candidate exceeds (`mostSimilar_eq_some`), so it is found as the
others are, as the first candidate with a property.
-/

namespace FilterLang

namespace Text

/-- A text that is not empty is not empty in lower case. -/
theorem lowercase_eq_nil_iff {cs : List Char} : lowercase cs = [] ↔ cs = [] := by
  constructor
  · intro h
    cases cs with
    | nil => rfl
    | cons c cs =>
      have hchar : lowerChar c ≠ [] := by
        unfold lowerChar
        split_ifs <;> simp
      rw [lowercase, lowerAfter, List.append_eq_nil_iff] at h
      split_ifs at h
      · exact absurd h.1 (by simp)
      · exact absurd h.1 (by simp)
      · exact absurd h.1 hchar
  · rintro rfl
    rfl

end Text

namespace Suggestion

variable {likeness : List Char → List Char → Rat} {needle : List Char} {cs : List Candidate}
  {c : Candidate} {r : Rat} {candidates : List String} {p : String → Prop} {s s' : String}
  {word : String} {answer answer' : Option String} {ps : List (String → Prop)}

/-! ### The order of priority -/

/-- A name in lower case. -/
def lowerCase (s : String) : List Char := Text.lowercase s.toList

/-- Whether a candidate is the earliest with a property. Empty candidates do not count. -/
structure IsEarliest (p : String → Prop) (candidates : List String) (s : String) : Prop where
  ne_empty : s ≠ ""
  holds : p s
  before : ∃ front back, candidates = front ++ s :: back ∧ ∀ c ∈ front, c ≠ "" → ¬ p c

/-- Whether an answer is the earliest candidate with the first of some properties that any candidate
has. -/
inductive Chosen (candidates : List String) : List (String → Prop) → Option String → Prop
  | nothing : Chosen candidates [] none
  | earliest {p : String → Prop} {ps : List (String → Prop)} {s : String}
      (h : IsEarliest p candidates s) : Chosen candidates (p :: ps) (some s)
  | later {p : String → Prop} {ps : List (String → Prop)} {answer : Option String}
      (hnone : ∀ c ∈ candidates, c ≠ "" → ¬ p c) (h : Chosen candidates ps answer) :
      Chosen candidates (p :: ps) answer

/-- The ways in which a candidate can fit a word in lower case: it is the word, it starts with it,
it holds it, or no candidate is more like it and it is enough so. A word of fewer than three
characters is not looked for inside candidates. The characters are counted in lower case as well,
where `İ` is two, so the ways are the same for all spellings of a word. -/
def ways (likeness : List Char → List Char → Rat) (candidates : List String) (word : List Char) :
    List (String → Prop) :=
  (fun c ↦ lowerCase c = word) ::
    ((if minPartialLength ≤ word.length then
        [fun c ↦ word <+: lowerCase c, fun c ↦ word <:+: lowerCase c]
      else []) ++
    [fun c ↦ (∀ d ∈ candidates, d ≠ "" →
      likeness word (lowerCase d) ≤ likeness word (lowerCase c)) ∧
        threshold < likeness word (lowerCase c)])

theorem isEarliest_iff_find? [DecidablePred p] :
    IsEarliest p candidates s ↔ candidates.find? (fun c ↦ c ≠ "" ∧ p c) = some s := by
  simp only [List.find?_eq_some_iff_append, decide_eq_true_eq, Bool.not_eq_true',
    decide_eq_false_iff_not, not_and]
  exact ⟨fun ⟨hne, hs, front, back, h, hfront⟩ ↦ ⟨⟨hne, hs⟩, front, back, h, hfront⟩,
    fun ⟨⟨hne, hs⟩, front, back, h, hfront⟩ ↦ ⟨hne, hs, front, back, h, hfront⟩⟩

open Classical in
theorem IsEarliest.unique (h : IsEarliest p candidates s) (h' : IsEarliest p candidates s') :
    s = s' :=
  Option.some.inj ((isEarliest_iff_find?.1 h).symm.trans (isEarliest_iff_find?.1 h'))

theorem IsEarliest.mem (h : IsEarliest p candidates s) : s ∈ candidates := by
  obtain ⟨-, -, front, back, rfl, -⟩ := h
  simp

/-- The properties leave one choice. -/
theorem Chosen.unique (h : Chosen candidates ps answer) (h' : Chosen candidates ps answer') :
    answer = answer' := by
  induction h with
  | nothing => cases h'; rfl
  | earliest h =>
    cases h' with
    | earliest h' => rw [h.unique h']
    | later hnone => exact absurd h.holds (hnone _ h.mem h.ne_empty)
  | later hnone _ ih =>
    cases h' with
    | earliest h' => exact absurd h'.holds (hnone _ h'.mem h'.ne_empty)
    | later _ h' => exact ih h'

/-- What is chosen is a candidate, and no empty one. -/
theorem Chosen.mem (h : Chosen candidates ps (some s)) : s ∈ candidates ∧ s ≠ "" := by
  generalize hs : some s = answer at h
  induction h with
  | nothing => cases hs
  | earliest h => cases hs; exact ⟨h.mem, h.ne_empty⟩
  | later _ _ ih => exact ih hs

/-! ### Candidates in lower case -/

theorem lowerCase_eq_nil_iff : lowerCase s = [] ↔ s = "" := by
  rw [lowerCase, Text.lowercase_eq_nil_iff, String.toList_eq_nil_iff]

/-- A candidate beside its lower-case form. -/
def Candidate.ofString (s : String) : Candidate := ⟨lowerCase s, s⟩

/-- Looking through the candidates in lower case is looking through those that are not empty. -/
theorem Candidate.find?_list (q : Candidate → Bool) : (Candidate.list candidates).find? q =
    (candidates.find? fun s ↦ s ≠ "" ∧ q (ofString s) = true).map ofString := by
  rw [Candidate.list, List.find?_filter, List.find?_map]
  congr 2
  funext s
  have hempty : (!(lowerCase s).isEmpty) = true ↔ s ≠ "" := by
    rw [Bool.not_eq_true', List.isEmpty_eq_false_iff, Ne, lowerCase_eq_nil_iff]
  exact decide_eq_decide.2 (and_congr_left fun _ ↦ hempty)

theorem Candidate.isEarliest_of_find? {q : Candidate → Bool}
    (hq : ∀ s, q (ofString s) = true ↔ p s) (h : (Candidate.list candidates).find? q = some c) :
    IsEarliest p candidates c.spelling := by
  rw [find?_list, Option.map_eq_some_iff] at h
  obtain ⟨s, hs, rfl⟩ := h
  have hearliest := isEarliest_iff_find?.2 hs
  simp only [hq] at hearliest
  exact hearliest

theorem Candidate.forall_not_of_find? {q : Candidate → Bool}
    (hq : ∀ s, q (ofString s) = true ↔ p s) (h : (Candidate.list candidates).find? q = none) :
    ∀ s ∈ candidates, s ≠ "" → ¬ p s := by
  rw [find?_list, Option.map_eq_none_iff, List.find?_eq_none] at h
  intro s hs hne hp
  exact h s hs (decide_eq_true ⟨hne, (hq s).2 hp⟩)

theorem Candidate.mem_list_iff :
    c ∈ Candidate.list candidates ↔ ∃ s ∈ candidates, s ≠ "" ∧ c = ofString s := by
  rw [Candidate.list, List.mem_filter, List.mem_map]
  constructor
  · rintro ⟨⟨s, hs, rfl⟩, hne⟩
    refine ⟨s, hs, fun h ↦ ?_, rfl⟩
    simp [h] at hne
  · rintro ⟨s, hs, hne, rfl⟩
    refine ⟨⟨s, hs, rfl⟩, ?_⟩
    have hlower : lowerCase s ≠ [] := mt lowerCase_eq_nil_iff.1 hne
    simpa [ofString] using hlower

theorem occursIn_iff {text : List Char} : occursIn needle text = true ↔ needle <:+: text := by
  induction text with
  | nil => simp [occursIn]
  | cons c rest ih =>
    rw [occursIn, Bool.or_eq_true, List.isPrefixOf_iff_prefix, ih, List.infix_cons_iff]

/-! ### The most similar candidate -/

theorem mostSimilar_concat (d : Candidate) : mostSimilar likeness needle (cs ++ [d]) =
    match mostSimilar likeness needle cs with
    | none => some (d, likeness needle d.lower)
    | some (c, r) =>
      if r < likeness needle d.lower then some (d, likeness needle d.lower) else some (c, r) := by
  rw [mostSimilar, List.foldl_append, ← mostSimilar]
  simp only [List.foldl_cons, List.foldl_nil]
  cases mostSimilar likeness needle cs <;> rfl

theorem mostSimilar_eq_none_iff : mostSimilar likeness needle cs = none ↔ cs = [] := by
  cases cs using List.reverseRecOn with
  | nil => simp [mostSimilar]
  | append_singleton cs d =>
    rw [mostSimilar_concat]
    refine iff_of_false ?_ (by simp)
    split
    · simp
    · split <;> simp

/-- The pass keeps the earliest of the candidates that no other exceeds. -/
theorem mostSimilar_eq_some (h : mostSimilar likeness needle cs = some (c, r)) :
    r = likeness needle c.lower ∧ ∃ front back, cs = front ++ c :: back ∧
      (∀ d ∈ front, likeness needle d.lower < r) ∧ ∀ d ∈ back, likeness needle d.lower ≤ r := by
  induction cs using List.reverseRecOn generalizing c r with
  | nil => cases h
  | append_singleton cs d ih =>
    rw [mostSimilar_concat] at h
    cases hbest : mostSimilar likeness needle cs with
    | none =>
      rw [hbest] at h
      cases h
      obtain rfl := mostSimilar_eq_none_iff.1 hbest
      exact ⟨rfl, [], [], rfl, by simp, by simp⟩
    | some best =>
      obtain ⟨c', t⟩ := best
      obtain ⟨rfl, front, back, rfl, hfront, hback⟩ := ih hbest
      rw [hbest] at h
      dsimp only at h
      split at h
      · rename_i hlt
        cases h
        refine ⟨rfl, front ++ c' :: back, [], rfl, fun e he ↦ ?_, by simp⟩
        rcases List.mem_append.1 he with he | he
        · exact lt_trans (hfront e he) hlt
        · rcases List.mem_cons.1 he with rfl | he
          · exact hlt
          · exact lt_of_le_of_lt (hback e he) hlt
      · rename_i hle
        cases h
        refine ⟨rfl, front, back ++ [d], by simp, hfront, fun e he ↦ ?_⟩
        rcases List.mem_append.1 he with he | he
        · exact hback e he
        · exact List.mem_singleton.1 he ▸ not_lt.1 hle

/-- It is the first candidate that is at least as much like the word as each of them. -/
theorem find?_of_mostSimilar (h : mostSimilar likeness needle cs = some (c, r)) :
    cs.find? (fun c ↦ cs.all fun d ↦ likeness needle d.lower ≤ likeness needle c.lower) = some c
      ∧ r = likeness needle c.lower := by
  obtain ⟨rfl, front, back, hcs, hfront, hback⟩ := mostSimilar_eq_some h
  refine ⟨List.find?_eq_some_iff_append.2 ⟨?_, front, back, hcs, fun d hd ↦ ?_⟩, rfl⟩
  · rw [List.all_eq_true]
    intro d hd
    rw [hcs] at hd
    rcases List.mem_append.1 hd with hd | hd
    · exact decide_eq_true (le_of_lt (hfront d hd))
    · rcases List.mem_cons.1 hd with rfl | hd
      · exact decide_eq_true le_rfl
      · exact decide_eq_true (hback d hd)
  · have hc : c ∈ cs := by rw [hcs]; simp
    rw [Bool.not_eq_true', List.all_eq_false]
    exact ⟨c, hc, by simpa using hfront d hd⟩

/-! ### The choice -/

/-- The candidate that the pass keeps is offered if it is similar enough. -/
theorem chosen_mostSimilar (word : List Char) :
    Chosen candidates
      [fun c ↦ (∀ d ∈ candidates, d ≠ "" →
        likeness word (lowerCase d) ≤ likeness word (lowerCase c)) ∧
          threshold < likeness word (lowerCase c)]
      (match mostSimilar likeness word (Candidate.list candidates) with
        | some (c, s) => if threshold < s then some c.spelling else none
        | none => none) := by
  have hall (s : String) : (Candidate.list candidates).all (fun d ↦
      likeness word d.lower ≤ likeness word (Candidate.ofString s).lower) = true ↔
      ∀ d ∈ candidates, d ≠ "" → likeness word (lowerCase d) ≤ likeness word (lowerCase s) := by
    rw [List.all_eq_true]
    simp only [Candidate.mem_list_iff, decide_eq_true_eq]
    exact ⟨fun h d hd hne ↦ h _ ⟨d, hd, hne, rfl⟩, fun h _ ⟨d, hd, hne, hc⟩ ↦ hc ▸ h d hd hne⟩
  cases hbest : mostSimilar likeness word (Candidate.list candidates) with
  | none =>
    -- Without a candidate there is none that could be similar.
    have hnil := mostSimilar_eq_none_iff.1 hbest
    refine .later (fun s hs hne _ ↦ ?_) .nothing
    exact List.not_mem_nil (hnil ▸ Candidate.mem_list_iff.2 ⟨s, hs, hne, rfl⟩)
  | some best =>
    obtain ⟨c, r⟩ := best
    obtain ⟨hfind, rfl⟩ := find?_of_mostSimilar hbest
    have hbest := Candidate.isEarliest_of_find? hall hfind
    have hlower : c.lower = lowerCase c.spelling := by
      obtain ⟨s, -, -, rfl⟩ := Candidate.mem_list_iff.1 (List.mem_of_find?_eq_some hfind)
      rfl
    dsimp only
    rw [hlower]
    split
    · rename_i hthreshold
      refine .earliest ⟨hbest.ne_empty, ⟨hbest.holds, hthreshold⟩, ?_⟩
      obtain ⟨front, back, h, hfront⟩ := hbest.before
      exact ⟨front, back, h, fun d hd hne hd' ↦ hfront d hd hne hd'.1⟩
    · rename_i hthreshold
      refine .later (fun s hs hne h ↦ hthreshold ?_) .nothing
      exact lt_of_lt_of_le h.2 (hbest.holds s hs hne)

/-- What is suggested is chosen by the ways in which candidates can fit. -/
theorem chosen_suggestBy (hword : word ≠ "") : Chosen candidates
    (ways likeness candidates (lowerCase word)) (suggestBy likeness word candidates) := by
  have hempty : ¬ (lowerCase word).isEmpty = true := by
    rwa [List.isEmpty_iff, lowerCase_eq_nil_iff]
  have hsame (s : String) :
      ((Candidate.ofString s).lower == lowerCase word) = true ↔ lowerCase s = lowerCase word :=
    beq_iff_eq
  have hstart (s : String) : (lowerCase word).isPrefixOf (Candidate.ofString s).lower = true ↔
      lowerCase word <+: lowerCase s := List.isPrefixOf_iff_prefix
  have hinside (s : String) : occursIn (lowerCase word) (Candidate.ofString s).lower = true ↔
      lowerCase word <:+: lowerCase s := occursIn_iff
  rw [suggestBy, ways]
  dsimp only
  rw [← lowerCase, if_neg hempty]
  cases hexact : (Candidate.list candidates).find? fun c ↦ c.lower == lowerCase word with
  | some c => exact .earliest (Candidate.isEarliest_of_find? hsame hexact)
  | none =>
    refine .later (Candidate.forall_not_of_find? hsame hexact) ?_
    rw [Option.none_or]
    by_cases hlength : (lowerCase word).length < minPartialLength
    · rw [if_pos hlength, if_neg (Nat.not_le.2 hlength)]
      exact chosen_mostSimilar (lowerCase word)
    · rw [if_neg hlength, if_pos (Nat.not_lt.1 hlength)]
      cases hprefix : (Candidate.list candidates).find? fun c ↦
          (lowerCase word).isPrefixOf c.lower with
      | some c => exact .earliest (Candidate.isEarliest_of_find? hstart hprefix)
      | none =>
        refine .later (Candidate.forall_not_of_find? hstart hprefix) ?_
        rw [Option.none_or]
        cases hinfix : (Candidate.list candidates).find? fun c ↦
            occursIn (lowerCase word) c.lower with
        | some c => exact .earliest (Candidate.isEarliest_of_find? hinside hinfix)
        | none =>
          refine .later (Candidate.forall_not_of_find? hinside hinfix) ?_
          exact chosen_mostSimilar (lowerCase word)

/-- Only candidates are suggested, and no empty ones. -/
theorem mem_of_suggestBy (h : suggestBy likeness word candidates = some s) :
    s ∈ candidates ∧ s ≠ "" := by
  have hword : word ≠ "" := by
    rintro rfl
    cases h
  have hchosen : Chosen candidates (ways likeness candidates (lowerCase word))
      (suggestBy likeness word candidates) := chosen_suggestBy hword
  rw [h] at hchosen
  exact hchosen.mem

/-- A candidate that is the word is suggested before all others. -/
theorem suggestBy_of_same {c : String} (hc : c ∈ candidates) (hne : c ≠ "")
    (hlower : lowerCase c = lowerCase word) : ∃ s, suggestBy likeness word candidates = some s ∧
      IsEarliest (fun d ↦ lowerCase d = lowerCase word) candidates s := by
  have hword : word ≠ "" := by
    rintro rfl
    exact hne (lowerCase_eq_nil_iff.1 (hlower.trans (lowerCase_eq_nil_iff.2 rfl)))
  have hchosen : Chosen candidates (ways likeness candidates (lowerCase word))
      (suggestBy likeness word candidates) := chosen_suggestBy hword
  generalize suggestBy likeness word candidates = answer at hchosen
  cases hchosen with
  | earliest h => exact ⟨_, rfl, h⟩
  | later hnone => exact absurd hlower (hnone c hc hne)

/-- The candidate that is suggested is the one which the ways of fitting choose. So it is a
candidate as it was given and not empty, the earliest that is the word if there is any, and depends
on the word in lower case only. -/
theorem suggestBy_eq_iff_chosen (likeness : List Char → List Char → Rat) (word : String)
    (candidates : List String) :
    (∀ answer, suggestBy likeness word candidates = answer ↔
      if word = "" then answer = none
      else Chosen candidates (ways likeness candidates (lowerCase word)) answer) ∧
    (∀ s, suggestBy likeness word candidates = some s → s ∈ candidates ∧ s ≠ "") ∧
    (∀ c ∈ candidates, c ≠ "" → lowerCase c = lowerCase word →
      ∃ s, suggestBy likeness word candidates = some s ∧
        IsEarliest (fun d ↦ lowerCase d = lowerCase word) candidates s) ∧
    ∀ word', lowerCase word' = lowerCase word →
      suggestBy likeness word' candidates = suggestBy likeness word candidates := by
  refine ⟨fun answer ↦ ?_, fun s ↦ mem_of_suggestBy, fun c ↦ suggestBy_of_same, fun word' h ↦ ?_⟩
  · split
    · rename_i hword
      have hnone : suggestBy likeness "" candidates = none := rfl
      rw [hword, hnone, eq_comm]
    · rename_i hword
      exact ⟨fun h ↦ h ▸ chosen_suggestBy hword, fun h ↦ (chosen_suggestBy hword).unique h⟩
  · rw [suggestBy, suggestBy, ← lowerCase, ← lowerCase, h]

/-- A later candidate that is the word is suggested before an earlier one that starts with it, as it
is spelled. -/
theorem suggest_with_of_later_same :
    suggest "With" ["within", "", "WITH", "with"] = some "WITH" := by
  refine ((suggestBy_eq_iff_chosen _ "With" _).1 _).2 ?_
  rw [if_neg (by decide)]
  exact .earliest ⟨by decide, by decide +kernel, ["within", ""], ["with"], rfl, by decide +kernel⟩

end Suggestion

end FilterLang
