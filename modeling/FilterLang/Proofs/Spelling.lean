import FilterLang.Json.Strict

/-!
# The texts of a value

A JSON value has many texts. White space may stand between any two tokens, and the members of an
object in any order. `Spells n p cs` says that the characters `cs` are a text of the piece `p` in
which brackets stand exactly `n` inside each other. The pieces are values and what their brackets
hold, as one family, so that a proof about texts is one induction.

Strings are spelled as they are written here, with the escapes that are needed and no others.
Numbers are not spelled at all: nothing that stores a tree holds one. Values without numbers are
`IsPlain`, and both ways of writing a value spell those (`spells_compactChars`,
`spells_prettyChars`).
-/

namespace FilterLang.Json

/-! ### Spellings -/

/-- What a text can spell: a value, a member of an object, or what stands in brackets that are not
empty. -/
inductive Piece where
  | value (v : Json)
  | items (vs : List Json)
  | member (m : String × Json)
  | members (ms : List (String × Json))

/-- Whether characters are white space of the standard. -/
def IsSpaces (cs : List Char) : Prop := ∀ c ∈ cs, Strict.isSpace c = true

/-- The texts of a piece in which brackets stand `n` inside each other. White space stands after
brackets, commas and colons, and in front of them. -/
inductive Spells : Nat → Piece → List Char → Prop
  | null : Spells 0 (.value .null) "null".toList
  | bool (b : Bool) : Spells 0 (.value (.bool b)) (toString b).toList
  | str (s : String) : Spells 0 (.value (.str s)) (quoted s)
  | emptyArr {b : List Char} (hb : IsSpaces b) : Spells 1 (.value (.arr [])) ('[' :: (b ++ [']']))
  | arr {n : Nat} {vs : List Json} {b cs : List Char} (hb : IsSpaces b)
      (h : Spells n (.items vs) cs) :
      Spells (n + 1) (.value (.arr vs)) ('[' :: (b ++ (cs ++ [']'])))
  | emptyObj {b : List Char} (hb : IsSpaces b) : Spells 1 (.value (.obj [])) ('{' :: (b ++ ['}']))
  | obj {n : Nat} {ms : List (String × Json)} {b cs : List Char} (hb : IsSpaces b)
      (h : Spells n (.members ms) cs) :
      Spells (n + 1) (.value (.obj ms)) ('{' :: (b ++ (cs ++ ['}'])))
  | lastItem {n : Nat} {v : Json} {cs b : List Char} (h : Spells n (.value v) cs)
      (hb : IsSpaces b) : Spells n (.items [v]) (cs ++ b)
  | item {n m : Nat} {v : Json} {vs : List Json} {cs b b' ds : List Char}
      (h : Spells n (.value v) cs) (hb : IsSpaces b) (hb' : IsSpaces b')
      (h' : Spells m (.items vs) ds) :
      Spells (max n m) (.items (v :: vs)) (cs ++ (b ++ ',' :: (b' ++ ds)))
  | member {n : Nat} {k : String} {v : Json} {b b' cs : List Char} (hb : IsSpaces b)
      (hb' : IsSpaces b') (h : Spells n (.value v) cs) :
      Spells n (.member (k, v)) (quoted k ++ (b ++ ':' :: (b' ++ cs)))
  | lastMember {n : Nat} {m : String × Json} {cs b : List Char} (h : Spells n (.member m) cs)
      (hb : IsSpaces b) : Spells n (.members [m]) (cs ++ b)
  | members {n j : Nat} {m : String × Json} {ms : List (String × Json)} {cs b b' ds : List Char}
      (h : Spells n (.member m) cs) (hb : IsSpaces b) (hb' : IsSpaces b')
      (h' : Spells j (.members ms) ds) :
      Spells (max n j) (.members (m :: ms)) (cs ++ (b ++ ',' :: (b' ++ ds)))

/-- Whether a string is a text of a value, with white space around it and with the members of every
object in any order. -/
def IsText (v : Json) (s : String) : Prop :=
  ∃ n w b cs b', w.sorted = v.sorted ∧ Spells n (.value w) cs ∧ IsSpaces b ∧ IsSpaces b' ∧
    s.toList = b ++ (cs ++ b')

variable {n : Nat} {p : Piece} {v : Json} {b cs : List Char} {s : String}

/-- Brackets take up room. -/
theorem Spells.le_length (h : Spells n p cs) : n ≤ cs.length := by
  induction h with
  | null | bool | str => exact Nat.zero_le _
  | emptyArr | emptyObj => simp
  | arr _ _ ih | obj _ _ ih => simp; omega
  | lastItem _ _ ih | lastMember _ _ ih => simp; omega
  | item _ _ _ _ ih ih' | members _ _ _ _ ih ih' => simp; omega
  | member _ _ _ ih => simp; omega

theorem Spells.isText (h : Spells n (.value v) s.toList) : v.IsText s :=
  ⟨n, v, [], s.toList, [], rfl, h, by simp [IsSpaces], by simp [IsSpaces], by simp⟩

/-! ### Sorted values -/

/-- Only a string is sorted into a string. -/
theorem sorted_eq_str_iff : v.sorted = .str s ↔ v = .str s := by
  cases v <;> simp [sorted, ofMembers]

/-- A character stands for itself or is escaped by more than one. -/
theorem length_escapeChar_pos (c : Char) : 0 < (escapeChar c).length := by
  unfold escapeChar
  grind

theorem length_lt_length_quoted (s : String) : s.length < (quoted s).length := by
  have h (cs : List Char) : cs.length ≤ (cs.flatMap escapeChar).length := by
    induction cs with
    | nil => exact Nat.le_refl _
    | cons c cs ih =>
      have := length_escapeChar_pos c
      rw [List.flatMap_cons, List.length_append, List.length_cons]
      omega
  have := h s.toList
  rw [String.length_toList] at this
  simp only [quoted, List.length_cons, List.length_append]
  omega

/-- The text of a string is longer than the string. -/
theorem IsText.length_lt {t : String} (h : IsText (.str t) s) : t.length < s.length := by
  obtain ⟨n, w, b, cs, b', hw, hs, -, -, htext⟩ := h
  obtain rfl := sorted_eq_str_iff.1 hw
  cases hs
  have := length_lt_length_quoted t
  rw [← s.length_toList, htext, List.length_append, List.length_append]
  omega

/-! ### What the writers write -/

/-- Whether a value holds no numbers. -/
inductive IsPlain : Json → Prop
  | null : IsPlain .null
  | bool (b : Bool) : IsPlain (.bool b)
  | str (s : String) : IsPlain (.str s)
  | arr {vs : List Json} (h : ∀ v ∈ vs, IsPlain v) : IsPlain (.arr vs)
  | obj {ms : List (String × Json)} (h : ∀ m ∈ ms, IsPlain m.2) : IsPlain (.obj ms)

theorem compactItems_eq (vs : List Json) : compactItems vs = vs.map compactChars := by
  induction vs with
  | nil => rfl
  | cons v vs ih => rw [compactItems, ih, List.map_cons]

theorem compactMembers_eq (ms : List (String × Json)) :
    compactMembers ms = ms.map fun m ↦ quoted m.1 ++ ':' :: m.2.compactChars := by
  induction ms with
  | nil => rfl
  | cons m ms ih => rw [compactMembers, ih, List.map_cons]

theorem prettyItems_eq (depth : Nat) (vs : List Json) :
    prettyItems depth vs = vs.map (prettyChars depth) := by
  induction vs with
  | nil => rfl
  | cons v vs ih => rw [prettyItems, ih, List.map_cons]

theorem prettyMembers_eq (depth : Nat) (ms : List (String × Json)) :
    prettyMembers depth ms =
      ms.map fun m ↦ quoted m.1 ++ ':' :: ' ' :: m.2.prettyChars depth := by
  induction ms with
  | nil => rfl
  | cons m ms ih => rw [prettyMembers, ih, List.map_cons]

theorem isSpaces_nil : IsSpaces [] := by simp [IsSpaces]

theorem isSpaces_newline (depth : Nat) : IsSpaces (newline depth) := by
  intro c hc
  rcases List.mem_cons.1 hc with rfl | hc
  · rfl
  · rw [List.eq_of_mem_replicate hc]
    rfl

section Write

variable {α : Type} {one : α → Piece} {all : List α → Piece} {write : α → List Char}
  {tail : List Char}

/-- Spelled entries with commas between them spell a list, if a list is spelled by its last entry
and by an entry, a comma and the others. The entries are items of arrays or members of objects. -/
theorem exists_spells_list {xs : List α} (hne : xs ≠ [])
    (hlast : ∀ n x cs, Spells n (one x) cs → Spells n (all [x]) (cs ++ tail))
    (hmore : ∀ n m x xs cs ds, Spells n (one x) cs → Spells m (all xs) ds →
      Spells (max n m) (all (x :: xs)) (cs ++ ',' :: (b ++ ds)))
    (h : ∀ x ∈ xs, ∃ n, Spells n (one x) (write x)) :
    ∃ n, Spells n (all xs) (List.intercalate (',' :: b) (xs.map write) ++ tail) := by
  induction xs with
  | nil => exact absurd rfl hne
  | cons x xs ih =>
    obtain ⟨hx, hxs⟩ := List.forall_mem_cons.1 h
    obtain ⟨n, hn⟩ := hx
    cases xs with
    | nil => exact ⟨n, by simpa [List.intercalate] using hlast n x _ hn⟩
    | cons y ys =>
      obtain ⟨m, hm⟩ := ih (List.cons_ne_nil _ _) hxs
      exact ⟨max n m, by simpa [List.intercalate] using hmore n m x _ _ _ hn hm⟩

theorem exists_spells_items {write : Json → List Char} {vs : List Json} (hne : vs ≠ [])
    (hb : IsSpaces b) (htail : IsSpaces tail)
    (h : ∀ v ∈ vs, ∃ n, Spells n (.value v) (write v)) :
    ∃ n, Spells n (.items vs) (List.intercalate (',' :: b) (vs.map write) ++ tail) :=
  exists_spells_list hne (fun _ _ _ hv ↦ hv.lastItem htail)
    (fun _ _ _ _ _ _ hv hvs ↦ hv.item isSpaces_nil hb hvs) h

theorem exists_spells_members {write : String × Json → List Char} {ms : List (String × Json)}
    (hne : ms ≠ []) (hb : IsSpaces b) (htail : IsSpaces tail)
    (h : ∀ m ∈ ms, ∃ n, Spells n (.member m) (write m)) :
    ∃ n, Spells n (.members ms) (List.intercalate (',' :: b) (ms.map write) ++ tail) :=
  exists_spells_list hne (fun _ _ _ hm ↦ hm.lastMember htail)
    (fun _ _ _ _ _ _ hm hms ↦ hm.members isSpaces_nil hb hms) h

end Write

/-- What is written without white space is a text. -/
theorem spells_compactChars (h : v.IsPlain) : ∃ n, Spells n (.value v) v.compactChars := by
  induction h with
  | null => exact ⟨0, .null⟩
  | bool b => exact ⟨0, .bool b⟩
  | str s => exact ⟨0, .str s⟩
  | @arr vs _ ih =>
    rw [compactChars, compactItems_eq]
    by_cases hne : vs = []
    · subst hne
      exact ⟨1, .emptyArr isSpaces_nil⟩
    · obtain ⟨n, hn⟩ := exists_spells_items hne isSpaces_nil isSpaces_nil ih
      exact ⟨n + 1, by simpa using hn.arr isSpaces_nil⟩
  | @obj ms _ ih =>
    rw [compactChars, compactMembers_eq]
    by_cases hne : ms = []
    · subst hne
      exact ⟨1, .emptyObj isSpaces_nil⟩
    · obtain ⟨n, hn⟩ := exists_spells_members hne isSpaces_nil isSpaces_nil
        fun m hm ↦ (ih m hm).imp fun n hn ↦ hn.member (k := m.1) isSpaces_nil isSpaces_nil
      exact ⟨n + 1, by simpa using hn.obj isSpaces_nil⟩

/-- What is written over several lines is a text. -/
theorem spells_prettyChars (h : v.IsPlain) (depth : Nat) :
    ∃ n, Spells n (.value v) (v.prettyChars depth) := by
  have hblank : IsSpaces [' '] := by simp [IsSpaces, Strict.isSpace]
  induction h generalizing depth with
  | null => exact ⟨0, .null⟩
  | bool b => exact ⟨0, .bool b⟩
  | str s => exact ⟨0, .str s⟩
  | @arr vs _ ih =>
    rw [prettyChars, prettyItems_eq]
    cases vs with
    | nil => exact ⟨1, .emptyArr isSpaces_nil⟩
    | cons v vs =>
      obtain ⟨n, hn⟩ := exists_spells_items (List.cons_ne_nil _ _) (isSpaces_newline (depth + 1))
        (isSpaces_newline depth) fun w hw ↦ ih w hw (depth + 1)
      exact ⟨n + 1, by simpa [block] using hn.arr (isSpaces_newline (depth + 1))⟩
  | @obj ms _ ih =>
    rw [prettyChars, prettyMembers_eq]
    cases ms with
    | nil => exact ⟨1, .emptyObj isSpaces_nil⟩
    | cons m ms =>
      obtain ⟨n, hn⟩ := exists_spells_members (List.cons_ne_nil _ _)
        (isSpaces_newline (depth + 1)) (isSpaces_newline depth) fun m hm ↦
          (ih m hm (depth + 1)).imp fun n hn ↦ hn.member (k := m.1) isSpaces_nil hblank
      exact ⟨n + 1, by simpa [block] using hn.obj (isSpaces_newline (depth + 1))⟩

theorem isText_compact (h : v.IsPlain) : v.IsText v.compact := by
  obtain ⟨n, hn⟩ := spells_compactChars h
  exact Spells.isText (n := n) (by rwa [compact, String.toList_ofList])

theorem isText_pretty (h : v.IsPlain) : v.IsText v.pretty := by
  obtain ⟨n, hn⟩ := spells_prettyChars h 0
  exact Spells.isText (n := n) (by rwa [pretty, String.toList_ofList])

end FilterLang.Json
