import Mathlib.Data.List.TakeWhile
import FilterLang.Json.Relaxed
import FilterLang.Proofs.Spelling

/-!
# What the dialects read

Every text of the standard is a text of the relaxed dialect too, and means the same there. So it is
no matter which of the two dialects a text is read in, but for the depth of its brackets: strict
texts have a limit, and texts that are read in the relaxed dialect have none. A text of a value is
therefore read as that value, with the members of its objects sorted, however deep its brackets are
(`IsText.readLenient_eq`).

A dialect `Covers` the standard if it skips the white space and reads the scalars and the keys of
the standard. That is all the two dialects must prove of themselves. What they share, the reading of
brackets, is followed once for both, by induction on spellings. `Yields` says what becomes of a
reader both ways, for brackets within the limit and for others, because the strict reader must be
known to fail where it gives way to the relaxed one.
-/

namespace FilterLang.Json

/-! ### Outcomes of readers -/

/-- A reader succeeded with `a` and left the text `rest`. -/
def Reads {α : Type} {p : List Char → Prop}
    (r : Except ReadFault (α × { rest : List Char // p rest })) (a : α) (rest : List Char) : Prop :=
  ∃ h, r = .ok (a, ⟨rest, h⟩)

/-- A reader succeeds with `a` and leaves the text `rest` if `within` holds, and fails otherwise. -/
def Yields {α : Type} {p : List Char → Prop} (within : Prop)
    (r : Except ReadFault (α × { rest : List Char // p rest })) (a : α) (rest : List Char) : Prop :=
  (within → Reads r a rest) ∧ (¬ within → ∃ e, r = .error e)

/-- What may stand between tokens was skipped up to the text `rest`. -/
def Skips {p : List Char → Prop} (r : Except ReadFault { rest : List Char // p rest })
    (rest : List Char) : Prop :=
  ∃ h, r = .ok ⟨rest, h⟩

section Outcomes

variable {α β : Type} {p q : List Char → Prop} {P Q : Prop} {a : α} {b : β} {mid rest : List Char}

theorem reads_ok {h : p rest} :
    Reads (.ok (a, (⟨rest, h⟩ : { rest : List Char // p rest }))) a rest :=
  ⟨h, rfl⟩

theorem yields_true_iff {r : Except ReadFault (α × { rest : List Char // p rest })} :
    Yields True r a rest ↔ Reads r a rest := by
  simp [Yields]

theorem Yields.of_iff {r : Except ReadFault (α × { rest : List Char // p rest })}
    (h : Yields P r a rest) (hpq : P ↔ Q) : Yields Q r a rest := by
  rwa [← propext hpq]

/-- A reader and then another fail if the first does, and go on with the second otherwise. -/
theorem Yields.bind {r : Except ReadFault (α × { rest : List Char // p rest })}
    {g : α × { rest : List Char // p rest } → Except ReadFault (β × { rest : List Char // q rest })}
    (h : Yields P r a mid) (h' : ∀ hm, Yields Q (g (a, ⟨mid, hm⟩)) b rest) :
    Yields (P ∧ Q) (r >>= g) b rest := by
  by_cases hp : P
  · obtain ⟨hm, rfl⟩ := h.1 hp
    exact (h' hm).of_iff (by simp [hp])
  · obtain ⟨e, rfl⟩ := h.2 hp
    exact ⟨fun hpq ↦ absurd hpq.1 hp, fun _ ↦ ⟨e, rfl⟩⟩

theorem Reads.bind {r : Except ReadFault (α × { rest : List Char // p rest })}
    {g : α × { rest : List Char // p rest } → Except ReadFault (β × { rest : List Char // q rest })}
    (h : Reads r a mid) (h' : ∀ hm, Yields Q (g (a, ⟨mid, hm⟩)) b rest) :
    Yields Q (r >>= g) b rest :=
  ((yields_true_iff.2 h).bind h').of_iff (by simp)

theorem Skips.bind {r : Except ReadFault { rest : List Char // p rest }}
    {g : { rest : List Char // p rest } → Except ReadFault (β × { rest : List Char // q rest })}
    (h : Skips r mid) (h' : ∀ hm, Yields Q (g ⟨mid, hm⟩) b rest) :
    Yields Q (r >>= g) b rest := by
  obtain ⟨hm, rfl⟩ := h
  exact h' hm

theorem Reads.then {r : Except ReadFault (α × { rest : List Char // p rest })}
    {g : α × { rest : List Char // p rest } → Except ReadFault (β × { rest : List Char // q rest })}
    (h : Reads r a mid) (h' : ∀ hm, Reads (g (a, ⟨mid, hm⟩)) b rest) : Reads (r >>= g) b rest :=
  yields_true_iff.1 (h.bind fun hm ↦ yields_true_iff.2 (h' hm))

/-- What comes after a reader always succeeds. -/
theorem Yields.then {r : Except ReadFault (α × { rest : List Char // p rest })}
    {g : α × { rest : List Char // p rest } → Except ReadFault (β × { rest : List Char // q rest })}
    (h : Yields P r a mid) (h' : ∀ hm, Reads (g (a, ⟨mid, hm⟩)) b rest) :
    Yields P (r >>= g) b rest :=
  (h.bind fun hm ↦ yields_true_iff.2 (h' hm)).of_iff (by simp)

end Outcomes

/-! ### Strings -/

variable {v : Json} {c : Char} {b cs rest : List Char} {s : String}

/-- How a character is written in a string: after a backslash as a letter or as a number, or as it
is. -/
theorem escapeChar_cases (c : Char) :
    (∃ e, escapeChar c = ['\\', e] ∧ escaped? e = some c ∧ Relaxed.escaped? e = some c ∧
      Relaxed.isLineEnd e = false ∧ e ≠ 'u' ∧ e ≠ 'x' ∧ e ≠ '0') ∨
    (c.toNat < 32 ∧
      escapeChar c = ['\\', 'u', '0', '0', hexDigit (c.toNat / 16), hexDigit (c.toNat % 16)]) ∨
    (escapeChar c = [c] ∧ c ≠ '"' ∧ c ≠ '\\' ∧ 32 ≤ c.toNat) := by
  have hofNat {n : Nat} (h : c.toNat = n) : c = Char.ofNat n := by rw [← h, Char.ofNat_toNat]
  unfold escapeChar
  split
  · rename_i h
    exact .inl ⟨'"', rfl, by rw [beq_iff_eq.1 h]; decide⟩
  split
  · rename_i h
    exact .inl ⟨'\\', rfl, by rw [beq_iff_eq.1 h]; decide⟩
  split
  · rename_i h
    exact .inl ⟨'n', rfl, by rw [beq_iff_eq.1 h]; decide⟩
  split
  · rename_i h
    exact .inl ⟨'r', rfl, by rw [beq_iff_eq.1 h]; decide⟩
  split
  · rename_i h
    exact .inl ⟨'t', rfl, by rw [beq_iff_eq.1 h]; decide⟩
  split
  · rename_i h
    exact .inl ⟨'b', rfl, by rw [hofNat (beq_iff_eq.1 h)]; decide⟩
  split
  · rename_i h
    exact .inl ⟨'f', rfl, by rw [hofNat (beq_iff_eq.1 h)]; decide⟩
  split
  · rename_i h
    exact .inr (.inl ⟨h, rfl⟩)
  · rename_i hq hb _ _ _ _ _ h
    exact .inr (.inr ⟨rfl, by simpa using hq, by simpa using hb, by omega⟩)

/-- The digits of a small number are read back. -/
theorem reads_unicodeEscape (h : c.toNat < 32) (cs : List Char) :
    Reads (unicodeEscape ('0' :: '0' :: hexDigit (c.toNat / 16) :: hexDigit (c.toNat % 16) :: cs))
      c cs := by
  have hdigits : ∀ n < 32,
      hexNumber? ['0', '0', hexDigit (n / 16), hexDigit (n % 16)] = some n := by
    decide
  have hunit : Reads
      (hexUnit ('0' :: '0' :: hexDigit (c.toNat / 16) :: hexDigit (c.toNat % 16) :: cs)) c.toNat
      cs := by
    rw [hexUnit, hdigits _ h]
    exact reads_ok
  have htrailing : isTrailing c.toNat = false := by simp [isTrailing]; omega
  have hleading : isLeading c.toNat = false := by simp [isLeading]; omega
  refine hunit.then fun hm ↦ ?_
  simp only [htrailing, hleading, Char.ofNat_toNat, Bool.false_eq_true, if_false, Bool.not_false,
    if_true]
  exact reads_ok

/-- A way of reading the rest of a string reads what was written, if it reads each character as it
is written and stops at the closing quote. -/
theorem reads_escaped (body : List Char → Reader String)
    (hend : ∀ acc rest, Reads (body acc ('"' :: rest)) (String.ofList acc.reverse) rest)
    (hchar : ∀ c acc cs s rest, Reads (body (c :: acc) cs) s rest →
      Reads (body acc (escapeChar c ++ cs)) s rest) (acc cs rest : List Char) :
    Reads (body acc (cs.flatMap escapeChar ++ '"' :: rest)) (String.ofList (acc.reverse ++ cs))
      rest := by
  induction cs generalizing acc with
  | nil =>
    rw [List.append_nil]
    exact hend acc rest
  | cons c cs ih =>
    have ih := ih (c :: acc)
    rw [List.reverse_cons, List.append_assoc, List.singleton_append] at ih
    rw [List.flatMap_cons, List.append_assoc]
    exact hchar c acc _ _ _ ih

theorem Strict.reads_stringBody_escapeChar (c : Char) (acc cs : List Char) (s : String)
    (rest : List Char) (h : Reads (stringBody (c :: acc) cs) s rest) :
    Reads (stringBody acc (escapeChar c ++ cs)) s rest := by
  rcases escapeChar_cases c with ⟨e, hc, he, -, -, hu, -, -⟩ | ⟨hlt, hc⟩ | ⟨hc, hq, hb, hge⟩
  · rw [hc, List.cons_append, List.singleton_append, stringBody, he]
    · exact h.then fun _ ↦ reads_ok
    · exact hu
  · have hunit := reads_unicodeEscape hlt cs
    rw [hc]
    simp only [List.cons_append, List.nil_append]
    rw [stringBody]
    exact hunit.then fun _ ↦ h.then fun _ ↦ reads_ok
  · rw [hc, List.singleton_append, stringBody, if_neg (by omega)]
    · exact h.then fun _ ↦ reads_ok
    all_goals simp_all

/-- A string is read in strict JSON as it was written. -/
theorem Strict.reads_string (s : String) (rest : List Char) :
    Reads (Strict.string (quoted s ++ rest)) s rest := by
  have hbody := reads_escaped stringBody
    (fun acc rest ↦ by rw [stringBody]; exact reads_ok)
    reads_stringBody_escapeChar [] s.toList rest
  rw [List.reverse_nil, List.nil_append, String.ofList_toList] at hbody
  have htext : quoted s ++ rest = '"' :: (s.toList.flatMap escapeChar ++ '"' :: rest) := by
    simp [quoted]
  rw [htext]
  exact hbody.then fun _ ↦ reads_ok

theorem Relaxed.reads_escape {e : Char} (he : Relaxed.escaped? e = some c)
    (hend : isLineEnd e = false) (hu : e ≠ 'u') (hx : e ≠ 'x') (h0 : e ≠ '0') :
    Reads (escape (e :: cs)) [c] cs := by
  have hr : e ≠ '\r' := by
    rintro rfl
    simp [isLineEnd] at hend
  rw [escape, hend, he]
  · exact reads_ok
  all_goals simp_all

theorem Relaxed.reads_stringBody_escapeChar (c : Char) (acc cs : List Char) (s : String)
    (rest : List Char) (h : Reads (stringBody '"' (c :: acc) cs) s rest) :
    Reads (stringBody '"' acc (escapeChar c ++ cs)) s rest := by
  rcases escapeChar_cases c with ⟨e, hc, -, he, hend, hu, hx, h0⟩ | ⟨hlt, hc⟩ | ⟨hc, hq, hb, hge⟩
  · rw [hc, List.cons_append, List.singleton_append, stringBody]
    exact (reads_escape he hend hu hx h0).then fun _ ↦ h.then fun _ ↦ reads_ok
  · have hunit := reads_unicodeEscape hlt cs
    have hescape : Reads (escape ('u' :: '0' :: '0' :: hexDigit (c.toNat / 16) ::
        hexDigit (c.toNat % 16) :: cs)) [c] cs := by
      rw [escape]
      exact hunit.then fun _ ↦ reads_ok
    rw [hc]
    simp only [List.cons_append, List.nil_append]
    rw [stringBody]
    exact hescape.then fun _ ↦ h.then fun _ ↦ reads_ok
  · have hline : (c == '\n' || c == '\r') = false := by
      rw [Bool.or_eq_false_iff, beq_eq_false_iff_ne, beq_eq_false_iff_ne]
      constructor <;> rintro rfl <;> simp at hge
    rw [hc, List.singleton_append, stringBody, if_neg (by simpa using hq), hline, if_neg (by simp)]
    · exact h.then fun _ ↦ reads_ok
    all_goals simp_all

/-- The rest of a string is read in the relaxed dialect as it was written in double quotes. -/
theorem Relaxed.reads_stringBody (s : String) (rest : List Char) :
    Reads (stringBody '"' [] (s.toList.flatMap escapeChar ++ '"' :: rest)) s rest := by
  have hbody := reads_escaped (stringBody '"')
    (fun acc rest ↦ by rw [stringBody, if_pos (by simp)]; exact reads_ok; all_goals simp)
    reads_stringBody_escapeChar [] s.toList rest
  rwa [List.reverse_nil, List.nil_append, String.ofList_toList] at hbody

/-! ### Dialects that cover the standard -/

/-- The characters that a piece can start with. -/
def openings : List Char := ['"', 'n', 't', 'f', '[', '{']

/-- The characters that white space can end at. -/
def marks : List Char := openings ++ [']', '}', ',', ':']

/-- Whether a dialect reads what the standard has between and inside of brackets, numbers apart. -/
structure Dialect.Covers (d : Dialect) : Prop where
  skip {b : List Char} (cs : List Char) (hb : IsSpaces b) (hcs : ∀ c ∈ cs.head?, c ∈ marks) :
    Skips (d.skip (b ++ cs)) cs
  null (rest : List Char) : Reads (d.scalar ("null".toList ++ rest)) .null rest
  bool (b : Bool) (rest : List Char) :
    Reads (d.scalar ((toString b).toList ++ rest)) (.bool b) rest
  str (s : String) (rest : List Char) : Reads (d.scalar (quoted s ++ rest)) (.str s) rest
  key (s : String) (rest : List Char) : Reads (d.key (quoted s ++ rest)) s rest

namespace Strict

theorem isSpace_of_mem_marks (hc : c ∈ marks) : isSpace c = false := by
  have hall : (marks.all fun c ↦ !isSpace c) = true := by decide
  simpa using List.all_eq_true.1 hall c hc

/-- The letters of a word are read whatever follows them. -/
theorem skips_word (letters rest : List Char) : Skips (word letters (letters ++ rest)) rest := by
  induction letters with
  | nil => exact ⟨_, rfl⟩
  | cons l letters ih =>
    obtain ⟨h, he⟩ := ih
    have hstep : word (l :: letters) (l :: (letters ++ rest)) =
        (word letters (letters ++ rest)).bind fun r ↦ .ok ⟨r.1, Nat.le_succ_of_le r.2⟩ :=
      if_pos (beq_self_eq_true l)
    rw [List.cons_append, hstep, he]
    exact ⟨_, rfl⟩

theorem reads_literal (letters : String) (v : Json) (first : Char) (rest : List Char) :
    Reads (literal letters v first (letters.toList ++ rest)) v rest := by
  obtain ⟨h, he⟩ := skips_word letters.toList rest
  rw [literal, he]
  exact reads_ok

theorem covers : dialect.Covers where
  skip {b} cs hb hcs := by
    have hdrop : (b ++ cs).dropWhile isSpace = cs := by
      rw [List.dropWhile_append_of_pos hb]
      cases cs with
      | nil => rfl
      | cons c cs => simp [isSpace_of_mem_marks (hcs c rfl)]
    exact ⟨by simp, by simp only [dialect, hdrop]⟩
  null rest := reads_literal "ull" .null 'n' rest
  bool b rest := by
    cases b with
    | false => exact reads_literal "alse" (.bool false) 'f' rest
    | true => exact reads_literal "rue" (.bool true) 't' rest
  str s rest := (reads_string s rest).then fun _ ↦ reads_ok
  key := reads_string

end Strict

namespace Relaxed

theorem isSpace_of_mem_marks (hc : c ∈ marks) : isSpace c = false := by
  have hall : (marks.all fun c ↦ !isSpace c) = true := by decide
  simpa using List.all_eq_true.1 hall c hc

/-- The white space of the standard is white space. -/
theorem isSpace_of_strict (hc : Strict.isSpace c = true) : isSpace c = true := by
  simp only [Strict.isSpace, Bool.or_eq_true, beq_iff_eq] at hc
  rcases hc with ((rfl | rfl) | rfl) | rfl <;> decide

/-- White space is skipped up to what can follow it. -/
theorem skips (cs : List Char) (hb : IsSpaces b) (hcs : ∀ c ∈ cs.head?, c ∈ marks) :
    Skips (skip (b ++ cs)) cs := by
  have hslash {c : Char} (hc : c = '/') : isSpace c = false ∧ c ∉ marks := by
    rw [hc]
    decide
  induction b with
  | nil =>
    rw [List.nil_append]
    cases cs with
    | nil =>
      rw [skip]
      exact ⟨_, rfl⟩
    | cons c cs =>
      have hc := hcs c rfl
      have hne : c ≠ '/' := fun h ↦ (hslash h).2 hc
      rw [skip, if_neg (by simp [isSpace_of_mem_marks hc])]
      · exact ⟨_, rfl⟩
      all_goals simp_all
  | cons c b ih =>
    obtain ⟨hc, hb⟩ := List.forall_mem_cons.1 hb
    obtain ⟨h, he⟩ := ih hb
    have hspace := isSpace_of_strict hc
    have hne : c ≠ '/' := fun h ↦ by simp [(hslash h).1] at hspace
    rw [List.cons_append, skip, if_pos hspace, he]
    · exact ⟨_, rfl⟩
    all_goals simp_all

/-- A string in double quotes is read as it was written. -/
theorem reads_quoted (s : String) (rest : List Char) :
    Reads (scalar (quoted s ++ rest)) (.str s) rest ∧ Reads (key (quoted s ++ rest)) s rest := by
  have htext : quoted s ++ rest = '"' :: (s.toList.flatMap escapeChar ++ '"' :: rest) := by
    simp [quoted]
  have hbody := reads_stringBody s rest
  rw [htext]
  constructor
  · rw [scalar, if_pos (by decide)]
    · exact hbody.then fun _ ↦ reads_ok
    all_goals simp
  · rw [key, if_pos (by decide)]
    exact hbody.then fun _ ↦ reads_ok

theorem covers : dialect.Covers where
  skip := skips
  null rest := Strict.reads_literal "ull" .null 'n' rest
  bool b rest := by
    cases b with
    | false => exact Strict.reads_literal "alse" (.bool false) 'f' rest
    | true => exact Strict.reads_literal "rue" (.bool true) 't' rest
  str s rest := (reads_quoted s rest).1
  key s rest := (reads_quoted s rest).2

end Relaxed

/-! ### Brackets -/

/-- A piece starts with a character that no white space has and no bracket closes with. -/
theorem Spells.head {n : Nat} {p : Piece} (h : Spells n p cs) :
    ∃ c ds, cs = c :: ds ∧ c ∈ openings := by
  induction h with
  | null => exact ⟨'n', _, rfl, by decide⟩
  | bool b =>
    cases b with
    | false => exact ⟨'f', _, rfl, by decide⟩
    | true => exact ⟨'t', _, rfl, by decide⟩
  | str | member => exact ⟨'"', _, rfl, by decide⟩
  | emptyArr | arr => exact ⟨'[', _, rfl, by decide⟩
  | emptyObj | obj => exact ⟨'{', _, rfl, by decide⟩
  | lastItem _ _ ih | item _ _ _ _ ih _ | lastMember _ _ ih | members _ _ _ _ ih _ =>
    obtain ⟨c, ds, rfl, hc⟩ := ih
    exact ⟨c, _, rfl, hc⟩

theorem mem_marks_of_mem_openings (hc : c ∈ openings) : c ∈ marks := List.mem_append_left _ hc

namespace Dialect

variable {α : Type} {d : Dialect} {P : Prop} {closing : Char} {limit : Nat}

/-- Whether a character closes brackets. -/
def IsClosing (c : Char) : Prop := c = ']' ∨ c = '}'

theorem IsClosing.mem_marks (h : IsClosing c) : c ∈ marks := by
  rcases h with rfl | rfl <;> decide

/-- What starts a piece closes no brackets. -/
theorem IsClosing.beq_eq_false (h : IsClosing closing) (hc : c ∈ openings) :
    (c == closing) = false := by
  have hnot : closing ∉ openings := by rcases h with rfl | rfl <;> decide
  rw [beq_eq_false_iff_ne]
  rintro rfl
  exact hnot hc

theorem reads_afterItem_close (hd : d.Covers) (hclosing : IsClosing closing) (hb : IsSpaces b) :
    Reads (d.afterItem closing (b ++ closing :: rest)) .close rest := by
  have hskip := hd.skip (closing :: rest) hb (by simpa using hclosing.mem_marks)
  refine yields_true_iff.1 (hskip.bind fun _ ↦ yields_true_iff.2 ?_)
  simp only [beq_self_eq_true, if_true]
  exact reads_ok

theorem reads_afterItem_item (hd : d.Covers) (hclosing : IsClosing closing) {b' : List Char}
    (hb : IsSpaces b) (hb' : IsSpaces b') (hc : c ∈ openings) :
    Reads (d.afterItem closing (b ++ ',' :: (b' ++ c :: rest))) .item (c :: rest) := by
  have hskip := hd.skip (',' :: (b' ++ c :: rest)) hb (by simp [marks])
  have hskip' := hd.skip (c :: rest) hb' (by simpa using mem_marks_of_mem_openings hc)
  have hcomma : (',' == closing) = false := by
    rcases hclosing with rfl | rfl <;> decide
  have hne := hclosing.beq_eq_false hc
  refine yields_true_iff.1 (hskip.bind fun _ ↦ ?_)
  simp only [hcomma, beq_self_eq_true, if_true, Bool.false_eq_true, if_false]
  refine hskip'.bind fun _ ↦ yields_true_iff.2 ?_
  simp only [hne, Bool.false_eq_true, if_false]
  exact reads_ok

theorem reads_bracketed_empty (hd : d.Covers) (hclosing : IsClosing closing)
    {items : Reader (List α)} (hb : IsSpaces b) :
    Reads (d.bracketed closing items (b ++ closing :: rest)) [] rest := by
  have hskip := hd.skip (closing :: rest) hb (by simpa using hclosing.mem_marks)
  refine yields_true_iff.1 (hskip.bind fun _ ↦ yields_true_iff.2 ?_)
  simp only [beq_self_eq_true, if_true]
  exact reads_ok

theorem yields_bracketed (hd : d.Covers) (hclosing : IsClosing closing) {items : Reader (List α)}
    {xs : List α} (hb : IsSpaces b) (hc : c ∈ openings)
    (h : Yields P (items (c :: cs)) xs rest) :
    Yields P (d.bracketed closing items (b ++ c :: cs)) xs rest := by
  have hskip := hd.skip (c :: cs) hb (by simpa using mem_marks_of_mem_openings hc)
  have hne := hclosing.beq_eq_false hc
  refine hskip.bind fun _ ↦ ?_
  simp only [hne, Bool.false_eq_true, if_false]
  exact h.then fun _ ↦ reads_ok

/-- A scalar is read whatever the limit is. -/
theorem yields_value_scalar (hd : d.Covers) (hb : IsSpaces b) (hc : c ∈ openings)
    (hne : c ≠ '[' ∧ c ≠ '{') (h : Reads (d.scalar (c :: cs)) v rest) :
    Yields (0 ≤ limit) (d.value limit (b ++ c :: cs)) v rest := by
  have hskip := hd.skip (c :: cs) hb (by simpa using mem_marks_of_mem_openings hc)
  rw [value]
  refine hskip.bind fun _ ↦ (yields_true_iff.2 ?_).of_iff (by simp)
  simp only [beq_iff_eq, hne.1, hne.2, if_false]
  exact h.then fun _ ↦ reads_ok

/-- An array is read if the limit allows for its brackets. -/
theorem yields_value_arr (hd : d.Covers) {n : Nat} {vs : List Json} (hb : IsSpaces b)
    (h : ∀ limit, Yields (n ≤ limit) (d.bracketed ']' (d.items (d.value limit)) cs) vs rest) :
    Yields (n + 1 ≤ limit) (d.value limit (b ++ '[' :: cs)) (.arr vs) rest := by
  have hskip := hd.skip ('[' :: cs) hb (by simp [marks, openings])
  rw [value]
  refine hskip.bind fun _ ↦ ?_
  simp only [beq_self_eq_true, if_true]
  cases limit with
  | zero => exact ⟨fun h ↦ absurd h (Nat.not_succ_le_zero n), fun _ ↦ ⟨_, rfl⟩⟩
  | succ limit =>
    refine Yields.of_iff ?_ Nat.succ_le_succ_iff.symm
    exact (h limit).then fun _ ↦ reads_ok

/-- An object is read if the limit allows for its brackets. -/
theorem yields_value_obj (hd : d.Covers) {n : Nat} {ms : List (String × Json)} (hb : IsSpaces b)
    (h : ∀ limit, Yields (n ≤ limit) (d.bracketed '}' (d.members (d.value limit)) cs) ms rest) :
    Yields (n + 1 ≤ limit) (d.value limit (b ++ '{' :: cs)) (.ofMembers ms) rest := by
  have hskip := hd.skip ('{' :: cs) hb (by simp [marks, openings])
  have hne : ('{' == '[') = false := by decide
  rw [value]
  refine hskip.bind fun _ ↦ ?_
  simp only [hne, beq_self_eq_true, if_true, Bool.false_eq_true, if_false]
  cases limit with
  | zero => exact ⟨fun h ↦ absurd h (Nat.not_succ_le_zero n), fun _ ↦ ⟨_, rfl⟩⟩
  | succ limit =>
    refine Yields.of_iff ?_ Nat.succ_le_succ_iff.symm
    exact (h limit).then fun _ ↦ reads_ok

/-! ### Pieces -/

/-- What becomes of a text of a piece in which brackets stand `n` inside each other: it is read up
to what follows it if the limit is not less than `n`, and refused otherwise. What stands in brackets
is followed by the closing one. -/
def Follows (d : Dialect) (n : Nat) : Piece → List Char → Prop
  | .value v, cs => ∀ limit b rest, IsSpaces b →
      Yields (n ≤ limit) (d.value limit (b ++ (cs ++ rest))) v.sorted rest
  | .items vs, cs => ∀ limit rest,
      Yields (n ≤ limit) (d.items (d.value limit) (cs ++ ']' :: rest)) (sortedItems vs) rest
  | .member m, cs => ∀ limit rest,
      Yields (n ≤ limit) (d.member (d.value limit) (cs ++ rest)) (m.1, m.2.sorted) rest
  | .members ms, cs => ∀ limit rest,
      Yields (n ≤ limit) (d.members (d.value limit) (cs ++ '}' :: rest)) (sortedMembers ms) rest

/-- Every text of a piece is read or refused according to its brackets. -/
theorem follows_of_spells (hd : d.Covers) {n : Nat} {p : Piece} (h : Spells n p cs) :
    d.Follows n p cs := by
  induction h with
  | null =>
    intro limit b rest hb
    exact yields_value_scalar (c := 'n') hd hb (by decide) (by decide) (hd.null rest)
  | bool t =>
    intro limit b rest hb
    have hbool := hd.bool t rest
    cases t with
    | false => exact yields_value_scalar (c := 'f') hd hb (by decide) (by decide) hbool
    | true => exact yields_value_scalar (c := 't') hd hb (by decide) (by decide) hbool
  | str s =>
    intro limit b rest hb
    exact yields_value_scalar (c := '"') hd hb (by decide) (by decide) (hd.str s rest)
  | emptyArr hb =>
    intro limit b rest hb'
    rw [List.cons_append, List.append_assoc]
    exact yields_value_arr (n := 0) hd hb' fun limit ↦
      (yields_true_iff.2 (reads_bracketed_empty hd (.inl rfl) hb)).of_iff (by simp)
  | @arr n vs b' cs hb h ih =>
    intro limit b rest hb'
    obtain ⟨c, ds, rfl, hc⟩ := h.head
    rw [List.cons_append, List.append_assoc, List.append_assoc]
    exact yields_value_arr hd hb' fun limit ↦ yields_bracketed hd (.inl rfl) hb hc (ih limit rest)
  | emptyObj hb =>
    intro limit b rest hb'
    rw [List.cons_append, List.append_assoc]
    exact yields_value_obj (n := 0) hd hb' fun limit ↦
      (yields_true_iff.2 (reads_bracketed_empty hd (.inr rfl) hb)).of_iff (by simp)
  | @obj n ms b' cs hb h ih =>
    intro limit b rest hb'
    obtain ⟨c, ds, rfl, hc⟩ := h.head
    rw [List.cons_append, List.append_assoc, List.append_assoc]
    exact yields_value_obj hd hb' fun limit ↦ yields_bracketed hd (.inr rfl) hb hc (ih limit rest)
  -- The white space in front of an item was skipped with the bracket or the comma before it.
  | @lastItem n v cs b h hb ih =>
    intro limit rest
    have hvalue := ih limit [] (b ++ ']' :: rest) isSpaces_nil
    rw [items, List.append_assoc]
    exact hvalue.then fun _ ↦ (reads_afterItem_close hd (.inl rfl) hb).then fun _ ↦ reads_ok
  | @item n m v vs cs b b' ds h hb hb' h' ih ih' =>
    intro limit rest
    obtain ⟨c, ds, rfl, hc⟩ := h'.head
    have hvalue := ih limit [] (b ++ ',' :: (b' ++ c :: (ds ++ ']' :: rest))) isSpaces_nil
    have htext : cs ++ (b ++ ',' :: (b' ++ c :: ds)) ++ ']' :: rest =
        cs ++ (b ++ ',' :: (b' ++ c :: (ds ++ ']' :: rest))) := by simp
    rw [htext, items]
    refine (hvalue.bind fun _ ↦
      (reads_afterItem_item hd (.inl rfl) hb hb' hc).bind fun _ ↦ ?_).of_iff Nat.max_le.symm
    exact (ih' limit rest).then fun _ ↦ reads_ok
  | @member n k v b b' cs hb hb' h ih =>
    intro limit rest
    have hvalue := ih limit b' rest hb'
    have hskip := hd.skip (':' :: (b' ++ (cs ++ rest))) hb (by simp [marks])
    have htext : quoted k ++ (b ++ ':' :: (b' ++ cs)) ++ rest =
        quoted k ++ (b ++ ':' :: (b' ++ (cs ++ rest))) := by simp
    rw [htext]
    refine (hd.key k _).bind fun _ ↦ hskip.bind fun _ ↦ ?_
    exact hvalue.then fun _ ↦ reads_ok
  | @lastMember n m cs b h hb ih =>
    intro limit rest
    rw [members, List.append_assoc]
    exact (ih limit (b ++ '}' :: rest)).then fun _ ↦
      (reads_afterItem_close hd (.inr rfl) hb).then fun _ ↦ reads_ok
  | @members n j m ms cs b b' ds h hb hb' h' ih ih' =>
    intro limit rest
    obtain ⟨c, ds, rfl, hc⟩ := h'.head
    have htext : cs ++ (b ++ ',' :: (b' ++ c :: ds)) ++ '}' :: rest =
        cs ++ (b ++ ',' :: (b' ++ c :: (ds ++ '}' :: rest))) := by simp
    rw [htext, members]
    refine ((ih limit _).bind fun _ ↦
      (reads_afterItem_item hd (.inr rfl) hb hb' hc).bind fun _ ↦ ?_).of_iff Nat.max_le.symm
    exact (ih' limit rest).then fun _ ↦ reads_ok

/-- A text that spells a value with white space around it is read if the limit is not less than the
number of brackets inside each other, and refused otherwise. -/
theorem document_of_spells (limit : Nat) (hd : d.Covers) {n : Nat} {b' : List Char}
    (h : Spells n (.value v) cs) (hb : IsSpaces b) (hb' : IsSpaces b')
    (hs : s.toList = b ++ (cs ++ b')) :
    (n ≤ limit → d.document limit s = .ok v.sorted) ∧
      (¬ n ≤ limit → ∃ e, d.document limit s = .error e) := by
  obtain ⟨hread, hrefuse⟩ := follows_of_spells hd h limit b b' hb
  rw [← hs] at hread hrefuse
  unfold document
  constructor
  · intro hn
    have hskip : Skips (d.skip b') [] := by
      have := hd.skip [] hb' (by simp)
      rwa [List.append_nil] at this
    obtain ⟨_, he⟩ := hread hn
    obtain ⟨_, he'⟩ := hskip
    rw [he]
    simp only [bind, Except.bind, he']
    rfl
  · intro hn
    obtain ⟨e, he⟩ := hrefuse hn
    exact ⟨e, by rw [he]; rfl⟩

end Dialect

/-! ### Texts -/

/-- A text of a value is read as that value, with the members of its objects sorted. -/
theorem IsText.readLenient_eq (h : v.IsText s) : readLenient s = .ok v.sorted := by
  obtain ⟨n, w, b, cs, b', hw, hspells, hb, hb', hs⟩ := h
  obtain ⟨hstrict, hdeep⟩ :=
    Dialect.document_of_spells Strict.maxDepth Strict.covers hspells hb hb' hs
  have hroom : n ≤ s.length := by
    have := hspells.le_length
    rw [← s.length_toList, hs, List.length_append, List.length_append]
    omega
  have hrelaxed := (Dialect.document_of_spells s.length Relaxed.covers hspells hb hb' hs).1 hroom
  unfold readLenient read readRelaxed
  -- Strict texts that are too deep are read again as relaxed ones.
  by_cases hn : n ≤ Strict.maxDepth
  · rw [hstrict hn, hw]
  · obtain ⟨e, he⟩ := hdeep hn
    rw [he, hrelaxed, hw]

end FilterLang.Json
