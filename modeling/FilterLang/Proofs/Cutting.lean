import FilterLang.Proofs.Word

/-!
# What the lexer cuts

The lexer is described by a relation: `Cuts catalog cs l rest` says that `l` is the lexeme at the
front of `cs` and `rest` is what follows it. A word and a run of blanks are as long as they can be,
a quoted value ends at the first quote of its kind, and a stray character begins nothing else. The
relation and the lexer determine each other (`cuts_cutFirst`, `Cuts.cutFirst_eq`), so no later proof
looks into the lexer.

Four facts about whole texts follow. The lexemes of a text make up the text again; each is cut where
those in front of it end; the catalog changes the roles of words and nothing else; and the lexemes
of a text stay as they are when the text goes on, up to the last one (`significant_append_break`).
-/

namespace FilterLang

namespace Lexeme

variable {catalog : Catalog} {c : Char} {cs rest : List Char} {l : Lexeme}

/-! ### One cut -/

/-- Whether a text that starts with `c` and goes on with `rest` begins with none of the lexemes of
more than one kind of character. -/
def IsStray (c : Char) (rest : List Char) : Prop :=
  ¬ IsQuote c ∧ isBareChar c = false ∧ c ≠ '(' ∧ c ≠ ')' ∧ Text.isBlank c = false ∧
    ¬ (c = '&' ∧ rest.head? = some '&') ∧ ¬ (c = '|' ∧ rest.head? = some '|')

/-- The lexeme at the front of a text, and the text after it. -/
inductive Cuts (catalog : Catalog) : List Char → Lexeme → List Char → Prop
  | word {w rest : List Char} (hne : w ≠ []) (hw : ∀ c ∈ w, isBareChar c = true)
      (hrest : ∀ c ∈ rest.head?, isBareChar c = false) :
      Cuts catalog (w ++ rest) (.word (.ofList w) (.ofWord catalog (.ofList w))) rest
  | quoted {q : Char} {v rest : List Char} (hq : IsQuote q) (hv : q ∉ v) :
      Cuts catalog (q :: (v ++ q :: rest)) (.quoted q (.ofList v)) rest
  | unclosed {q : Char} {v : List Char} (hq : IsQuote q) (hv : q ∉ v) :
      Cuts catalog (q :: v) (.unclosed q (.ofList v)) []
  | openParen {rest : List Char} : Cuts catalog ('(' :: rest) .openParen rest
  | closeParen {rest : List Char} : Cuts catalog (')' :: rest) .closeParen rest
  | blank {b rest : List Char} (hne : b ≠ []) (hb : ∀ c ∈ b, Text.isBlank c = true)
      (hrest : ∀ c ∈ rest.head?, Text.isBlank c = false) :
      Cuts catalog (b ++ rest) (.blank (.ofList b)) rest
  | glyph (k : Connective) {rest : List Char} :
      Cuts catalog (k.glyph.toList ++ rest) (.glyph k) rest
  | stray {c : Char} {rest : List Char} (h : IsStray c rest) :
      Cuts catalog (c :: rest) (.stray c) rest

/-- What is cut off and what is left make up the text. -/
theorem Cuts.chars_append (h : Cuts catalog cs l rest) : l.chars ++ rest = cs := by
  cases h <;> simp [chars]

/-- A longest run has no continuation. -/
theorem head?_dropWhile_eq_false (p : Char → Bool) (cs : List Char) :
    ∀ c ∈ (cs.dropWhile p).head?, p c = false := by
  intro c hc
  have := List.head?_dropWhile_not p cs
  rw [hc] at this
  simpa using this

/-- A run that starts with `c`, as long as it can be. -/
theorem run_append (p : Char → Bool) (c : Char) (rest : List Char) :
    c :: rest = (c :: rest.takeWhile p) ++ rest.dropWhile p := by
  rw [List.cons_append, List.takeWhile_append_dropWhile]

theorem all_run {p : Char → Bool} {c : Char} (hc : p c = true) (rest : List Char) :
    ∀ d ∈ c :: rest.takeWhile p, p d = true := by
  intro d hd
  rcases List.mem_cons.1 hd with rfl | hd
  · exact hc
  · exact List.all_eq_true.1 List.all_takeWhile d hd

/-- The lexer cuts off what the relation says. -/
theorem cuts_cutFirst (catalog : Catalog) (c : Char) (rest : List Char) :
    Cuts catalog (c :: rest) (cutFirst catalog c rest).1 (cutFirst catalog c rest).2 := by
  unfold cutFirst
  split
  · rename_i hq
    have hq : IsQuote c := by simpa [IsQuote] using hq
    have hv : c ∉ rest.takeWhile (· != c) := by
      intro hc
      have := List.all_eq_true.1 (List.all_takeWhile (p := (· != c)) (l := rest)) c hc
      simp at this
    split
    · rename_i hnil
      have hall : rest.takeWhile (· != c) = rest := by
        rw [← List.append_nil (rest.takeWhile _), ← hnil, List.takeWhile_append_dropWhile]
      rw [hall] at hv
      exact .unclosed hq hv
    · rename_i x after hcons
      have hx : x = c := by
        have := head?_dropWhile_eq_false (· != c) rest x (by rw [hcons]; rfl)
        simpa using this
      subst hx
      have hsplit : rest = rest.takeWhile (· != x) ++ x :: after := by
        rw [← hcons, List.takeWhile_append_dropWhile]
      have h : Cuts catalog (x :: (rest.takeWhile (· != x) ++ x :: after)) _ after := .quoted hq hv
      rwa [← hsplit] at h
  · rename_i hq
    have hq : ¬ IsQuote c := by simpa [IsQuote] using hq
    split
    · rename_i hc
      have h : Cuts catalog _ _ (rest.dropWhile isBareChar) :=
        .word (List.cons_ne_nil _ _) (all_run hc rest) (head?_dropWhile_eq_false _ rest)
      rwa [← run_append] at h
    · rename_i hbare
      split
      · rename_i ho
        rw [beq_iff_eq.1 ho]
        exact .openParen
      · rename_i ho
        split
        · rename_i hcl
          rw [beq_iff_eq.1 hcl]
          exact .closeParen
        · rename_i hcl
          split
          · rename_i hb
            have h : Cuts catalog _ _ (rest.dropWhile Text.isBlank) :=
              .blank (List.cons_ne_nil _ _) (all_run hb rest) (head?_dropWhile_eq_false _ rest)
            rwa [← run_append] at h
          · rename_i hb
            split
            · exact .glyph .and
            · exact .glyph .or
            · rename_i hand hor
              refine .stray ⟨hq, by simpa using hbare, by simpa using ho, by simpa using hcl,
                by simpa using hb, ?_, ?_⟩
              · rintro ⟨rfl, hr⟩
                obtain ⟨after, rfl⟩ := List.head?_eq_some_iff.1 hr
                exact hand after rfl rfl
              · rintro ⟨rfl, hr⟩
                obtain ⟨after, rfl⟩ := List.head?_eq_some_iff.1 hr
                exact hor after rfl rfl

/-- A longest run is cut off where it ends. -/
theorem takeWhile_append_eq {p : Char → Bool} {w : List Char} (hw : ∀ c ∈ w, p c = true)
    (hrest : ∀ c ∈ rest.head?, p c = false) : (w ++ rest).takeWhile p = w := by
  rw [List.takeWhile_append_of_pos hw]
  cases rest with
  | nil => simp
  | cons c rest => simp [hrest c rfl]

theorem dropWhile_append_eq {p : Char → Bool} {w : List Char} (hw : ∀ c ∈ w, p c = true)
    (hrest : ∀ c ∈ rest.head?, p c = false) : (w ++ rest).dropWhile p = rest := by
  rw [List.dropWhile_append_of_pos hw]
  cases rest with
  | nil => rfl
  | cons c rest => simp [hrest c rfl]

theorem cutFirst_quoted {d : Char} {after : List Char} (hq : IsQuote c)
    (h : cs.dropWhile (· != c) = d :: after) :
    cutFirst catalog c cs = (quoted c (.ofList (cs.takeWhile (· != c))), after) := by
  unfold cutFirst
  rw [if_pos (by simpa [IsQuote] using hq), h]

theorem cutFirst_unclosed (hq : IsQuote c) (h : cs.dropWhile (· != c) = []) :
    cutFirst catalog c cs = (unclosed c (.ofList cs), []) := by
  unfold cutFirst
  rw [if_pos (by simpa [IsQuote] using hq), h]

theorem cutFirst_bare (hc : isBareChar c = true) :
    cutFirst catalog c cs =
      (word (.ofList (c :: cs.takeWhile isBareChar))
        (.ofWord catalog (.ofList (c :: cs.takeWhile isBareChar))), cs.dropWhile isBareChar) := by
  have hq : ¬ IsQuote c := fun hq ↦ by simp [isBareChar_of_isQuote hq] at hc
  unfold cutFirst
  rw [if_neg (by simpa [IsQuote] using hq), if_pos hc]

theorem cutFirst_blank (hb : Text.isBlank c = true) :
    cutFirst catalog c cs =
      (blank (.ofList (c :: cs.takeWhile Text.isBlank)), cs.dropWhile Text.isBlank) := by
  have hne (d : Char) (hd : Text.isBlank d = false) : (c == d) = false := by
    rw [beq_eq_false_iff_ne]
    rintro rfl
    simp [hd] at hb
  simp [cutFirst, hne '"' (by decide), hne '\'' (by decide), hne '(' (by decide),
    hne ')' (by decide), isBareChar_of_isBlank hb, hb]

/-- A sign for a connective is one character, twice. -/
theorem toList_glyph (k : Connective) :
    k.glyph.toList = match k with
      | .and => ['&', '&']
      | .or => ['|', '|'] := by
  cases k <;> decide

/-- The relation leaves the lexer no choice. -/
theorem Cuts.cutFirst_eq (h : Cuts catalog (c :: cs) l rest) :
    cutFirst catalog c cs = (l, rest) := by
  generalize ht : c :: cs = text at h
  cases h with
  | @word w _ hne hw hrest =>
    obtain ⟨d, w, rfl⟩ := List.exists_cons_of_ne_nil hne
    rw [List.cons_append] at ht
    obtain ⟨rfl, rfl⟩ := List.cons.inj ht
    have hw' : ∀ d ∈ w, isBareChar d = true := fun d hd ↦ hw d (List.mem_cons_of_mem _ hd)
    rw [cutFirst_bare (hw c List.mem_cons_self), takeWhile_append_eq hw' hrest,
      dropWhile_append_eq hw' hrest]
  | @quoted q v _ hq hv =>
    obtain ⟨rfl, rfl⟩ := List.cons.inj ht
    have hall : ∀ d ∈ v, (d != c) = true := fun d hd ↦ by
      simpa using fun he : d = c ↦ hv (he ▸ hd)
    have hstop : ∀ d ∈ (c :: rest).head?, (d != c) = false := by simp
    rw [cutFirst_quoted hq (dropWhile_append_eq hall hstop), takeWhile_append_eq hall hstop]
  | @unclosed q v hq hv =>
    obtain ⟨rfl, rfl⟩ := List.cons.inj ht
    have hall : ∀ d ∈ cs, (d != c) = true := fun d hd ↦ by
      simpa using fun he : d = c ↦ hv (he ▸ hd)
    have hnil : cs.dropWhile (· != c) = [] := by
      have hstop : ∀ d ∈ ([] : List Char).head?, (d != c) = false := by simp
      simpa using dropWhile_append_eq hall hstop
    exact cutFirst_unclosed hq hnil
  | openParen =>
    obtain ⟨rfl, rfl⟩ := List.cons.inj ht
    simp [cutFirst, isBareChar_of_paren]
  | closeParen =>
    obtain ⟨rfl, rfl⟩ := List.cons.inj ht
    simp [cutFirst, isBareChar_of_paren]
  | @blank b _ hne hb hrest =>
    obtain ⟨d, b, rfl⟩ := List.exists_cons_of_ne_nil hne
    rw [List.cons_append] at ht
    obtain ⟨rfl, rfl⟩ := List.cons.inj ht
    have hb' : ∀ d ∈ b, Text.isBlank d = true := fun d hd ↦ hb d (List.mem_cons_of_mem _ hd)
    rw [cutFirst_blank (hb c List.mem_cons_self), takeWhile_append_eq hb' hrest,
      dropWhile_append_eq hb' hrest]
  | glyph k =>
    have hand : isBareChar '&' = false ∧ Text.isBlank '&' = false := by decide
    have hor : isBareChar '|' = false ∧ Text.isBlank '|' = false := by decide
    cases k <;> rw [toList_glyph] at ht <;> obtain ⟨rfl, rfl⟩ := List.cons.inj ht <;>
      simp [cutFirst, hand, hor]
  | stray h =>
    obtain ⟨rfl, rfl⟩ := List.cons.inj ht
    obtain ⟨hq, hbare, ho, hcl, hb, hand, hor⟩ := h
    unfold cutFirst
    rw [if_neg (by simpa [IsQuote] using hq), if_neg (by simp [hbare]),
      if_neg (by simpa using ho), if_neg (by simpa using hcl), if_neg (by simp [hb])]
    split
    · exact absurd ⟨rfl, rfl⟩ hand
    · exact absurd ⟨rfl, rfl⟩ hor
    · rfl

/-! ### Whole texts -/

theorem Cuts.ne_nil (h : Cuts catalog cs l rest) : cs ≠ [] := by
  cases h with
  | word hne => simp [hne]
  | blank hne => simp [hne]
  | glyph k => simp [toList_glyph]; cases k <;> simp
  | _ => simp

/-- Every lexeme takes up a part of the text. -/
theorem Cuts.chars_ne_nil (h : Cuts catalog cs l rest) : l.chars ≠ [] := by
  intro hnil
  have hsame : rest = cs := by simpa [hnil] using h.chars_append
  obtain ⟨c, ds, rfl⟩ := List.exists_cons_of_ne_nil h.ne_nil
  have hlen := length_cutFirst catalog c ds
  rw [h.cutFirst_eq, hsame, List.length_cons] at hlen
  omega

/-- The lexemes of a text are those of its cuts. -/
theorem Cuts.cut_eq (h : Cuts catalog cs l rest) : cut catalog cs = l :: cut catalog rest := by
  obtain ⟨c, cs, rfl⟩ := List.exists_cons_of_ne_nil h.ne_nil
  rw [cut, h.cutFirst_eq]

/-- Texts are made up by cuts: what holds of the empty text, and of a text whenever it holds of what
follows its first lexeme, holds of every text. -/
theorem cuts_induction {motive : List Char → Prop} (catalog : Catalog) (nil : motive [])
    (cons : ∀ {cs l rest}, Cuts catalog cs l rest → motive rest → motive cs) (cs : List Char) :
    motive cs := by
  fun_induction cut catalog cs with
  | case1 => exact nil
  | case2 c rest ih => exact cons (cuts_cutFirst catalog c rest) ih

/-- The lexemes of a text make up the text. -/
theorem flatMap_chars_cut (catalog : Catalog) (cs : List Char) :
    (cut catalog cs).flatMap chars = cs := by
  induction cs using cuts_induction catalog with
  | nil => simp [cut]
  | cons h ih => rw [h.cut_eq, List.flatMap_cons, ih, h.chars_append]

/-- Every lexeme of a text is cut where the lexemes in front of it end. -/
theorem exists_cuts_of_cut_eq {front back : List Lexeme} (h : cut catalog cs = front ++ l :: back) :
    ∃ rest, cs = front.flatMap chars ++ (l.chars ++ rest) ∧
      Cuts catalog (l.chars ++ rest) l rest := by
  induction cs using cuts_induction catalog generalizing front with
  | nil => simp [cut] at h
  | @cons cs m rest hc ih =>
    rw [hc.cut_eq] at h
    cases front with
    | nil =>
      obtain ⟨rfl, -⟩ := List.cons.inj h
      exact ⟨rest, hc.chars_append.symm, hc.chars_append.symm ▸ hc⟩
    | cons m' front =>
      obtain ⟨rfl, htail⟩ := List.cons.inj h
      obtain ⟨rest', rfl, hl⟩ := ih htail
      exact ⟨rest', by rw [List.flatMap_cons, List.append_assoc, hc.chars_append], hl⟩

theorem exists_cuts_of_mem_cut (h : l ∈ cut catalog cs) : ∃ ds rest, Cuts catalog ds l rest := by
  obtain ⟨front, back, hcut⟩ := List.append_of_mem h
  obtain ⟨rest, -, hl⟩ := exists_cuts_of_cut_eq hcut
  exact ⟨_, rest, hl⟩

theorem chars_ne_nil_of_mem_cut (h : l ∈ cut catalog cs) : l.chars ≠ [] := by
  obtain ⟨ds, rest, hc⟩ := exists_cuts_of_mem_cut h
  exact hc.chars_ne_nil

/-- A word of a text is bare, and its role is the one that the catalog gives it. -/
theorem of_word_mem_cut {w : String} {r : Role} (h : .word w r ∈ cut catalog cs) :
    IsBareWord w ∧ r = .ofWord catalog w := by
  obtain ⟨ds, rest, hc⟩ := exists_cuts_of_mem_cut h
  cases hc with
  | word hne hw _ => exact ⟨⟨by simpa using hne, by simpa using hw⟩, rfl⟩

/-- The quote of a value in a text is not part of the value. -/
theorem of_quoted_mem_cut {q : Char} {v : String} (h : .quoted q v ∈ cut catalog cs) :
    IsQuote q ∧ q ∉ v.toList := by
  obtain ⟨ds, rest, hc⟩ := exists_cuts_of_mem_cut h
  cases hc with
  | quoted hq hv => exact ⟨hq, by simpa using hv⟩

/-- Nor does a quote close a value that the text leaves open. -/
theorem of_unclosed_mem_cut {q : Char} {v : String} (h : .unclosed q v ∈ cut catalog cs) :
    IsQuote q ∧ q ∉ v.toList := by
  obtain ⟨ds, rest, hc⟩ := exists_cuts_of_mem_cut h
  cases hc with
  | unclosed hq hv => exact ⟨hq, by simpa using hv⟩

/-- A value has its closing quote or lacks it. -/
theorem kind_eq_value_iff :
    l.kind = .value ↔ (∃ q v, l = quoted q v) ∨ ∃ q v, l = unclosed q v := by
  rcases l with ⟨w, _ | _ | _ | _ | _⟩ | _ | _ | _ | _ | _ | _ | _ <;> simp [kind]

theorem isUnclosed_iff : l.isUnclosed = true ↔ ∃ q v, l = unclosed q v := by
  cases l <;> simp [isUnclosed]

/-! ### The part of the catalog -/

/-- A lexeme with the role that a catalog gives it, if it is a word. -/
def recast (catalog : Catalog) : Lexeme → Lexeme
  | word w _ => word w (.ofWord catalog w)
  | l => l

/-- Every catalog cuts at the same places. -/
theorem Cuts.recast (h : Cuts catalog cs l rest) (other : Catalog) :
    Cuts other cs (l.recast other) rest := by
  cases h with
  | word hne hw hrest => exact .word hne hw hrest
  | quoted hq hv => exact .quoted hq hv
  | unclosed hq hv => exact .unclosed hq hv
  | openParen => exact .openParen
  | closeParen => exact .closeParen
  | blank hne hb hrest => exact .blank hne hb hrest
  | glyph k => exact .glyph k
  | stray h => exact .stray h

/-- The lexemes beside one catalog are those beside another, with other roles. -/
theorem cut_eq_map_recast (catalog other : Catalog) (cs : List Char) :
    cut other cs = (cut catalog cs).map (recast other) := by
  induction cs using cuts_induction catalog with
  | nil => simp [cut]
  | cons h ih => rw [h.cut_eq, (h.recast other).cut_eq, List.map_cons, ih]

@[simp] theorem isBlank_recast (l : Lexeme) : (l.recast catalog).isBlank = l.isBlank := by
  cases l <;> rfl

/-! ### Significant lexemes -/

/-- The lexemes of a text that are not white space. -/
def significant (catalog : Catalog) (cs : List Char) : List Lexeme :=
  (cut catalog cs).filter fun l ↦ !l.isBlank

theorem significant_nil : significant catalog [] = [] := by simp [significant, cut]

theorem Cuts.significant_eq (h : Cuts catalog cs l rest) :
    significant catalog cs =
      if l.isBlank then significant catalog rest else l :: significant catalog rest := by
  rw [significant, h.cut_eq, List.filter_cons]
  cases l.isBlank <;> rfl

theorem significant_eq_map_recast (catalog other : Catalog) (cs : List Char) :
    significant other cs = (significant catalog cs).map (recast other) := by
  rw [significant, significant, cut_eq_map_recast catalog other, List.filter_map]
  congr 2
  funext l
  simp

theorem mem_cut_of_mem_significant (h : l ∈ significant catalog cs) : l ∈ cut catalog cs :=
  (List.mem_filter.1 h).1

/-- A bare word is one lexeme if nothing that could go on with it follows. -/
theorem significant_word {w : String} (hw : IsBareWord w)
    (hrest : ∀ c ∈ rest.head?, isBareChar c = false) :
    significant catalog (w.toList ++ rest) =
      .word w (.ofWord catalog w) :: significant catalog rest := by
  have h : Cuts catalog (w.toList ++ rest) _ rest := .word (by simpa using hw.1) hw.2 hrest
  rw [h.significant_eq]
  simp [isBlank]

/-- A value in quotes is one lexeme whatever follows. -/
theorem significant_quoted {q : Char} {v : List Char} (hq : IsQuote q) (hv : q ∉ v) :
    significant catalog (q :: (v ++ q :: rest)) =
      .quoted q (.ofList v) :: significant catalog rest :=
  (Cuts.quoted hq hv).significant_eq

theorem significant_openParen :
    significant catalog ('(' :: rest) = .openParen :: significant catalog rest :=
  Cuts.openParen.significant_eq

theorem significant_closeParen :
    significant catalog (')' :: rest) = .closeParen :: significant catalog rest :=
  Cuts.closeParen.significant_eq

/-- A blank in front changes nothing, also where more blanks follow it. -/
theorem significant_blank (hc : Text.isBlank c = true) :
    significant catalog (c :: rest) = significant catalog rest := by
  have h : Cuts catalog (c :: rest) (.blank (.ofList (c :: rest.takeWhile Text.isBlank)))
      (rest.dropWhile Text.isBlank) := by
    have := cuts_cutFirst catalog c rest
    rwa [cutFirst_blank hc] at this
  rw [h.significant_eq, if_pos (by rfl)]
  cases rest with
  | nil => simp
  | cons d rest =>
    by_cases hd : Text.isBlank d = true
    · have h' : Cuts catalog (d :: rest) (.blank (.ofList (d :: rest.takeWhile Text.isBlank)))
          (rest.dropWhile Text.isBlank) := by
        have := cuts_cutFirst catalog d rest
        rwa [cutFirst_blank hd] at this
      rw [h'.significant_eq, if_pos (by rfl), List.dropWhile_cons, if_pos hd]
    · rw [List.dropWhile_cons, if_neg hd]

/-- Blanks in front change nothing. -/
theorem significant_blanks {b : List Char} (hb : ∀ c ∈ b, Text.isBlank c = true) :
    significant catalog (b ++ rest) = significant catalog rest := by
  induction b with
  | nil => rfl
  | cons c b ih =>
    obtain ⟨hc, hb⟩ := List.forall_mem_cons.1 hb
    rw [List.cons_append, significant_blank hc, ih hb]

/-! ### Texts that go on -/

/-- Whether words end in front of a character. -/
def IsBreak (c : Char) : Prop := IsQuote c ∨ Text.isBlank c = true

theorem isBareChar_of_isBreak (hc : IsBreak c) : isBareChar c = false :=
  hc.elim isBareChar_of_isQuote isBareChar_of_isBlank

theorem IsBreak.ne_glyph (hc : IsBreak c) : c ≠ '&' ∧ c ≠ '|' := by
  constructor <;> rintro rfl <;> rcases hc with (h | h) | h <;> revert h <;> decide

/-- What is cut off stays the same if the text goes on behind its end with a break, except for what
would go on itself. -/
theorem Cuts.append_break (h : Cuts catalog cs l rest) (hl : l.isUnclosed = false)
    (hblank : l.isBlank = false) (hc : IsBreak c) (more : List Char) :
    Cuts catalog (cs ++ c :: more) l (rest ++ c :: more) := by
  have hhead {p : Char → Prop} (hrest : ∀ d ∈ rest.head?, p d) (hp : p c) :
      ∀ d ∈ (rest ++ c :: more).head?, p d := by
    cases rest with
    | nil => simpa using hp
    | cons d rest => simpa using hrest
  cases h with
  | word hne hw hrest =>
    rw [List.append_assoc]
    exact .word hne hw (hhead hrest (isBareChar_of_isBreak hc))
  | quoted hq hv =>
    rw [List.cons_append, List.append_assoc, List.cons_append]
    exact .quoted hq hv
  | unclosed => simp [isUnclosed] at hl
  | openParen => exact .openParen
  | closeParen => exact .closeParen
  | blank => simp [isBlank] at hblank
  | glyph k =>
    rw [List.append_assoc]
    exact .glyph k
  | stray hs =>
    obtain ⟨hq, hbare, ho, hcl, hb, hand, hor⟩ := hs
    refine .stray ⟨hq, hbare, ho, hcl, hb, ?_, ?_⟩
    all_goals cases rest <;> simp_all [hc.ne_glyph]

/-- A text that goes on with a break has the lexemes of both parts, or the break stands inside of a
value that the first part did not close. -/
theorem significant_append_break (hc : IsBreak c) (cs more : List Char) :
    significant catalog (cs ++ c :: more) =
      significant catalog cs ++ significant catalog (c :: more) ∨
    ∃ front q s, IsQuote q ∧ q ∉ s ∧ significant catalog cs = front ++ [.unclosed q (.ofList s)] ∧
      significant catalog (cs ++ c :: more) =
        front ++ significant catalog (q :: (s ++ c :: more)) := by
  induction cs using cuts_induction catalog with
  | nil => exact .inl (by rw [significant_nil, List.nil_append, List.nil_append])
  | @cons cs l rest h ih =>
    by_cases hblank : l.isBlank = true
    · have hsame : significant catalog cs = significant catalog rest := by
        rw [h.significant_eq, if_pos hblank]
      have hlong : significant catalog (cs ++ c :: more) =
          significant catalog (rest ++ c :: more) := by
        cases h with
        | blank _ hb _ => rw [List.append_assoc, significant_blanks hb]
        | _ => simp [isBlank] at hblank
      rwa [hsame, hlong]
    · have hblank : l.isBlank = false := by simpa using hblank
      have hcons : significant catalog cs = l :: significant catalog rest := by
        rw [h.significant_eq, hblank, if_neg Bool.false_ne_true]
      by_cases hl : l.isUnclosed = true
      · cases h with
        | @unclosed q v hq hv =>
          rw [significant_nil] at hcons
          exact .inr ⟨[], q, v, hq, hv, hcons, rfl⟩
        | _ => simp [isUnclosed] at hl
      · have hlong : significant catalog (cs ++ c :: more) =
            l :: significant catalog (rest ++ c :: more) := by
          rw [(h.append_break (by simpa using hl) hblank hc more).significant_eq, hblank,
            if_neg Bool.false_ne_true]
        rw [hcons, hlong]
        rcases ih with ih | ⟨front, q, s, hq, hs, hrest, hlast⟩
        · exact .inl (by rw [ih, List.cons_append])
        · exact .inr ⟨l :: front, q, s, hq, hs, by rw [hrest, List.cons_append],
            by rw [hlast, List.cons_append]⟩

end Lexeme

/-! ### Tokens -/

namespace Token

theorem map_lexeme_place (start : Nat) (ls : List Lexeme) :
    (place start ls).map Token.lexeme = ls := by
  induction ls generalizing start with
  | nil => rfl
  | cons l ls ih => rw [place, List.map_cons, ih]

/-- The significant tokens of a text hold its significant lexemes. -/
theorem map_lexeme_significant (catalog : Catalog) (text : String) :
    (significant (tokenize catalog text)).map Token.lexeme =
      Lexeme.significant catalog text.toList := by
  have h := List.filter_map (f := Token.lexeme) (p := fun l ↦ !l.isBlank)
    (l := tokenize catalog text)
  rw [tokenize, map_lexeme_place] at h
  exact h.symm

end Token

theorem text_of_lexeme {t : Token} {w : String} {r : Role} (h : t.lexeme = .word w r) :
    t.text = w := by
  rw [Token.text, h, Lexeme.text, Lexeme.chars, String.ofList_toList]

theorem lexeme_mem_cut {catalog : Catalog} {text : String} {t : Token}
    (ht : t ∈ tokenize catalog text) : t.lexeme ∈ Lexeme.cut catalog text.toList := by
  have hmem := List.mem_map_of_mem (f := Token.lexeme) ht
  rwa [tokenize, Token.map_lexeme_place] at hmem

end FilterLang
