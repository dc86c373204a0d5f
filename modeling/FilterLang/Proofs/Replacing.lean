import FilterLang.Proofs.Boundaries

/-!
# Putting a lexeme in the place of a word

How a text is cut depends on little: whether a lexeme ends is decided by the one character behind
it. So if a word of a text gives way to another lexeme, and that lexeme begins with a character of
words or with a quote, all other lexemes stay as they are (`cut_exchange`): the one in front of the
word is no word itself, and what ends in front of a word also ends in front of a quote.

For tokens this says that the text with the replacement has the same tokens, except for the one in
the place of the word and for the shift of those behind it (`tokenize_splice`).
-/

namespace FilterLang

/-! ### Texts with a range replaced -/

/-- A text with another in the place of a range of bytes, if the range lies between characters. -/
def Text.splice? (text : String) (start stop : Nat) (new : String) : Option String := do
  let (before, rest) ← cutAt? start text.toList
  let (_, after) ← cutAt? (stop - start) rest
  return .ofList (before ++ (new.toList ++ after))

theorem Text.splice?_append {text : String} {before old after : List Char} (new : String)
    (h : text.toList = before ++ (old ++ after)) :
    splice? text (byteLength before) (byteLength before + byteLength old) new =
      some (.ofList (before ++ (new.toList ++ after))) := by
  simp [splice?, h, cutAt?_append]

variable {catalog : Catalog} {text : String}

namespace Lexeme

variable {cs rest rest' : List Char} {c d : Char} {l m : Lexeme} {front back : List Lexeme}

/-! ### Lexemes -/

/-- What is cut off in front of a character is also cut off in front of the same character, and what
is cut off in front of a word is also cut off in front of another word or a quote. -/
theorem Cuts.exchange_rest (h : Cuts catalog cs l (c :: rest))
    (hd : d = c ∨ isBareChar c = true ∧ (isBareChar d = true ∨ IsQuote d)) :
    Cuts catalog (l.chars ++ d :: rest') l (d :: rest') := by
  have hne (e : Char) (hbare : isBareChar e = false) (hquote : ¬ IsQuote e) (hc : c ≠ e) :
      d ≠ e := by
    rintro rfl
    rcases hd with rfl | ⟨-, hd | hd⟩
    · exact hc rfl
    · simp [hbare] at hd
    · exact hquote hd
  generalize hr : c :: rest = r at h
  cases h with
  | @word w _ hnil hw hrest =>
    -- No word follows a word, so the character behind it has not changed.
    have hc : isBareChar c = false := hrest c (by rw [← hr]; rfl)
    have hsame : d = c := hd.resolve_right fun h ↦ by simp [hc] at h
    have hcuts : Cuts catalog (w ++ d :: rest') _ (d :: rest') := .word hnil hw (by simpa [hsame])
    simpa [chars] using hcuts
  | @quoted q v _ hq hv =>
    have hcuts : Cuts catalog (q :: (v ++ q :: d :: rest')) _ (d :: rest') := .quoted hq hv
    simpa [chars] using hcuts
  | unclosed => cases hr
  | openParen => exact .openParen
  | closeParen => exact .closeParen
  | @blank b _ hnil hb hrest =>
    have hc : Text.isBlank c = false := hrest c (by rw [← hr]; rfl)
    have hblank : Text.isBlank d = false := by
      rw [Bool.eq_false_iff]
      intro hblank
      rcases hd with rfl | ⟨-, hd | hd⟩
      · simp [hc] at hblank
      · simp [isBareChar_of_isBlank hblank] at hd
      · rcases hd with rfl | rfl <;> revert hblank <;> decide
    have hcuts : Cuts catalog (b ++ d :: rest') _ (d :: rest') := .blank hnil hb (by simpa)
    simpa [chars] using hcuts
  | glyph k => exact .glyph k
  | stray hs =>
    obtain ⟨hq, hbare, ho, hcl, hb, hand, hor⟩ := hs
    -- What is alone would be a connective only if its other half came to stand behind it.
    subst hr
    refine .stray ⟨hq, hbare, ho, hcl, hb, ?_, ?_⟩
    · rintro ⟨rfl, hhead⟩
      exact hne '&' (by decide) (by decide) (fun hc ↦ hand ⟨rfl, by rw [hc]; rfl⟩)
        (Option.some.inj hhead)
    · rintro ⟨rfl, hhead⟩
      exact hne '|' (by decide) (by decide) (fun hc ↦ hor ⟨rfl, by rw [hc]; rfl⟩)
        (Option.some.inj hhead)

/-- A word is followed by what is no character of words. -/
theorem Cuts.rest_of_isWord (h : Cuts catalog cs l rest) (hl : l.isWord = true) :
    ∀ c ∈ rest.head?, isBareChar c = false := by
  cases h with
  | word _ _ hrest => exact hrest
  | _ => simp [isWord] at hl

/-- Whether a lexeme can stand wherever a word can: it is cut off in front of what can follow a
word, and it begins with a character of words or with a quote. -/
structure FitsAsWord (catalog : Catalog) (m : Lexeme) : Prop where
  cuts : ∀ rest : List Char, (∀ c ∈ rest.head?, isBareChar c = false) →
    Cuts catalog (m.chars ++ rest) m rest
  head : ∃ c ∈ m.chars.head?, isBareChar c = true ∨ IsQuote c

theorem fitsAsWord_word {w : String} (hw : IsBareWord w) :
    FitsAsWord catalog (.word w (.ofWord catalog w)) := by
  have hnil : w.toList ≠ [] := by simpa using hw.1
  constructor
  · intro rest hrest
    have hcuts : Cuts catalog (w.toList ++ rest) _ rest := .word hnil hw.2 hrest
    simpa [chars] using hcuts
  · obtain ⟨c, cs, hcs⟩ := List.exists_cons_of_ne_nil hnil
    exact ⟨c, by rw [chars, hcs]; rfl, .inl (hw.2 c (by rw [hcs]; exact List.mem_cons_self))⟩

theorem fitsAsWord_quoted {q : Char} {v : String} (hq : IsQuote q) (hv : q ∉ v.toList) :
    FitsAsWord catalog (.quoted q v) := by
  constructor
  · intro rest _
    have hcuts : Cuts catalog (q :: (v.toList ++ q :: rest)) _ rest := .quoted hq hv
    simpa [chars] using hcuts
  · exact ⟨q, rfl, .inr hq⟩

/-- What is cut off in front of a word is cut off all the same if the word gives way. -/
theorem Cuts.exchange_word {k : Lexeme} (h : Cuts catalog cs k rest)
    (hrest : cut catalog rest = front ++ l :: back) (hl : l.isWord = true)
    (hm : m.FitsAsWord catalog) :
    Cuts catalog (k.chars ++ (front.flatMap chars ++ (m.chars ++ back.flatMap chars))) k
      (front.flatMap chars ++ (m.chars ++ back.flatMap chars)) := by
  have hall := flatMap_chars_cut catalog rest
  rw [hrest, List.flatMap_append, List.flatMap_cons] at hall
  -- The lexeme touches the word if none is between them, and else it keeps its neighbour.
  cases front with
  | nil =>
    have hmem : l ∈ cut catalog rest := by simp [hrest]
    obtain ⟨ls, rest', hc⟩ := exists_cuts_of_mem_cut hmem
    obtain ⟨c, lcs, hlcs⟩ := List.exists_cons_of_ne_nil (chars_ne_nil_of_mem_cut hmem)
    have hbare : isBareChar c = true := hc.isBareChar_of_isWord hl c (by simp [hlcs])
    obtain ⟨d, hd, hhead⟩ := hm.head
    obtain ⟨mcs, hmcs⟩ := List.head?_eq_some_iff.1 hd
    rw [List.flatMap_nil, List.nil_append, hlcs, List.cons_append] at hall
    rw [List.flatMap_nil, List.nil_append, hmcs, List.cons_append]
    exact (hall ▸ h).exchange_rest (.inr ⟨hbare, hhead⟩)
  | cons k' front =>
    have hmem : k' ∈ cut catalog rest := by simp [hrest]
    obtain ⟨c, kcs, hkcs⟩ := List.exists_cons_of_ne_nil (chars_ne_nil_of_mem_cut hmem)
    rw [List.flatMap_cons, hkcs, List.cons_append, List.cons_append] at hall
    rw [List.flatMap_cons, hkcs, List.cons_append, List.cons_append]
    exact (hall ▸ h).exchange_rest (.inl rfl)

/-- If a word gives way to what can stand wherever a word can, all other lexemes stay as they are.
The induction is on the lexemes in front of the word. -/
theorem cut_exchange (h : cut catalog cs = front ++ l :: back) (hl : l.isWord = true)
    (hm : m.FitsAsWord catalog) :
    cut catalog (front.flatMap chars ++ (m.chars ++ back.flatMap chars)) = front ++ m :: back := by
  induction front generalizing cs with
  | nil =>
    cases cs using cuts_induction catalog with
    | nil => simp [cut] at h
    | cons hc =>
      rw [hc.cut_eq] at h
      obtain ⟨rfl, rfl⟩ := List.cons.inj h
      rw [flatMap_chars_cut, List.flatMap_nil, List.nil_append]
      exact (hm.cuts _ (hc.rest_of_isWord hl)).cut_eq
  | cons k front ih =>
    cases cs using cuts_induction catalog with
    | nil => simp [cut] at h
    | cons hc =>
      rw [hc.cut_eq, List.cons_append] at h
      obtain ⟨rfl, hrest⟩ := List.cons.inj h
      rw [List.flatMap_cons, List.append_assoc, (hc.exchange_word hrest hl hm).cut_eq, ih hrest,
        List.cons_append]

end Lexeme

/-! ### Tokens -/

namespace Token

variable {t u x : Token} {front back : List Lexeme} {n start : Nat}

/-- What becomes of the tokens of a text if one of them gives way to another: those in front stay,
and those behind are shifted. -/
def exchange (t u x : Token) : Token :=
  if x.start < t.start then x
  else if x.start = t.start then u
  else ⟨x.lexeme, x.start - t.stop + u.stop⟩

@[simp] theorem exchange_self (t u : Token) : exchange t u t = u := by simp [exchange]

theorem lexeme_exchange (h : x.start ≠ t.start) : (exchange t u x).lexeme = x.lexeme := by
  rw [exchange, if_neg h]
  split <;> rfl

theorem place_append (start : Nat) (ls ms : List Lexeme) : place start (ls ++ ms) =
    place start ls ++ place (start + Text.byteLength (ls.flatMap Lexeme.chars)) ms := by
  induction ls generalizing start with
  | nil => simp [place]
  | cons l ls ih =>
    rw [List.cons_append, place, place, ih, List.flatMap_cons, Text.byteLength_append,
      Nat.add_assoc, List.cons_append]

/-- Lexemes that are placed further on have their tokens further on. -/
theorem place_shift (a b n : Nat) (ls : List Lexeme) :
    (place (a + n) ls).map (fun x ↦ ⟨x.lexeme, x.start - a + b⟩) = place (n + b) ls := by
  induction ls generalizing n with
  | nil => rfl
  | cons l ls ih =>
    rw [place, place, List.map_cons, Nat.add_assoc, ih, Nat.add_sub_cancel_left,
      Nat.add_right_comm n]

/-- The tokens of lexemes of which one has given way. -/
theorem map_exchange_place (h : ∀ l ∈ front ++ t.lexeme :: back, l.chars ≠ [])
    (ht : t.start = Text.byteLength (front.flatMap Lexeme.chars)) (hu : u.start = t.start) :
    (place 0 (front ++ t.lexeme :: back)).map (exchange t u) =
      place 0 (front ++ u.lexeme :: back) := by
  have hpos : t.start < t.stop := by
    have := Text.byteLength_pos (h t.lexeme (by simp))
    rw [stop]
    omega
  have hfront : (place 0 front).map (exchange t u) = place 0 front := by
    conv_rhs => rw [← List.map_id (place 0 front)]
    refine List.map_congr_left fun x hx ↦ ?_
    have := (start_of_mem_place hx fun l hl ↦ h l (by simp [hl])).2
    exact if_pos (by omega)
  have hback : (place t.stop back).map (exchange t u) = place u.stop back := by
    have hshift := place_shift t.stop u.stop 0 back
    rw [Nat.add_zero, Nat.zero_add] at hshift
    rw [← hshift]
    refine List.map_congr_left fun x hx ↦ ?_
    have := (start_of_mem_place hx fun l hl ↦ h l (by simp [hl])).1
    rw [exchange, if_neg (by omega), if_neg (by omega)]
  rw [place_append, place_append, Nat.zero_add, ← ht, place, place, List.map_append, hfront,
    List.map_cons, exchange_self, ← stop, hback, ← hu]
  rfl

end Token

/-- If a word of a text gives way to what can stand wherever a word can, the other tokens stay, and
those behind it are shifted. -/
theorem tokenize_splice {t : Token} {m : Lexeme} (ht : t ∈ tokenize catalog text)
    (hword : t.lexeme.isWord = true) (hm : m.FitsAsWord catalog) :
    ∃ text', Text.splice? text t.start t.stop m.text = some text' ∧
      tokenize catalog text' = (tokenize catalog text).map (Token.exchange t ⟨m, t.start⟩) := by
  obtain ⟨front, back, hcut, hstart⟩ := Token.exists_append_of_mem_place ht
  rw [Nat.zero_add] at hstart
  have hne : ∀ l ∈ front ++ t.lexeme :: back, l.chars ≠ [] := fun l hl ↦
    Lexeme.chars_ne_nil_of_mem_cut (hcut ▸ hl)
  have htext := Lexeme.flatMap_chars_cut catalog text.toList
  rw [hcut, List.flatMap_append, List.flatMap_cons] at htext
  have hsplice := Text.splice?_append m.text htext.symm
  rw [← hstart, ← Token.stop] at hsplice
  refine ⟨_, hsplice, ?_⟩
  rw [tokenize, tokenize, hcut, Token.map_exchange_place (u := ⟨m, t.start⟩) hne hstart rfl,
    String.toList_ofList, Lexeme.toList_text, Lexeme.cut_exchange hcut hword hm]

end FilterLang
