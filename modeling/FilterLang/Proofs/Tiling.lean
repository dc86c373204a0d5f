import FilterLang.Proofs.Cutting
import Mathlib.Data.List.Chain

/-!
# Tokens tile the text

Nothing of a text is dropped when it is cut into tokens, nothing is cut twice, and no cut goes
through a character. Words and runs of blanks are as long as they can be, so no two of either are
neighbours, and every word that stands outside of values is one token. A value without its closing
quote takes up everything that is left, so it can only be the last token. `Token.IsTiling` puts this
together with the rules of the lexer, each applied for as long as it can be. The tokens of a text
have all this (`isTiling_tokenize`), and no others do: a row of cuts leaves the lexer no choice
(`Token.eq_place_of_tiles`).

The neighbours are a fact about lexemes, by induction over the cuts (`Lexeme.isChain_cut`). For
words the induction runs along the text in front of the word (`Token.word_or_value_mem_place`):
a lexeme that is cut there either ends before the word begins, or it is a value that goes on past
the end of the word.
-/

namespace FilterLang

namespace Text

/-- A part of a text is what stands between the bytes at which it begins and ends. -/
theorem slice?_append (before middle after : List Char) :
    slice? (before ++ (middle ++ after)) (byteLength before)
      (byteLength before + byteLength middle) = some middle := by
  simp [slice?, cutAt?_append]

/-- A text is cut at a byte in one way only. -/
theorem append_inj_of_byteLength {before after before' after' : List Char}
    (h : before ++ after = before' ++ after') (hlength : byteLength before = byteLength before') :
    before = before' ∧ after = after' := by
  have hcut := cutAt?_append before after
  rw [h, hlength, cutAt?_append] at hcut
  cases hcut
  exact ⟨rfl, rfl⟩

end Text

namespace Lexeme

variable {catalog : Catalog} {cs rest before w after : List Char} {l m : Lexeme}

/-! ### Neighbours -/

/-- Whether a lexeme can stand right in front of another. -/
structure Precedes (l m : Lexeme) : Prop where
  word : ¬ (l.isWord = true ∧ m.isWord = true)
  blank : ¬ (l.isBlank = true ∧ m.isBlank = true)
  closed : l.isUnclosed = false

theorem exists_cuts_of_head? (h : m ∈ (cut catalog cs).head?) : ∃ rest, Cuts catalog cs m rest := by
  cases cs with
  | nil => simp [cut] at h
  | cons c cs =>
    rw [cut] at h
    obtain rfl := Option.some.inj h
    exact ⟨_, cuts_cutFirst catalog c cs⟩

/-- A word begins with a character of words. -/
theorem Cuts.exists_head_of_isWord (h : Cuts catalog cs l rest) (hl : l.isWord = true) :
    ∃ c ∈ cs.head?, isBareChar c = true := by
  cases h with
  | @word w _ hne hw _ =>
    obtain ⟨c, w, rfl⟩ := List.exists_cons_of_ne_nil hne
    exact ⟨c, rfl, hw c List.mem_cons_self⟩
  | _ => simp [isWord] at hl

/-- A run of blanks begins with a blank. -/
theorem Cuts.exists_head_of_isBlank (h : Cuts catalog cs l rest) (hl : l.isBlank = true) :
    ∃ c ∈ cs.head?, Text.isBlank c = true := by
  cases h with
  | @blank b _ hne hb _ =>
    obtain ⟨c, b, rfl⟩ := List.exists_cons_of_ne_nil hne
    exact ⟨c, rfl, hb c List.mem_cons_self⟩
  | _ => simp [isBlank] at hl

/-- A lexeme ends where the next one can begin: a word or a run of blanks would have gone on. -/
theorem Cuts.precedes (h : Cuts catalog cs l rest) {rest' : List Char}
    (h' : Cuts catalog rest m rest') : l.Precedes m := by
  cases h with
  | word _ _ hrest =>
    refine ⟨fun hboth ↦ ?_, by simp [isBlank], rfl⟩
    obtain ⟨c, hc, hbare⟩ := h'.exists_head_of_isWord hboth.2
    simp [hrest c hc] at hbare
  | blank _ _ hrest =>
    refine ⟨by simp [isWord], fun hboth ↦ ?_, rfl⟩
    obtain ⟨c, hc, hblank⟩ := h'.exists_head_of_isBlank hboth.2
    simp [hrest c hc] at hblank
  | unclosed => exact absurd rfl h'.ne_nil
  | _ => exact ⟨by simp [isWord], by simp [isBlank], rfl⟩

/-- Every lexeme of a text can stand right in front of the next. -/
theorem isChain_cut (catalog : Catalog) (cs : List Char) :
    (cut catalog cs).IsChain Precedes := by
  induction cs using cuts_induction catalog with
  | nil => simp [cut]
  | cons h ih =>
    rw [h.cut_eq]
    refine List.isChain_cons.2 ⟨fun m hm ↦ ?_, ih⟩
    obtain ⟨rest', h'⟩ := exists_cuts_of_head? hm
    exact h.precedes h'

/-- Only the last lexeme of a text can be a value without its closing quote. -/
theorem eq_nil_of_isUnclosed {front back : List Lexeme} (h : cut catalog cs = front ++ l :: back)
    (hl : l.isUnclosed = true) : back = [] := by
  have hchain := isChain_cut catalog cs
  rw [h] at hchain
  cases back with
  | nil => rfl
  | cons m back =>
    have hclosed := (List.isChain_cons_cons.1 hchain.right_of_append).1.closed
    simp [hl] at hclosed

/-! ### Words -/

theorem isWord_iff : l.isWord = true ↔ ∃ w r, l = word w r := by
  cases l <;> simp [isWord]

/-- The class of a word: the first of its possible roles. -/
theorem kind_word (catalog : Catalog) (w : String) :
    (word w (.ofWord catalog w)).kind =
      if catalog.contains w then .field
      else if (Operator.ofKeyword? w).isSome then .operator
      else if (Connective.ofWord? w).isSome then .logic
      else if (Modifier.ofWord? w).isSome then .modifier
      else .error := by
  unfold Role.ofWord Role.reserved
  cases catalog.contains w with
  | true => rfl
  | false =>
    cases Operator.ofKeyword? w with
    | some op => rfl
    | none =>
      cases Connective.ofWord? w with
      | some c => rfl
      | none => cases Modifier.ofWord? w <;> rfl

/-- A value with its closing quote is a quote and a content. -/
theorem exists_quoted_of_kind (hkind : l.kind = .value) (hclosed : l.isUnclosed = false) :
    ∃ q s, l = quoted q s := by
  rcases kind_eq_value_iff.1 hkind with hquoted | ⟨q, s, rfl⟩
  · exact hquoted
  · simp [isUnclosed] at hclosed

theorem Cuts.isBareChar_of_isWord (h : Cuts catalog cs l rest) (hl : l.isWord = true) :
    ∀ c ∈ l.chars, isBareChar c = true := by
  cases h with
  | word _ hw _ => simpa [chars] using hw
  | _ => simp [isWord] at hl

/-- Outside of words and values there are no characters of words. -/
theorem Cuts.isBareChar_eq_false (h : Cuts catalog cs l rest) (hword : l.isWord = false)
    (hvalue : l.kind ≠ .value) : ∀ c ∈ l.chars, isBareChar c = false := by
  cases h with
  | word => simp [isWord] at hword
  | quoted => simp [kind] at hvalue
  | unclosed => simp [kind] at hvalue
  | openParen => simp [chars, isBareChar_of_paren]
  | closeParen => simp [chars, isBareChar_of_paren]
  | blank _ hb _ => simpa [chars] using fun c hc ↦ isBareChar_of_isBlank (hb c hc)
  | glyph k =>
    have hand : isBareChar '&' = false := by decide
    have hor : isBareChar '|' = false := by decide
    cases k <;> simp [chars, toList_glyph, hand, hor]
  | stray h => simpa [chars] using h.2.1

/-- The last character of a value is no character of words, or the value goes on to the end. -/
theorem Cuts.last_of_kind_value (h : Cuts catalog cs l rest) (hl : l.kind = .value) :
    rest = [] ∨ ∀ c ∈ l.chars.getLast?, isBareChar c = false := by
  cases h with
  | word => simp [kind_eq_value_iff] at hl
  | @quoted q v _ hq _ =>
    refine .inr fun c hc ↦ ?_
    rw [chars, String.toList_ofList, ← List.cons_append, List.getLast?_concat] at hc
    exact Option.some.inj hc ▸ isBareChar_of_isQuote hq
  | unclosed => exact .inl rfl
  | _ => simp [kind] at hl

/-- A lexeme that is cut in front of a run of characters of words ends there, or it is a value that
goes past the run. -/
theorem Cuts.before_or_past (h : Cuts catalog cs l rest) (hcs : cs = before ++ (w ++ after))
    (hne : before ≠ []) (hwne : w ≠ []) (hw : ∀ c ∈ w, isBareChar c = true)
    (hbefore : ∀ c ∈ before.getLast?, isBareChar c = false) :
    (∃ more, before = l.chars ++ more ∧ rest = more ++ (w ++ after)) ∨
      l.kind = .value ∧ ∃ more, l.chars = before ++ (w ++ more) := by
  have hsplit : l.chars ++ rest = before ++ (w ++ after) := h.chars_append.trans hcs
  rcases List.append_eq_append_iff.1 hsplit with ⟨more, rfl, rfl⟩ | ⟨excess, hchars, hexcess⟩
  · exact .inl ⟨more, rfl, rfl⟩
  by_cases hnil : excess = []
  · subst hnil
    exact .inl ⟨[], by simpa using hchars.symm, by simpa using hexcess.symm⟩
  -- The lexeme ends inside of the run or behind it, so it holds the first character of the run.
  obtain ⟨d, w', rfl⟩ := List.exists_cons_of_ne_nil hwne
  obtain ⟨x, excess', rfl⟩ := List.exists_cons_of_ne_nil hnil
  obtain ⟨rfl, -⟩ := List.cons.inj hexcess
  have hd : d ∈ l.chars := by simp [hchars]
  -- Then it is no word, since the last character in front of the run belongs to no word.
  have hword : l.isWord = false := by
    rw [Bool.eq_false_iff]
    intro hword
    obtain ⟨b, hb⟩ := Option.ne_none_iff_exists'.1 (mt List.getLast?_eq_none_iff.1 hne)
    have hmem : b ∈ l.chars := hchars ▸ List.mem_append_left _ (List.mem_of_getLast? hb)
    have hbare := h.isBareChar_of_isWord hword b hmem
    simp [hbefore b hb] at hbare
  have hvalue : l.kind = .value := by
    by_contra hvalue
    have hbare := h.isBareChar_eq_false hword hvalue d hd
    simp [hw d List.mem_cons_self] at hbare
  refine .inr ⟨hvalue, ?_⟩
  rcases h.last_of_kind_value hvalue with rfl | hlast
  · exact ⟨after, by rw [hchars, hexcess, List.append_nil]⟩
  -- The value does not end inside of the run, where all characters are those of words.
  rcases List.append_eq_append_iff.1 hexcess with ⟨more, hmore, -⟩ | ⟨short, hshort, -⟩
  · exact ⟨more, by rw [hchars, hmore]⟩
  · obtain ⟨q, hq⟩ := Option.ne_none_iff_exists'.1 (mt List.getLast?_eq_none_iff.1 hnil)
    have hbare := hw q (hshort ▸ List.mem_append_left _ (List.mem_of_getLast? hq))
    have hend : q ∈ l.chars.getLast? := by rw [hchars, List.getLast?_append, hq]; rfl
    simp [hlast q hend] at hbare

end Lexeme

namespace Token

variable {catalog : Catalog} {cs before w after : List Char} {start : Nat} {ls : List Lexeme}
  {t : Token}

/-! ### Places -/

/-- Whether tokens lie in a row from one byte to another, without gaps and none of them empty. -/
def Tiles : Nat → List Token → Nat → Prop
  | start, [], stop => start = stop
  | start, t :: ts, stop => t.start = start ∧ t.start < t.stop ∧ Tiles t.stop ts stop

theorem tiles_place (start : Nat) (hls : ∀ l ∈ ls, l.chars ≠ []) :
    Tiles start (place start ls) (start + Text.byteLength (ls.flatMap Lexeme.chars)) := by
  induction ls generalizing start with
  | nil => rfl
  | cons l ls ih =>
    obtain ⟨hl, hls⟩ := List.forall_mem_cons.1 hls
    have hpos := Text.byteLength_pos hl
    rw [List.flatMap_cons, Text.byteLength_append, ← Nat.add_assoc]
    exact ⟨rfl, Nat.lt_add_of_pos_right hpos, ih _ hls⟩

/-- A token stands where the lexemes in front of it end. -/
theorem exists_append_of_mem_place (h : t ∈ place start ls) : ∃ front back,
    ls = front ++ t.lexeme :: back ∧
      t.start = start + Text.byteLength (front.flatMap Lexeme.chars) := by
  induction ls generalizing start with
  | nil => cases h
  | cons l ls ih =>
    rcases List.mem_cons.1 h with rfl | h
    · exact ⟨[], ls, rfl, by simp⟩
    · obtain ⟨front, back, rfl, hstart⟩ := ih h
      exact ⟨l :: front, back, rfl, by
        rw [hstart, List.flatMap_cons, Text.byteLength_append, Nat.add_assoc]⟩

/-- A run of characters of words that is as long as it can be is one word, unless a value goes past
it. The induction is on the cuts in front of the run. -/
theorem word_or_value_mem_place (catalog : Catalog) (hne : w ≠ [])
    (hw : ∀ c ∈ w, isBareChar c = true)
    (hbefore : ∀ c ∈ before.getLast?, isBareChar c = false)
    (hafter : ∀ c ∈ after.head?, isBareChar c = false) (hcs : cs = before ++ (w ++ after))
    (start : Nat) :
    (∃ t ∈ place start (Lexeme.cut catalog cs), t.lexeme.isWord = true ∧
      t.start = start + Text.byteLength before ∧ t.text.toList = w) ∨
    ∃ t ∈ place start (Lexeme.cut catalog cs), t.lexeme.kind = .value ∧
      t.start < start + Text.byteLength before ∧
      start + Text.byteLength (before ++ w) ≤ t.stop := by
  induction cs using Lexeme.cuts_induction catalog generalizing before start with
  | nil => simp_all
  | @cons cs l rest h ih =>
    by_cases hnil : before = []
    · have hword : Lexeme.Cuts catalog cs (.word (.ofList w) (.ofWord catalog (.ofList w))) after :=
        hcs ▸ hnil ▸ .word hne hw hafter
      rw [hword.cut_eq, place]
      exact .inl ⟨_, List.mem_cons_self, rfl, by simp [hnil], by simp [text, Lexeme.chars]⟩
    rw [h.cut_eq, place]
    rcases h.before_or_past hcs hnil hne hw hbefore with ⟨more, rfl, hrest⟩ | ⟨hvalue, more, hl⟩
    · have hmore : ∀ c ∈ more.getLast?, isBareChar c = false := by
        intro c hc
        exact hbefore c (by rw [List.getLast?_append, hc]; rfl)
      rw [List.append_assoc, Text.byteLength_append, Text.byteLength_append, ← Nat.add_assoc,
        ← Nat.add_assoc]
      rcases ih hmore hrest (start + Text.byteLength l.chars) with ⟨t, ht, hword⟩ | ⟨t, ht, hvalue⟩
      · exact .inl ⟨t, List.mem_cons_of_mem _ ht, hword⟩
      · exact .inr ⟨t, List.mem_cons_of_mem _ ht, hvalue⟩
    · refine .inr ⟨_, List.mem_cons_self, hvalue, ?_, ?_⟩
      · have hpos := Text.byteLength_pos hnil
        dsimp only
        omega
      · rw [stop, hl]
        simp only [Text.byteLength_append]
        omega

/-- A token is cut where it says. -/
theorem exists_cuts_of_mem {text : String} (ht : t ∈ tokenize catalog text) : ∃ before rest,
    text.toList = before ++ (t.lexeme.chars ++ rest) ∧ t.start = Text.byteLength before ∧
      Lexeme.Cuts catalog (t.lexeme.chars ++ rest) t.lexeme rest := by
  obtain ⟨front, back, hcut, hstart⟩ := exists_append_of_mem_place ht
  obtain ⟨rest, htext, hl⟩ := Lexeme.exists_cuts_of_cut_eq hcut
  exact ⟨_, rest, htext, by rw [hstart, Nat.zero_add], hl⟩

/-- Tokens in a row, each of them cut where it begins, are those that the lexer cuts there. -/
theorem eq_place_of_tiles (before : List Char) {rest : List Char} {ts : List Token}
    (htiles : Tiles (Text.byteLength before) ts (Text.byteLength (before ++ rest)))
    (hcuts : ∀ t ∈ ts, ∃ front back, before ++ rest = front ++ (t.lexeme.chars ++ back) ∧
      t.start = Text.byteLength front ∧
      Lexeme.Cuts catalog (t.lexeme.chars ++ back) t.lexeme back) :
    ts = place (Text.byteLength before) (Lexeme.cut catalog rest) := by
  induction ts generalizing before rest with
  | nil =>
    have hend : Text.byteLength before = Text.byteLength (before ++ rest) := htiles
    rw [Text.byteLength_append] at hend
    have hrest : rest = [] := by
      by_contra hne
      have := Text.byteLength_pos hne
      omega
    rw [hrest, Lexeme.cut]
    rfl
  | cons t ts ih =>
    obtain ⟨hstart, -, htail⟩ := htiles
    obtain ⟨ht, hts⟩ := List.forall_mem_cons.1 hcuts
    obtain ⟨front, back, htext, hfront, hl⟩ := ht
    -- The text is cut where the token begins, so nothing else can be cut there.
    obtain ⟨rfl, rfl⟩ := Text.append_inj_of_byteLength htext (hstart.symm.trans hfront)
    have hstop : t.stop = Text.byteLength (before ++ t.lexeme.chars) := by
      rw [stop, hstart, Text.byteLength_append]
    rw [← List.append_assoc] at htail hts
    rw [hstop] at htail
    have hrest := ih _ htail hts
    rw [hl.cut_eq, place, ← Text.byteLength_append, ← hrest, ← hstart]

/-! ### Tilings -/

/-- What the tokens of a text are: they cover it byte by byte, and each is cut as long as it can be
and has the first role that applies. -/
structure IsTiling (catalog : Catalog) (text : String) (ts : List Token) : Prop where
  /-- The tokens lie in a row from the first byte to the last. -/
  tiles : Tiles 0 ts (Text.byteSize text)
  /-- A token starts and stops at characters, and it is what stands there. -/
  slice : ∀ t ∈ ts, Text.slice? text.toList t.start t.stop = some t.text.toList
  /-- Where a token starts, a rule of the lexer applies, and the token goes as far as the rule
  does. -/
  munch : ∀ t ∈ ts, ∃ before rest, text.toList = before ++ (t.lexeme.chars ++ rest) ∧
    t.start = Text.byteLength before ∧ Lexeme.Cuts catalog (t.lexeme.chars ++ rest) t.lexeme rest
  /-- No two neighbours are words, and no two are white space. -/
  apart : ts.IsChain fun t u ↦ ¬ (t.lexeme.isWord = true ∧ u.lexeme.isWord = true) ∧
    ¬ (t.lexeme.isBlank = true ∧ u.lexeme.isBlank = true)
  /-- A value without its closing quote is a quote that does not come again, and nothing follows
  it. -/
  unclosed : ∀ front t back, ts = front ++ t :: back → t.lexeme.isUnclosed = true → back = [] ∧
    ∃ (q : Char) (s : String), IsQuote q ∧ q ∉ s.toList ∧ t.text.toList = q :: s.toList
  /-- Any other value is its content between two quotes that the content does not hold. -/
  quoted : ∀ t ∈ ts, t.lexeme.kind = .value → t.lexeme.isUnclosed = false →
    ∃ q s, IsQuote q ∧ q ∉ s.toList ∧ t.text.toList = q :: (s.toList ++ [q]) ∧
      t.lexeme.content? = some s
  /-- A run of characters of words that is as long as it can be is one word, unless it stands inside
  of a value. -/
  word : ∀ before w after, text.toList = before ++ (w ++ after) → w ≠ [] →
    (∀ c ∈ w, isBareChar c = true) → (∀ c ∈ before.getLast?, isBareChar c = false) →
    (∀ c ∈ after.head?, isBareChar c = false) →
    (∃ t ∈ ts, t.lexeme.isWord = true ∧ t.start = Text.byteLength before ∧ t.text.toList = w) ∨
    ∃ t ∈ ts, t.lexeme.kind = .value ∧ t.start < Text.byteLength before ∧
      Text.byteLength (before ++ w) ≤ t.stop
  /-- The class of a word is the first that applies. -/
  kind : ∀ t ∈ ts, t.lexeme.isWord = true → t.lexeme.kind =
    if catalog.contains t.text then .field
    else if (Operator.ofKeyword? t.text).isSome then .operator
    else if (Connective.ofWord? t.text).isSome then .logic
    else if (Modifier.ofWord? t.text).isSome then .modifier
    else .error

/-- Only one list of tokens tiles a text. -/
theorem IsTiling.eq_tokenize {text : String} {ts : List Token} (h : IsTiling catalog text ts) :
    ts = tokenize catalog text :=
  eq_place_of_tiles [] h.tiles h.munch

end Token

theorem isTiling_tokenize (catalog : Catalog) (text : String) :
    Token.IsTiling catalog text (tokenize catalog text) := by
  have hlexemes := Token.map_lexeme_place 0 (Lexeme.cut catalog text.toList)
  constructor
  case tiles =>
    have hne : ∀ l ∈ Lexeme.cut catalog text.toList, l.chars ≠ [] :=
      fun l hl ↦ Lexeme.chars_ne_nil_of_mem_cut hl
    have htiles := Token.tiles_place 0 hne
    rwa [Lexeme.flatMap_chars_cut, Nat.zero_add] at htiles
  case slice =>
    intro t ht
    obtain ⟨before, rest, htext, hstart, -⟩ := Token.exists_cuts_of_mem ht
    rw [htext, Token.stop, Token.text, Lexeme.toList_text, hstart]
    exact Text.slice?_append _ _ _
  case munch => exact fun t ht ↦ Token.exists_cuts_of_mem ht
  case apart =>
    have hchain := Lexeme.isChain_cut catalog text.toList
    rw [← hlexemes, List.isChain_map] at hchain
    exact hchain.imp fun _ _ h ↦ ⟨h.word, h.blank⟩
  case unclosed =>
    intro front t back hts ht
    have hcut : Lexeme.cut catalog text.toList =
        front.map Token.lexeme ++ t.lexeme :: back.map Token.lexeme := by
      rw [← hlexemes, ← tokenize, hts, List.map_append, List.map_cons]
    have htmem : t ∈ tokenize catalog text := by simp [hts]
    obtain ⟨q, s, hl⟩ := Lexeme.isUnclosed_iff.1 ht
    obtain ⟨hq, hs⟩ := Lexeme.of_unclosed_mem_cut (hl ▸ lexeme_mem_cut htmem)
    exact ⟨List.map_eq_nil_iff.1 (Lexeme.eq_nil_of_isUnclosed hcut ht), q, s, hq, hs,
      by rw [Token.text, Lexeme.toList_text, hl, Lexeme.chars]⟩
  case quoted =>
    intro t ht hkind hclosed
    obtain ⟨q, s, hl⟩ := Lexeme.exists_quoted_of_kind hkind hclosed
    obtain ⟨hq, hs⟩ := Lexeme.of_quoted_mem_cut (hl ▸ lexeme_mem_cut ht)
    exact ⟨q, s, hq, hs, by rw [Token.text, Lexeme.toList_text, hl, Lexeme.chars], by rw [hl]; rfl⟩
  case word =>
    intro before w after htext hne hw hbefore hafter
    have hfound := Token.word_or_value_mem_place catalog hne hw hbefore hafter htext 0
    rwa [Nat.zero_add, Nat.zero_add] at hfound
  case kind =>
    intro t ht hword
    obtain ⟨w, r, hl⟩ := Lexeme.isWord_iff.1 hword
    obtain ⟨-, rfl⟩ := Lexeme.of_word_mem_cut (hl ▸ lexeme_mem_cut ht)
    rw [text_of_lexeme hl, hl, Lexeme.kind_word]

/-- The tokens of a text, beside any catalog, tile it, and nothing else does. -/
theorem isTiling_iff_eq_tokenize (catalog : Catalog) (text : String) (ts : List Token) :
    Token.IsTiling catalog text ts ↔ ts = tokenize catalog text :=
  ⟨Token.IsTiling.eq_tokenize, fun h ↦ h ▸ isTiling_tokenize catalog text⟩

/-- The first word takes two bytes, the value holds a quote of the other kind, and the last value is
not closed. -/
example : (tokenize ∅ "é \"b'c\"d-e 'f g").map (fun t ↦ (t.start, t.text, t.lexeme.kind)) =
    [(0, "é", .error), (2, " ", .whitespace), (3, "\"b'c\"", .value), (8, "d-e", .error),
      (11, " ", .whitespace), (12, "'f g", .value)] := by
  decide +kernel

end FilterLang
