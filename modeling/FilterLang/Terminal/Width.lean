import FilterLang.Terminal.WidthTable

/-!
# Display width

How many columns of a terminal a text takes. Most characters take the columns that the tables say,
but some are shown together with those after them: a carriage return with its line feed, a character
with the selector of its form, an emoji with its skin tone, emoji joined by joiners, and the
ligatures of several scripts.

So a text is read from its end, and what a character takes depends on its `Context`, which says what
the text after it begins with. A character within a ligature can take less than none, when the
letter after it was counted already: the sum is what is shown.

A control character has no width of its own; here it counts as one column.
-/

namespace FilterLang.Terminal

/-! ### Kinds of characters -/

/-- Whether a code point lies between two others. -/
def isBetween (first last : Nat) (c : Char) : Bool := first ≤ c.toNat && c.toNat ≤ last

/-- The character that joins those around it. -/
def isJoiner (c : Char) : Bool := c.toNat == 0x200D

/-- Whether a character is a letter of a flag. -/
def isFlagLetter (c : Char) : Bool := isBetween 0x1F1E6 0x1F1FF c

/-- Whether a character is a skin tone. -/
def isTone (c : Char) : Bool := isBetween 0x1F3FB 0x1F3FF c

/-- Whether a selector can ask for the form of a character. -/
def isSelectable (c : Char) : Bool := selectableRanges.contains c

/-- Whether a selector can turn an emoji into text of one column. Signs of a square with an ideograph
stay as wide as they are. -/
def isSelectableEmoji (c : Char) : Bool :=
  emojiRanges.contains c && isSelectable c && !isBetween 0x1F200 0x1F2FF c

/-- Whether a character is a quotation mark, of which a selector can ask for a wide form. -/
def isWideQuote (c : Char) : Bool := [0x2018, 0x2019, 0x201C, 0x201D].contains c.toNat

/-- The letter lam in its forms. -/
def isLam (c : Char) : Bool :=
  c.toNat == 0x644 || isBetween 0x6B5 0x6B8 c || [0x76A, 0x8A6, 0x8C7].contains c.toNat

/-- The letter alef in its forms. -/
def isAlef (c : Char) : Bool :=
  [0x622, 0x623, 0x625, 0x627, 0x675, 0x773, 0x774].contains c.toNat ||
    isBetween 0x671 0x673 c || isBetween 0x870 0x882 c

/-- Whether a Khmer letter can be written below another one. -/
def isKhmerSubscript (c : Char) : Bool :=
  [(0x1780, 0x1782), (0x1784, 0x1787), (0x1789, 0x178C), (0x178E, 0x1793), (0x1795, 0x1798),
    (0x179B, 0x179D), (0x17A0, 0x17A0), (0x17A2, 0x17A2), (0x17A7, 0x17A7), (0x17AB, 0x17AC),
    (0x17AF, 0x17AF)].any fun r ↦ isBetween r.1 r.2 c

/-- Whether a character is a Tifinagh consonant. -/
def isTifinagh (c : Char) : Bool := isBetween 0x2D31 0x2D65 c || c.toNat == 0x2D6F

/-- Whether a character may stand within a ligature without a change to it. -/
def isTransparent (c : Char) : Bool :=
  [(0x34F, 0x34F), (0x17B4, 0x17B5), (0x180B, 0x180D), (0x180F, 0x180F), (0xFE00, 0xFE0F),
    (0xE0100, 0xE01EF)].any fun r ↦ isBetween r.1 r.2 c

/-- Whether a character is a mark that Arabic letters join across. -/
def isArabicMark (c : Char) : Bool :=
  zeroWidth.contains c && !partingRanges.contains c && !isBetween 0xFE0E 0xFE0F c

/-! ### What a text begins with -/

/-- What a text begins with, as far as it matters for the character before it. -/
inductive Begin where
  | plain
  | lineFeed
  | tone
  | flagLetter
  | flagLetters
  | emoji
  /-- A joiner and an emoji. -/
  | joined
  /-- The sign of a keycap, a joiner and an emoji. -/
  | joinedKeycap
  /-- One letter of a flag, a joiner and an emoji. -/
  | joinedLetter
  /-- An even number of letters of flags, a joiner and an emoji. -/
  | joinedEven
  /-- An odd number of letters of flags, but not one, a joiner and an emoji. -/
  | joinedOdd
  /-- The end of the name of a flag, a joiner and an emoji: the letters and digits so far. -/
  | joinedName (letters digits : Nat)
  | kiratE
  | kiratAi
  | alef
  | lamed
  | joinedLamed
  | ya
  | joinedYa
  /-- The Buginese vowel sign for i, a joiner and the letter ya. -/
  | vowelYa
  | tifinagh
  | joinedTifinagh
  /-- The Tifinagh sign that joins consonants, and a consonant. -/
  | signTifinagh
  /-- One of the two Lisu tones that are second in a pair. -/
  | lisuTone
  | orkhonI
  | joinedOrkhonI
  | khmerLetter
  deriving Repr, DecidableEq

namespace Begin

/-- Whether a ligature can begin, which no selector breaks. -/
def isLigature : Begin → Bool
  | alef | lamed | joinedLamed | ya | joinedYa | vowelYa | tifinagh | joinedTifinagh
  | signTifinagh | lisuTone | orkhonI | joinedOrkhonI | khmerLetter => true
  | _ => false

/-- Whether an emoji before it, or its sign, would be joined to one after it. -/
def isJoined : Begin → Bool
  | joined | joinedKeycap => true
  | _ => false

/-- What a ligature that joiners do not break becomes with one more. -/
def withJoiner? : Begin → Option Begin
  | lamed | joinedLamed => some joinedLamed
  | ya | joinedYa => some joinedYa
  | vowelYa => some vowelYa
  | tifinagh | joinedTifinagh => some joinedTifinagh
  | signTifinagh => some signTifinagh
  | lisuTone => some lisuTone
  | orkhonI | joinedOrkhonI => some joinedOrkhonI
  | khmerLetter => some khmerLetter
  | _ => none

end Begin

/-- What stands after a character: the selectors next to it, and what the text after them begins
with. -/
structure Context where
  start : Begin
  asEmoji : Bool
  asText : Bool
  asWide : Bool
  deriving Repr, DecidableEq

namespace Context

/-- A text without selectors at its front. -/
def ofBegin (b : Begin) : Context := ⟨b, false, false, false⟩

/-- The end of a text. -/
def plain : Context := ofBegin .plain

/-- The context before a selector of the form as an emoji. -/
def selectEmoji (n : Context) : Context :=
  if n.start.isLigature then { n with asEmoji := true }
  else if n.start.isJoined then { ofBegin n.start with asEmoji := true }
  else { plain with asEmoji := true }

/-- The context before a selector of the form as text. -/
def selectText (n : Context) : Context :=
  if n.start.isLigature then { n with asText := true } else { plain with asText := true }

/-- The context before a selector of the wide form. -/
def selectWide (n : Context) : Context :=
  if n.start.isLigature then { n with asWide := true } else { plain with asWide := true }

/-- The context without the selector of the form as an emoji, where that does not apply. A joiner
before it joins nothing then. -/
def dropEmoji (n : Context) : Context :=
  if !n.asEmoji then n
  else if n.start.isLigature then { n with asEmoji := false }
  else plain

/-- The context without the other selectors, where those do not apply. -/
def dropForms (n : Context) : Context :=
  if n.start.isLigature then { n with asText := false, asWide := false }
  else if n.asText || n.asWide then plain
  else n

end Context

/-! ### Single characters -/

/-- What a text begins with that begins with a character of one column. -/
def letterBegin (c : Char) : Begin :=
  if isAlef c then .alef
  else if isKhmerSubscript c then .khmerLetter
  else if isTifinagh c then .tifinagh
  else if isFlagLetter c then .flagLetter
  else
    match c.toNat with
    | 0x5DC => .lamed
    | 0x1A10 => .ya
    | 0xA4FC => .lisuTone
    | 0xA4FD => .lisuTone
    | 0x10C03 => .orkhonI
    | 0x16D67 => .kiratE
    | 0x16D68 => .kiratAi
    | _ => .plain

/-- The columns of a character by itself, and the context before it. -/
def alone (c : Char) : Nat × Context :=
  if c.toNat ≤ 0xA0 then (1, .ofBegin (if c == '\n' then .lineFeed else .plain))
  else if c.toNat == 0xFE01 then (0, Context.plain.selectWide)
  else if c.toNat == 0xFE0E then (0, Context.plain.selectText)
  else if c.toNat == 0xFE0F then (0, Context.plain.selectEmoji)
  else if c.toNat == 0x17D8 then (3, .plain)
  else if isTone c then (2, .ofBegin .tone)
  else if emojiRanges.contains c && !isFlagLetter c then (2, .ofBegin .emoji)
  else if zeroWidth.contains c then (0, .plain)
  else if doubleWidth.contains c then (2, .plain)
  else (1, .ofBegin (letterBegin c))

/-! ### Characters shown together -/

/-- The columns of a character before a joiner and an emoji, if it belongs to them. -/
def joinedStep? (c : Char) : Option (Int × Begin) :=
  if c.toNat == 0x20E3 then some (0, .joinedKeycap)
  else if isFlagLetter c then some (1, .joinedLetter)
  else if isTone c then some (0, .tone)
  else if c.toNat == 0xE007F then some (0, .joinedName 0 0)
  else if (alone c).2.start == .emoji then some (0, .emoji)
  else none

/-- The columns of a character before the end of the name of a flag, if it belongs to it. Names have
at most six letters, or three digits after at most four letters, and a black flag before them. -/
def nameStep? (letters digits : Nat) (c : Char) : Option (Int × Begin) :=
  if isBetween 0xE0061 0xE007A c && digits == 0 && letters < 6 then
    some (0, .joinedName (letters + 1) 0)
  else if isBetween 0xE0030 0xE0039 c && letters ≤ 4 && digits < 3 then
    some (0, .joinedName letters (digits + 1))
  else if c.toNat == 0x1F3F4 && (digits == 3 || digits == 0 && 3 ≤ letters) then some (0, .emoji)
  else none

/-- The columns of a character that is shown together with what follows it, and what the text with
it begins with. -/
def together? (b : Begin) (c : Char) : Option (Int × Begin) :=
  match b with
  | .alef =>
    if isLam c then some (0, .plain) else if isArabicMark c then some (0, .alef) else none
  | .joinedLamed => if c.toNat == 0x5D0 then some (0, .plain) else none
  | .khmerLetter => if c.toNat == 0x17D2 then some (-1, .plain) else none
  | .joinedYa => if c.toNat == 0x1A17 then some (0, .vowelYa) else none
  | .vowelYa => if c.toNat == 0x1A15 then some (0, .plain) else none
  | .tifinagh => if c.toNat == 0x2D7F then some (1, .signTifinagh) else none
  | .joinedTifinagh =>
    if c.toNat == 0x2D7F then some (1, .signTifinagh)
    else if isTifinagh c then some (0, .plain)
    else none
  | .signTifinagh => if isTifinagh c then some (-1, .plain) else none
  | .lisuTone => if isBetween 0xA4F8 0xA4FB c then some (0, .plain) else none
  | .joinedOrkhonI => if c.toNat == 0x10C32 then some (0, .plain) else none
  | .tone =>
    if toneBases.contains c then some (0, .emoji)
    else if isJoiner c then some (0, .joined)
    else none
  | .flagLetter => if isFlagLetter c then some (1, .flagLetters) else none
  | .flagLetters =>
    if isFlagLetter c then some (1, .flagLetters)
    else if isJoiner c then some (0, .joined)
    else none
  | .emoji => if isJoiner c then some (0, .joined) else none
  | .joined => joinedStep? c
  | .joinedLetter => if isFlagLetter c then some (-1, .joinedEven) else none
  | .joinedEven =>
    if isFlagLetter c then some (3, .joinedOdd)
    else if isJoiner c then some (0, .joined)
    else none
  | .joinedOdd =>
    if isFlagLetter c then some (-1, .joinedEven)
    else if isJoiner c then some (0, .joined)
    else none
  | .joinedName letters digits => nameStep? letters digits c
  | .kiratE =>
    match c.toNat with
    | 0x16D63 => some (0, .plain)
    | 0x16D67 => some (0, .kiratAi)
    | 0x16D68 => some (1, .kiratE)
    | 0x16D69 => some (0, .plain)
    | _ => none
  | .kiratAi => if c.toNat == 0x16D63 then some (0, .plain) else none
  | _ => none

/-- The columns that a character takes before a context, and the context before it. -/
def step (c : Char) (next : Context) : Int × Context :=
  if next.asEmoji && isSelectable c then
    (if next.start.isJoined then 0 else 2, .ofBegin .emoji)
  else
    let next := next.dropEmoji
    if c.toNat ≤ 0xA0 then
      if c == '\r' && next == .ofBegin .lineFeed then (0, .plain)
      else ((alone c).1, (alone c).2)
    else if c.toNat == 0xFE0F then (0, next.selectEmoji)
    else if c.toNat == 0xFE0E then (0, next.selectText)
    else if c.toNat == 0xFE01 then (0, next.selectWide)
    else if next.asText && isSelectableEmoji c then (1, .plain)
    else if next.asWide && isWideQuote c then (2, .plain)
    else
      let start := next.dropForms.start
      match start.withJoiner?, together? start c with
      | some b, shown =>
        if isJoiner c then (0, .ofBegin b)
        else if isTransparent c then (0, .ofBegin start)
        else
          match shown with
          | some (w, b) => (w, .ofBegin b)
          | none => ((alone c).1, (alone c).2)
      | none, some (w, b) => (w, .ofBegin b)
      | none, none => ((alone c).1, (alone c).2)

/-! ### Texts -/

/-- The columns of a text before a context, and the context before the text. -/
def measure : List Char → Int × Context
  | [] => (0, .plain)
  | c :: rest =>
    let (columns, next) := measure rest
    let (w, before) := step c next
    (columns + w, before)

/-- The columns of a text. -/
def width (cs : List Char) : Nat := (measure cs).1.toNat

/-- A flag, a family, and a letter with a mark. -/
example : width "🇫🇷".toList = 2 ∧ width "👩‍👧".toList = 2 ∧ width "é".toList = 1 := by decide +kernel

end FilterLang.Terminal
