import FilterLang.Pattern
import FilterLang.Unicode.Age
import FilterLang.Unicode.Break
import FilterLang.Unicode.ScriptExtension
import FilterLang.Unicode.Truth

/-!
# Properties of characters by their names

A class such as `\p` with a name in braces is only right if the name is that of a Unicode property
with a truth value, of a general category or of a script, or of another property with one of its
values. Names are compared without regard to case, blanks, hyphens and underscores, and to a leading
`is`. The tables are kept by names in this normal form.
-/

namespace FilterLang.Pattern

/-! ### Names without a set -/

/-- Properties of which no value can be asked for. -/
def otherProperties : List String := [
  "bc", "bidiclass", "blk", "block", "bmg", "bidimirroringglyph", "bpb", "bidipairedbracket",
  "bpt", "bidipairedbrackettype", "ccc", "canonicalcombiningclass", "ce", "compositionexclusion",
  "cf", "casefolding", "compex", "fullcompositionexclusion", "cwkcf", "changeswhennfkccasefolded",
  "dm", "decompositionmapping", "dt", "decompositiontype", "ea", "eastasianwidth", "equideo",
  "equivalentunifiedideograph", "fcnfkc", "fcnfkcclosure", "hst", "hangulsyllabletype", "incb",
  "indicconjunctbreak", "inpc", "indicpositionalcategory", "insc", "indicsyllabiccategory", "isc",
  "ocomment", "jg", "joininggroup", "jsn", "jamoshortname", "jt", "joiningtype", "lb",
  "linebreak", "lc", "lowercasemapping", "na", "name", "na1", "unicode1name", "namealias",
  "nfcqc", "nfcquickcheck", "nfdqc", "nfdquickcheck", "nfkccf", "nfkccasefold", "nfkcqc",
  "nfkcquickcheck", "nfkcscf", "nfkcsimplecasefold", "nfkdqc", "nfkdquickcheck", "nt",
  "numerictype", "nv", "numericvalue", "scf", "simplecasefolding", "sfc", "slc",
  "simplelowercasemapping", "stc", "simpletitlecasemapping", "suc", "simpleuppercasemapping",
  "tc", "titlecasemapping", "uc", "uppercasemapping", "vo", "verticalorientation", "xonfc",
  "expandsonnfc", "xonfd", "expandsonnfd", "xonfkc", "expandsonnfkc", "xonfkd", "expandsonnfkd",
  "cjkaccountingnumeric", "kaccountingnumeric", "cjkcompatibilityvariant",
  "kcompatibilityvariant", "cjkiicore", "kiicore", "cjkirggsource", "kirggsource",
  "cjkirghsource", "kirghsource", "cjkirgjsource", "kirgjsource", "cjkirgkpsource",
  "kirgkpsource", "cjkirgksource", "kirgksource", "cjkirgmsource", "kirgmsource", "cjkirgssource",
  "kirgssource", "cjkirgtsource", "kirgtsource", "cjkirguksource", "kirguksource",
  "cjkirgusource", "kirgusource", "cjkirgvsource", "kirgvsource", "cjkothernumeric",
  "kothernumeric", "cjkprimarynumeric", "kprimarynumeric", "cjkrsunicode", "krsunicode",
  "unicoderadicalstroke", "urs"]

/-- The category that no character has. -/
def emptyCategories : List String := ["cs", "surrogate"]

/-- The scripts that no character has. -/
def emptyScripts : List String := ["zzzz", "unknown", "hrkt", "katakanaorhiragana"]

/-- Properties with values that can be asked for, and the sets of those values. -/
def valuedProperties : List (List String × (String → Option CodeSet)) := [
  (["gc", "generalcategory", "category"], Unicode.category?),
  (["sc", "script"], Unicode.script?),
  (["scx", "scriptextensions"], Unicode.scriptExtension?),
  (["age"], Unicode.age?),
  (["gcb", "graphemeclusterbreak"], Unicode.graphemeClass?),
  (["wb", "wordbreak"], Unicode.wordClass?),
  (["sb", "sentencebreak"], Unicode.sentenceClass?)]

/-! ### Looking names up -/

/-- The ASCII letters, digits and signs of a name, in lower case. -/
def plainName (cs : List Char) : List Char :=
  (cs.filter fun c ↦ c != ' ' && c != '_' && c != '-' && c.toNat < 128).map Char.toLower

/-- The normal form of a name. The name `isc` is not shortened to `c`, which is a category. -/
def normalName (s : String) : String :=
  match s.toList with
  | i :: t :: rest =>
    if i.toLower == 'i' && t.toLower == 's' then
      let plain := plainName rest
      if plain == ['c'] then "isc" else String.ofList plain
    else String.ofList (plainName (i :: t :: rest))
  | cs => String.ofList (plainName cs)

/-- The short names that stand for a category although a property has them too. -/
def categoriesFirst : List String := ["cf", "sc", "lc"]

/-- The characters of a category or a script. -/
def setOfCategory (name : String) : Except Fault CodeSet :=
  match (Unicode.category? name).or (Unicode.script? name) with
  | some set => .ok set
  | none =>
    if emptyCategories.contains name || emptyScripts.contains name then
      .error .propertyValueUnknown
    else .error .propertyUnknown

/-- The characters that a name without a value stands for. -/
def setOfName (name : String) : Except Fault CodeSet :=
  if categoriesFirst.contains name then setOfCategory name
  else
    match Unicode.truth? name with
    | some set => .ok set
    | none =>
      if otherProperties.contains name || valuedProperties.any (·.1.contains name) then
        .error .propertyUnknown
      else setOfCategory name

/-- The characters that a name and a value stand for. -/
def setOfValue (name value : String) : Except Fault CodeSet :=
  match valuedProperties.find? (·.1.contains name) with
  | some (_, sets) =>
    match sets value with
    | some set => .ok set
    | none => .error .propertyValueUnknown
  | none =>
    if (Unicode.truth? name).isSome || otherProperties.contains name then
      .error .propertyValueUnknown
    else .error .propertyUnknown

/-- The characters with a property. -/
def Property.set : Property → Except Fault CodeSet
  | named name => setOfName (normalName name)
  | valued name value => setOfValue (normalName name) (normalName value)

end FilterLang.Pattern
