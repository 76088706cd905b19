import ChangelogSql.Regular.Basic
import ChangelogSql.Text.Category

/-!
Sets of characters as ranges in order, with gaps between them. Complements are
taken within the numbers that are characters at all.
-/

namespace ChangelogSql.Regular.Ranges

/-- The first and the last number beyond the two halves of all characters, between which the halves
of pairs lie that are no characters. -/
def every : Ranges :=
  [(0, 0xD7FF), (0xE000, 0x10FFFF)]

/-- Ranges in order joined where there is no gap between them. -/
def joined : Ranges → Ranges
  | [] => []
  | (low, high) :: rest =>
    match joined rest with
    | (next, last) :: others =>
      if next ≤ high + 1 then (low, max high last) :: others
      else (low, high) :: (next, last) :: others
    | [] => [(low, high)]

/-- A set with its ranges in order. -/
def tidied (ranges : Ranges) : Ranges :=
  joined (ranges.mergeSort fun range other => range.1 < other.1
    || (range.1 = other.1 && other.2 ≤ range.2))

/-- The members of either set. -/
def union (ranges others : Ranges) : Ranges :=
  tidied (ranges ++ others)

/-- The numbers from `low` to `high` that are not in ranges, which are in order. -/
def gaps (low high : Nat) : Ranges → Ranges
  | [] => if low ≤ high then [(low, high)] else []
  | (start, finish) :: rest =>
    if high < start then if low ≤ high then [(low, high)] else []
    else
      let before := if low < start then [(low, start - 1)] else []
      before ++ gaps (max low (finish + 1)) high rest

/-- The characters that are not in a set. -/
def complement (ranges : Ranges) : Ranges :=
  every.flatMap fun range => gaps range.1 range.2 (tidied ranges)

/-- The members of both sets. -/
def intersection (ranges others : Ranges) : Ranges :=
  tidied (ranges.flatMap fun range => others.filterMap fun other =>
    let low := max range.1 other.1
    let high := min range.2 other.2
    if low ≤ high then some (low, high) else none)

/-- The members of the first set that are not in the second. -/
def difference (ranges others : Ranges) : Ranges :=
  intersection ranges (complement others)

/-- The members of one set but not of both. -/
def symmetricDifference (ranges others : Ranges) : Ranges :=
  union (difference ranges others) (difference others ranges)

end ChangelogSql.Regular.Ranges

/-!
Sets of characters that have names: the classes of letters, digits and blanks in
ASCII and beyond, properties of characters, and writing systems. Letters that
differ only in case are brought together here too.
-/

namespace ChangelogSql.Regular.Class

open Text (Category)

/-- The range of two characters. -/
def between (low high : Char) : Nat × Nat :=
  (low.toNat, high.toNat)

/-- The classes of ASCII by name. -/
def ascii? (name : String) : Option Ranges :=
  match name with
  | "alnum" => some [between '0' '9', between 'A' 'Z', between 'a' 'z']
  | "alpha" => some [between 'A' 'Z', between 'a' 'z']
  | "ascii" => some [(0, 0x7F)]
  | "blank" => some [(0x09, 0x09), (0x20, 0x20)]
  | "cntrl" => some [(0, 0x1F), (0x7F, 0x7F)]
  | "digit" => some [between '0' '9']
  | "graph" => some [between '!' '~']
  | "lower" => some [between 'a' 'z']
  | "print" => some [between ' ' '~']
  | "punct" => some [between '!' '/', between ':' '@', between '[' '\x60', (0x7B, 0x7E)]
  | "space" => some [(0x09, 0x0D), (0x20, 0x20)]
  | "upper" => some [between 'A' 'Z']
  | "word" => some [between '0' '9', between 'A' 'Z', between '_' '_', between 'a' 'z']
  | "xdigit" => some [between '0' '9', between 'A' 'F', between 'a' 'f']
  | _ => none

/-- The letters of words in ASCII. -/
def asciiWord : Ranges :=
  (ascii? "word").getD []

/-- The characters of some categories. -/
def ofCategories (categories : List Category) : Ranges :=
  Category.rangesWhere categories.contains

def letters : List Category :=
  [.uppercaseLetter, .lowercaseLetter, .titlecaseLetter, .modifierLetter, .otherLetter]

def marks : List Category :=
  [.nonspacingMark, .spacingMark, .enclosingMark]

def numbers : List Category :=
  [.decimalNumber, .letterNumber, .otherNumber]

def punctuation : List Category :=
  [.connectorPunctuation, .dashPunctuation, .openPunctuation, .closePunctuation,
    .initialPunctuation, .finalPunctuation, .otherPunctuation]

def symbols : List Category :=
  [.mathSymbol, .currencySymbol, .modifierSymbol, .otherSymbol]

def separators : List Category :=
  [.spaceSeparator, .lineSeparator, .paragraphSeparator]

def others : List Category :=
  [.control, .format, .surrogate, .privateUse, .unassigned]

/-- Symbols that count as letters: letters in circles and squares. -/
def letterlike : Ranges :=
  [(0x24B6, 0x24E9), (0x1F130, 0x1F149), (0x1F150, 0x1F169), (0x1F170, 0x1F189)]

/-- Letters, the marks on them, and numbers that are written as letters. -/
def alphabetic : Ranges :=
  Ranges.union (ofCategories (.letterNumber :: letters ++ marks)) letterlike

/-- What words are made of. -/
def word : Ranges :=
  Ranges.union
    (ofCategories (.letterNumber :: .decimalNumber :: .connectorPunctuation :: letters ++ marks))
    (letterlike ++ [(0x200C, 0x200D)])

def digit : Ranges :=
  ofCategories [.decimalNumber]

def blank : Ranges :=
  Text.blanks

def latin : Ranges :=
  [(0x41, 0x5A), (0x61, 0x7A), (0xAA, 0xAA), (0xBA, 0xBA), (0xC0, 0xD6), (0xD8, 0xF6),
    (0xF8, 0x2B8), (0x2E0, 0x2E4), (0x1D00, 0x1D25), (0x1D2C, 0x1D5C), (0x1D62, 0x1D65),
    (0x1D6B, 0x1D77), (0x1D79, 0x1DBE), (0x1E00, 0x1EFF), (0x2071, 0x2071), (0x207F, 0x207F),
    (0x2090, 0x209C), (0x212A, 0x212B), (0x2132, 0x2132), (0x214E, 0x214E), (0x2160, 0x2188),
    (0x2C60, 0x2C7F), (0xA722, 0xA787), (0xA78B, 0xA7CA), (0xA7D0, 0xA7D1), (0xA7D3, 0xA7D3),
    (0xA7D5, 0xA7D9), (0xA7F2, 0xA7FF), (0xAB30, 0xAB5A), (0xAB5C, 0xAB64), (0xAB66, 0xAB69),
    (0xFB00, 0xFB06), (0xFF21, 0xFF3A), (0xFF41, 0xFF5A), (0x10780, 0x10785), (0x10787, 0x107B0),
    (0x107B2, 0x107BA), (0x1DF00, 0x1DF1E), (0x1DF25, 0x1DF2A)]

def greek : Ranges :=
  [(0x370, 0x373), (0x375, 0x377), (0x37A, 0x37D), (0x37F, 0x37F), (0x384, 0x384), (0x386, 0x386),
    (0x388, 0x38A), (0x38C, 0x38C), (0x38E, 0x3A1), (0x3A3, 0x3E1), (0x3F0, 0x3FF),
    (0x1D26, 0x1D2A), (0x1D5D, 0x1D61), (0x1D66, 0x1D6A), (0x1DBF, 0x1DBF), (0x1F00, 0x1F15),
    (0x1F18, 0x1F1D), (0x1F20, 0x1F45), (0x1F48, 0x1F4D), (0x1F50, 0x1F57), (0x1F59, 0x1F59),
    (0x1F5B, 0x1F5B), (0x1F5D, 0x1F5D), (0x1F5F, 0x1F7D), (0x1F80, 0x1FB4), (0x1FB6, 0x1FC4),
    (0x1FC6, 0x1FD3), (0x1FD6, 0x1FDB), (0x1FDD, 0x1FEF), (0x1FF2, 0x1FF4), (0x1FF6, 0x1FFE),
    (0x2126, 0x2126), (0xAB65, 0xAB65), (0x10140, 0x1018E), (0x101A0, 0x101A0), (0x1D200, 0x1D245)]

def cyrillic : Ranges :=
  [(0x400, 0x484), (0x487, 0x52F), (0x1C80, 0x1C88), (0x1D2B, 0x1D2B), (0x1D78, 0x1D78),
    (0x2DE0, 0x2DFF), (0xA640, 0xA69F), (0xFE2E, 0xFE2F), (0x1E030, 0x1E06D), (0x1E08F, 0x1E08F)]

def han : Ranges :=
  [(0x2E80, 0x2E99), (0x2E9B, 0x2EF3), (0x2F00, 0x2FD5), (0x3005, 0x3005), (0x3007, 0x3007),
    (0x3021, 0x3029), (0x3038, 0x303B), (0x3400, 0x4DBF), (0x4E00, 0x9FFF), (0xF900, 0xFA6D),
    (0xFA70, 0xFAD9), (0x16FE2, 0x16FE3), (0x16FF0, 0x16FF1), (0x20000, 0x2A6DF),
    (0x2A700, 0x2B739), (0x2B740, 0x2B81D), (0x2B820, 0x2CEA1), (0x2CEB0, 0x2EBE0),
    (0x2F800, 0x2FA1D), (0x30000, 0x3134A), (0x31350, 0x323AF)]

def hiragana : Ranges :=
  [(0x3041, 0x3096), (0x309D, 0x309F), (0x1B001, 0x1B11F), (0x1B132, 0x1B132), (0x1B150, 0x1B152),
    (0x1F200, 0x1F200)]

def katakana : Ranges :=
  [(0x30A1, 0x30FA), (0x30FD, 0x30FF), (0x31F0, 0x31FF), (0x32D0, 0x32FE), (0x3300, 0x3357),
    (0xFF66, 0xFF6F), (0xFF71, 0xFF9D), (0x1AFF0, 0x1AFF3), (0x1AFF5, 0x1AFFB), (0x1AFFD, 0x1AFFE),
    (0x1B000, 0x1B000), (0x1B120, 0x1B122), (0x1B155, 0x1B155), (0x1B164, 0x1B167)]

/-- The names of categories and of groups of them. -/
def categoryNames : List (List String × List Category) :=
  [(["lu", "uppercaseletter"], [.uppercaseLetter]),
    (["ll", "lowercaseletter"], [.lowercaseLetter]),
    (["lt", "titlecaseletter"], [.titlecaseLetter]), (["lm", "modifierletter"], [.modifierLetter]),
    (["lo", "otherletter"], [.otherLetter]), (["mn", "nonspacingmark"], [.nonspacingMark]),
    (["mc", "spacingmark"], [.spacingMark]), (["me", "enclosingmark"], [.enclosingMark]),
    (["nd", "decimalnumber"], [.decimalNumber]), (["nl", "letternumber"], [.letterNumber]),
    (["no", "othernumber"], [.otherNumber]),
    (["pc", "connectorpunctuation"], [.connectorPunctuation]),
    (["pd", "dashpunctuation"], [.dashPunctuation]),
    (["ps", "openpunctuation"], [.openPunctuation]),
    (["pe", "closepunctuation"], [.closePunctuation]),
    (["pi", "initialpunctuation"], [.initialPunctuation]),
    (["pf", "finalpunctuation"], [.finalPunctuation]),
    (["po", "otherpunctuation"], [.otherPunctuation]), (["sm", "mathsymbol"], [.mathSymbol]),
    (["sc", "currencysymbol"], [.currencySymbol]), (["sk", "modifiersymbol"], [.modifierSymbol]),
    (["so", "othersymbol"], [.otherSymbol]), (["zs", "spaceseparator"], [.spaceSeparator]),
    (["zl", "lineseparator"], [.lineSeparator]),
    (["zp", "paragraphseparator"], [.paragraphSeparator]), (["cc", "control"], [.control]),
    (["cf", "format"], [.format]), (["cs", "surrogate"], [.surrogate]),
    (["co", "privateuse"], [.privateUse]), (["cn", "unassigned"], [.unassigned]),
    (["l", "letter"], letters),
    (["lc", "casedletter"], [.uppercaseLetter, .lowercaseLetter, .titlecaseLetter]),
    (["m", "mark"], marks), (["n", "number"], numbers), (["p", "punctuation"], punctuation),
    (["s", "symbol"], symbols), (["z", "separator"], separators), (["c", "other"], others),
    (["digit"], [.decimalNumber]), (["punct"], punctuation), (["cntrl"], [.control]),
    (["combiningmark"], marks)]

/-- The categories of a name. -/
def categories? (name : String) : Option (List Category) :=
  (categoryNames.find? fun entry => entry.1.contains name).map Prod.snd

/-- The writing system of a name. -/
def script? (name : String) : Option Ranges :=
  match name with
  | "latin" | "latn" => some latin
  | "greek" | "grek" => some greek
  | "cyrillic" | "cyrl" => some cyrillic
  | "han" | "hani" => some han
  | "hiragana" | "hira" => some hiragana
  | "katakana" | "kana" => some katakana
  | _ => none

/-- The name of a property as it is looked up: blanks, dashes and underscores do not count, nor
does case, nor `is` in front. -/
def normalName (name : String) : String :=
  let kept := (name.toList.filter fun c => !(c = ' ' || c = '-' || c = '_')).map Char.toLower
  match kept with
  | 'i' :: 's' :: rest => if rest = [] || rest = ['c'] then String.ofList kept
    else String.ofList rest
  | _ => String.ofList kept

/-- The characters of a property that is named by itself. -/
def property? (name : String) : Option Ranges :=
  let name := normalName name
  match name with
  | "any" => some Ranges.every
  | "ascii" => some [(0, 0x7F)]
  | "assigned" => some (Ranges.complement (ofCategories [.unassigned]))
  | "alphabetic" | "alpha" => some alphabetic
  | "whitespace" | "wspace" | "space" => some blank
  | "uppercase" | "upper" => some (ofCategories [.uppercaseLetter])
  | "lowercase" | "lower" => some (ofCategories [.lowercaseLetter])
  | _ =>
    match categories? name with
    | some categories => some (ofCategories categories)
    | none => script? name

/-- The characters for which a property has a value, or whether it is the property or the value that
is unknown. -/
def valued (property value : String) : Except Bool Ranges :=
  let value := normalName value
  match normalName property with
  | "gc" | "generalcategory" =>
    match categories? value with
    | some categories => .ok (ofCategories categories)
    | none => .error true
  | "sc" | "script" | "scx" | "scriptextensions" =>
    match script? value with
    | some ranges => .ok ranges
    | none => .error true
  | _ => .error false

/-- Stretches of capital letters, each with the distance to the small ones. -/
def shiftedCases : List (Nat × Nat × Nat) :=
  [(0x41, 0x5A, 32), (0xC0, 0xD6, 32), (0xD8, 0xDE, 32), (0x388, 0x38A, 37), (0x391, 0x3A1, 32),
    (0x3A3, 0x3AB, 32), (0x400, 0x40F, 80), (0x410, 0x42F, 32), (0x531, 0x556, 48),
    (0x2160, 0x216F, 16), (0x24B6, 0x24CF, 26), (0xFF21, 0xFF3A, 32), (0x10400, 0x10427, 40)]

/-- Stretches in which each capital letter is followed by its small one. -/
def pairedCases : List (Nat × Nat) :=
  [(0x100, 0x12F), (0x132, 0x137), (0x139, 0x148), (0x14A, 0x177), (0x179, 0x17E), (0x1CD, 0x1DC),
    (0x1DE, 0x1EF), (0x1F8, 0x21F), (0x222, 0x233), (0x370, 0x373), (0x3D8, 0x3EF),
    (0x460, 0x481), (0x48A, 0x4BF), (0x4C1, 0x4CE), (0x4D0, 0x52F), (0x1E00, 0x1E95),
    (0x1EA0, 0x1EFF), (0x2C80, 0x2CE3), (0xA640, 0xA66D), (0xA722, 0xA72F), (0xA732, 0xA76F)]

/-- Letters that have one more form. -/
def furtherForms : List (Nat × Nat) :=
  [(0x6B, 0x212A), (0xE5, 0x212B), (0x73, 0x17F), (0x3BC, 0xB5), (0x3C3, 0x3C2)]

/-- A set with the letters of the other case beside its own, as far as single steps lead. -/
def withCases (ranges : Ranges) : Ranges :=
  let inside (low high : Nat) : Ranges := Ranges.intersection ranges [(low, high)]
  let shifted := shiftedCases.flatMap fun (low, high, distance) =>
    (inside low high).map (fun range => (range.1 + distance, range.2 + distance))
      ++ (inside (low + distance) (high + distance)).map fun range =>
        (range.1 - distance, range.2 - distance)
  let paired := pairedCases.flatMap fun (low, high) =>
    (inside low high).map fun range =>
      (range.1 - (range.1 - low) % 2, range.2 + (range.2 + 1 - low) % 2)
  let further := furtherForms.flatMap fun (letter, form) =>
    if ranges.has letter then [(form, form)]
    else if ranges.has form then [(letter, letter)]
    else []
  Ranges.union ranges (shifted ++ paired ++ further)

/-- A set with all forms of its letters. -/
def withAllCases (ranges : Ranges) : Ranges :=
  withCases (withCases ranges)

/-- A set with the letters of ASCII in both cases. -/
def withAsciiCases (ranges : Ranges) : Ranges :=
  let inside (low high : Char) : Ranges := Ranges.intersection ranges [between low high]
  Ranges.union ranges ((inside 'A' 'Z').map (fun range => (range.1 + 32, range.2 + 32))
    ++ (inside 'a' 'z').map fun range => (range.1 - 32, range.2 - 32))

end ChangelogSql.Regular.Class
