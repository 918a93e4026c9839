import AttrExpr.Unicode.Property
import AttrExpr.Unicode.Script

/-! Where texts break into graphemes, words and sentences: the class of each character for each of
the three. Classes are asked for by loose names. -/
set_option autoImplicit false

namespace AttrExpr.Unicode

def zeroWidthJoiner : CharSet := .range 0x200D 0x200D

def carriageReturn : CharSet := .range 0x0D 0x0D

def lineFeed : CharSet := .range 0x0A 0x0A

/-- The characters of a set that are in none of the others. -/
def CharSet.without (set : CharSet) (others : List CharSet) : CharSet :=
  set.diff (.ofRanges (others.flatMap CharSet.ranges))

/-- Consonant signs that belong to the syllable after them. -/
def prependedConsonant : CharSet := .ofText
  "D4E 111C2-111C3 113D1 1193F 11941 11A3A 11A84-11A89 11D46 11F02"

/-- Spacing marks that begin a grapheme of their own. -/
def unjoinedSpacingMark : CharSet := .ofText
  "102B-102C 1038 1062-1064 1067-106D 1083 1087-108C 108F 109A-109C 1A61 1A63-1A64 AA7B AA7D
   11720-11721"

def leadingJamo : CharSet := .ofText "1100-115F A960-A97C"

def vowelJamo : CharSet := .ofText "1160-11A7 D7B0-D7C6 16D63 16D67-16D6A"

def trailingJamo : CharSet := .ofText "11A8-11FF D7CB-D7FB"

/-- Syllables of a leading consonant and a vowel: one in 28 of all syllables. -/
def openSyllables : CharSet :=
  ⟨(List.range 399).map fun i => (0xAC00 + 28 * i, 0xAC00 + 28 * i)⟩

def syllables : CharSet := .range 0xAC00 0xD7A3

def graphemeExtended : CharSet := graphemeExtend.union emojiModifier

/-- The class of characters for breaks between graphemes. -/
def graphemeBreak? : String → Option CharSet
  | "cr" => some carriageReturn
  | "lf" => some lineFeed
  | "control" | "cn" =>
    some ((charsOfAny [.lineSeparator, .paragraphSeparator, .control, .format]).union
      (Category.unassigned.chars.inter defaultIgnorableCodePoint) |>.without
        [graphemeExtend, carriageReturn, lineFeed, zeroWidthJoiner, prependedConcatenationMark])
  | "extend" | "ex" => some graphemeExtended
  | "prepend" | "pp" => some (prependedConcatenationMark.union prependedConsonant)
  | "spacingmark" | "sm" =>
    some ((Category.spacingMark.chars.without [graphemeExtend, unjoinedSpacingMark]).union
      ⟨[(0xE33, 0xE33), (0xEB3, 0xEB3)]⟩)
  | "l" => some leadingJamo
  | "v" => some vowelJamo
  | "t" => some trailingJamo
  | "lv" => some openSyllables
  | "lvt" => some (syllables.diff openSyllables)
  | "zwj" => some zeroWidthJoiner
  | "regionalindicator" | "ri" => some regionalIndicator
  | _ => none

/-- Letters of scripts that write words without blanks between them. -/
def complexContext : CharSet := .ofText
  "E01-E30 E32-E33 E40-E46 E81-E82 E84 E86-E8A E8C-EA3 EA5 EA7-EB0 EB2-EB3 EBD EC0-EC4 EC6 EDC-EDF
   1000-102A 103F 1050-1055 105A-105D 1061 1065-1066 106E-1070 1075-1081 108E 1780-17B3 17D7 17DC
   1950-196D 1970-1974 1980-19AB 19B0-19C9 1A20-1A54 1AA7 A9E0-A9E4 A9E6-A9EF A9FA-A9FE AA60-AA76
   AA7A AA7E-AAAF AAB1 AAB5-AAB6 AAB9-AABD AAC0 AAC2 AADB-AADD 11700-1171A 11740-11746"

/-- Signs that are written with katakana and others. -/
def kanaSign : CharSet := .ofText "3031-3035 309B-309C 30A0 30FC FF70"

/-- Signs that count as letters of a word. -/
def letterLike : CharSet := .ofText
  "2C2-2C5 2D2-2D7 2DE-2DF 2E5-2EB 2ED 2EF-2FF 55A-55C 55E 58A 5F3 70F A708-A716 A720-A721
   A789-A78A AB5B"

/-- Signs that count as digits of a number. -/
def numberSign : CharSet := .ofText "600-605 66B 6DD 890-891 8E2 19DA 110BD 110CD"

/-- The script of a name. -/
def scriptChars (name : String) : CharSet :=
  match scripts.find? (·.names.contains name) with
  | some script => script.chars
  | none => .empty

def hebrewLetter : CharSet := (scriptChars "Hebrew").inter Category.otherLetter.chars

def katakanaWord : CharSet := (scriptChars "Katakana").union kanaSign

/-- Marks, which continue the word they stand in. -/
def wordExtend : CharSet := graphemeExtended.union Category.spacingMark.chars

def wordLetter : CharSet :=
  (alphabetic.without [ideographic, katakanaWord, hebrewLetter, scriptChars "Hiragana", wordExtend,
    complexContext]).union letterLike

def wordNumeric : CharSet := Category.decimalNumber.chars.union numberSign

/-- The class of characters for breaks between words. -/
def wordBreak? : String → Option CharSet
  | "cr" => some carriageReturn
  | "lf" => some lineFeed
  | "newline" | "nl" => some (.ofText "B-C 85 2028-2029")
  | "extend" => some wordExtend
  | "zwj" => some zeroWidthJoiner
  | "format" | "fo" =>
    some (Category.format.chars.without
      [graphemeExtend, ⟨[(0x200B, 0x200B), (0x200D, 0x200D)]⟩, prependedConcatenationMark])
  | "regionalindicator" | "ri" => some regionalIndicator
  | "katakana" | "ka" => some katakanaWord
  | "hebrewletter" | "hl" => some hebrewLetter
  | "aletter" | "le" => some wordLetter
  | "singlequote" | "sq" => some (.range 0x27 0x27)
  | "doublequote" | "dq" => some (.range 0x22 0x22)
  | "midletter" | "ml" => some (.ofText "3A B7 387 55F 5F4 2027 FE13 FE55 FF1A")
  | "midnum" | "mn" =>
    some (.ofText "2C 3B 37E 589 60C-60D 66C 7F8 2044 FE50 FE54 FF0C FF1B")
  | "midnumlet" | "mb" => some (.ofText "2E 2018-2019 2024 FE52 FF07 FF0E")
  | "numeric" | "nu" => some wordNumeric
  | "extendnumlet" | "ex" => some (.ofText "5F 202F 203F-2040 2054 FE33-FE34 FE4D-FE4F FF3F")
  | "wsegspace" => some (.ofText "20 1680 2000-2006 2008-200A 205F 3000")
  | _ => none

def sentenceExtend : CharSet :=
  (graphemeExtend.union Category.spacingMark.chars).union zeroWidthJoiner

def sentenceNumeric : CharSet := wordNumeric.union (.range 0x66C 0x66C)

/-- Capitals, for which capitals that begin no sentence do not count. -/
def sentenceUpper : CharSet :=
  (Category.titlecaseLetter.chars.union uppercase).diff ⟨[(0x1C90, 0x1CBA), (0x1CBD, 0x1CBF)]⟩

/-- Small letters, for which letters of a script without capitals in use do not count. -/
def sentenceLower : CharSet :=
  lowercase.without [sentenceExtend, ⟨[(0x10D0, 0x10FA), (0x10FD, 0x10FF)]⟩]

def sentenceLetter : CharSet :=
  (alphabetic.without [sentenceLower, sentenceUpper, sentenceExtend]).union (.range 0x5F3 0x5F3)

/-- Stops that may also end an abbreviation. -/
def fullStops : CharSet := .ofText "2E 2024 FE52 FF0E"

/-- Ornaments and old signs that quote. -/
def ornamentQuote : CharSet := .ofText "275B-2760 2E00-2E01 2E06-2E08 2E0B 1F676-1F678"

def closing : CharSet :=
  (CharSet.ofRanges ((charsOfAny [.openPunctuation, .closePunctuation, .initialPunctuation,
    .finalPunctuation]).ranges ++ quotationMark.ranges ++ ornamentQuote.ranges)).diff
      (.ofText "FF02 FF07")

/-- Signs after which a sentence goes on. -/
def sentenceContinue : CharSet := .ofText
  "2C-2D 3A-3B 37E 55D 60C-60D 7F8 1802 1808 2013-2014 3001 FE10-FE11 FE13-FE14 FE31-FE32
   FE50-FE51 FE54-FE55 FE58 FE63 FF0C-FF0D FF1A-FF1B FF64"

/-- The class of characters for breaks between sentences. -/
def sentenceBreak? : String → Option CharSet
  | "cr" => some carriageReturn
  | "lf" => some lineFeed
  | "sep" | "se" => some (.ofText "85 2028-2029")
  | "extend" | "ex" => some sentenceExtend
  | "format" | "fo" =>
    some (Category.format.chars.without [graphemeExtend, zeroWidthJoiner, sentenceNumeric])
  | "sp" => some (.ofText "9 B-C 20 A0 1680 2000-200A 202F 205F 3000")
  | "lower" | "lo" => some sentenceLower
  | "upper" | "up" => some sentenceUpper
  | "oletter" | "le" => some sentenceLetter
  | "numeric" | "nu" => some sentenceNumeric
  | "aterm" | "at" => some fullStops
  | "sterm" | "st" => some (sentenceTerminal.diff fullStops)
  | "scontinue" | "sc" => some sentenceContinue
  | "close" | "cl" => some closing
  | _ => none

end AttrExpr.Unicode
