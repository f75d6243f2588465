import LineTemplate.Unicode.Cased
import LineTemplate.Unicode.Emoji
import LineTemplate.Unicode.Numeric
import LineTemplate.Unicode.Property
import LineTemplate.Unicode.Script

/-!
# Segmentation

The classes of characters by which a text is divided into what a user sees as characters, into words
and into sentences, by Unicode 16.0. A character that is in no class stands for itself.
-/

namespace LineTemplate.Unicode

/-- A class of characters that behave alike at a boundary. -/
structure BreakClass where
  /-- Its names in lower case and without separators. -/
  names : List String
  /-- The characters in the class. -/
  ranges : Ranges

/-- The class with a name. -/
def breakClass? (classes : List BreakClass) (name : String) : Option Ranges :=
  (classes.find? fun c => c.names.contains name).map (·.ranges)

/-! ## Characters as a user sees them -/

/-- Characters that extend the one before them. -/
def graphemeExtensionRanges : Ranges :=
  joiningRanges.union emojiModifierRanges

/-- Characters that belong to the one after them. -/
def prependedRanges : Ranges :=
  prependedMarkRanges.union (.ofTable "
    D4E 111C2-111C3 113D1 1193F 11941 11A3A 11A84-11A89 11D46 11F02")

/-- Characters with a boundary on both sides. -/
def controlRanges : Ranges :=
  let ignored := ignorableRanges.inter unassignedRanges
  ((Category.rangesOf [.zl, .zp, .cc, .cf]).union ignored).diff
    (.unions [.ofTable "A D 200C-200D", prependedRanges, graphemeExtensionRanges])

/-- Marks that take room and do not belong to the character before them. -/
def separateMarkRanges : Ranges := .ofTable "
  102B-102C 1038 1062-1064 1067-106D 1083 1087-108C 108F 109A-109C 1A61 1A63-1A64 AA7B AA7D
  11720-11721"

/-- Characters that take room and belong to the one before them. -/
def spacingMarkRanges : Ranges :=
  (Category.mc.ranges.union (.ofTable "E33 EB3")).diff
    (graphemeExtensionRanges.union separateMarkRanges)

/-- Hangul syllables without a final consonant: every twenty-eighth. -/
def openSyllableRanges : Ranges :=
  .ofCodes (List.range' 0xAC00 399 28)

/-- The classes of characters at boundaries of what a user sees as one character. -/
def graphemeBreaks : List BreakClass := [
  ⟨["cr"], .ofTable "D"⟩,
  ⟨["lf"], .ofTable "A"⟩,
  ⟨["cn", "control"], controlRanges⟩,
  ⟨["ex", "extend"], graphemeExtensionRanges⟩,
  ⟨["zwj"], .ofTable "200D"⟩,
  ⟨["ri", "regionalindicator"], regionalIndicatorRanges⟩,
  ⟨["pp", "prepend"], prependedRanges⟩,
  ⟨["sm", "spacingmark"], spacingMarkRanges⟩,
  ⟨["l"], .ofTable "1100-115F A960-A97C"⟩,
  ⟨["v"], .ofTable "1160-11A7 D7B0-D7C6 16D63 16D67-16D6A"⟩,
  ⟨["t"], .ofTable "11A8-11FF D7CB-D7FB"⟩,
  ⟨["lv"], openSyllableRanges⟩,
  ⟨["lvt"], (Ranges.interval 0xAC00 0xD7A3).diff openSyllableRanges⟩]

/-! ## Words -/

/-- Characters that belong to the one before them. -/
def extensionRanges : Ranges :=
  graphemeExtensionRanges.union Category.mc.ranges

/-- The characters whose script has a code. -/
def scriptRanges (code : String) : Ranges :=
  ((script? code).map (·.ranges)).getD []

/-- Characters that make up words in Katakana. -/
def katakanaWordRanges : Ranges :=
  (scriptRanges "kana").union (.ofTable "3031-3035 309B-309C 30A0 30FC FF70")

/-- Letters of Hebrew. -/
def hebrewLetterRanges : Ranges :=
  (scriptRanges "hebr").inter Category.lo.ranges

/-- Letters of the scripts that are written without spaces and need a dictionary. -/
def unspacedLetterRanges : Ranges := .ofTable "
  E01-E30 E32-E33 E40-E46 E81-E82 E84 E86-E8A E8C-EA3 EA5 EA7-EB0 EB2-EB3 EBD EC0-EC4 EC6 EDC-EDF
  1000-102A 103F 1050-1055 105A-105D 1061 1065-1066 106E-1070 1075-1081 108E 1780-17B3 17D7 17DC
  1950-196D 1970-1974 1980-19AB 19B0-19C9 1A20-1A54 1AA7 A9E0-A9E4 A9E6-A9EF A9FA-A9FE AA60-AA76
  AA7A AA7E-AAAF AAB1 AAB5-AAB6 AAB9-AABD AAC0 AAC2 AADB-AADD 11700-1171A 11740-11746"

/-- Letters of the scripts that are written with spaces, and modifiers of letters. -/
def wordLetterRanges : Ranges :=
  (alphabeticRanges.union (.ofTable "
    2C2-2C5 2D2-2D7 2DE-2DF 2E5-2EB 2ED 2EF-2FF 55A-55C 55E 58A 5F3 70F A708-A716 A720-A721
    A789-A78A AB5B")).diff
      (.unions [ideographicRanges, katakanaWordRanges, scriptRanges "hira", extensionRanges,
        hebrewLetterRanges, unspacedLetterRanges])

/-- Digits and the characters that go with numbers. -/
def wordNumeralRanges : Ranges :=
  .unions [digitRanges, prependedMarkRanges.diff (.ofTable "70F"), .ofTable "66B"]

/-- The classes of characters at boundaries of words. -/
def wordBreaks : List BreakClass := [
  ⟨["cr"], .ofTable "D"⟩,
  ⟨["lf"], .ofTable "A"⟩,
  ⟨["nl", "newline"], .ofTable "B-C 85 2028-2029"⟩,
  ⟨["extend"], extensionRanges⟩,
  ⟨["zwj"], .ofTable "200D"⟩,
  ⟨["fo", "format"], Category.cf.ranges.diff
    (.unions [extensionRanges, prependedMarkRanges, .ofTable "200B-200D"])⟩,
  ⟨["ri", "regionalindicator"], regionalIndicatorRanges⟩,
  ⟨["ka", "katakana"], katakanaWordRanges⟩,
  ⟨["hl", "hebrewletter"], hebrewLetterRanges⟩,
  ⟨["le", "aletter"], wordLetterRanges⟩,
  ⟨["sq", "singlequote"], .ofTable "27"⟩,
  ⟨["dq", "doublequote"], .ofTable "22"⟩,
  ⟨["mb", "midnumlet"], .ofTable "2E 2018-2019 2024 FE52 FF07 FF0E"⟩,
  ⟨["ml", "midletter"], .ofTable "3A B7 387 55F 5F4 2027 FE13 FE55 FF1A"⟩,
  ⟨["mn", "midnum"], .ofTable "
    2C 3B 37E 589 60C-60D 66C 7F8 2044 FE10 FE14 FE50 FE54 FF0C FF1B"⟩,
  ⟨["nu", "numeric"], wordNumeralRanges⟩,
  ⟨["ex", "extendnumlet"], Category.pc.ranges.union (.ofTable "202F")⟩,
  ⟨["wsegspace"], Category.zs.ranges.diff (.ofTable "A0 2007 202F")⟩]

/-! ## Sentences -/

/-- Characters that belong to the one before them. -/
def sentenceExtensionRanges : Ranges :=
  .unions [joiningRanges, Category.mc.ranges, .ofTable "200D"]

/-- Lower-case letters, which do not start a sentence. -/
def sentenceLowerRanges : Ranges :=
  lowercaseRanges.diff (joiningRanges.union (.ofTable "10D0-10FA 10FD-10FF"))

/-- Upper-case letters, which start a sentence. -/
def sentenceUpperRanges : Ranges :=
  (uppercaseRanges.union Category.lt.ranges).diff (.ofTable "1C90-1CBA 1CBD-1CBF")

/-- Digits and the characters that go with numbers. -/
def sentenceNumeralRanges : Ranges :=
  wordNumeralRanges.union (.ofTable "66C")

/-- Full stops, which also end abbreviations. -/
def fullStopRanges : Ranges := .ofTable "2E 2024 FE52 FF0E"

/-- The classes of characters at boundaries of sentences. -/
def sentenceBreaks : List BreakClass := [
  ⟨["cr"], .ofTable "D"⟩,
  ⟨["lf"], .ofTable "A"⟩,
  ⟨["se", "sep"], .ofTable "85 2028-2029"⟩,
  ⟨["ex", "extend"], sentenceExtensionRanges⟩,
  ⟨["fo", "format"], Category.cf.ranges.diff
    (.unions [sentenceExtensionRanges, sentenceNumeralRanges, .ofTable "200C-200D"])⟩,
  ⟨["sp"], blankRanges.diff (.ofTable "A D 85 2028-2029")⟩,
  ⟨["lo", "lower"], sentenceLowerRanges⟩,
  ⟨["up", "upper"], sentenceUpperRanges⟩,
  ⟨["le", "oletter"], (alphabeticRanges.union (.ofTable "5F3")).diff
    (.unions [sentenceExtensionRanges, sentenceLowerRanges, sentenceUpperRanges])⟩,
  ⟨["nu", "numeric"], sentenceNumeralRanges⟩,
  ⟨["at", "aterm"], fullStopRanges⟩,
  ⟨["sc", "scontinue"], .ofTable "
    2C-2D 3A-3B 37E 55D 60C-60D 7F8 1802 1808 2013-2014 3001 FE10-FE11 FE13-FE14 FE31-FE32
    FE50-FE51 FE54-FE55 FE58 FE63 FF0C-FF0D FF1A-FF1B FF64"⟩,
  ⟨["st", "sterm"], sentenceTerminalRanges.diff fullStopRanges⟩,
  ⟨["cl", "close"], (Category.rangesOf [.ps, .pe, .pi, .pf]).union (.ofTable "
    22 27 275B-2760 2E00-2E01 2E06-2E08 2E0B 1F676-1F678")⟩]

end LineTemplate.Unicode
