/-
The classes of characters that decide where a text may be cut.

* `Segment.grapheme?` finds a class of the rules that keep a character and its marks together;
* `Segment.word?` finds a class of the rules for words, `Segment.sentence?` one of those for
  sentences, each by its loose name.

Design notes: the classes follow the annex of the standard on text segmentation.  Most are
built from categories and properties, and the exceptions are small tables.
-/
import SourceRetrieval.Unicode.Trait
import SourceRetrieval.Unicode.Script

namespace SourceRetrieval.Unicode.Segment

open Category Trait

/-- The carriage return. -/
def carriageReturn : CodeSet := .single '\r'

/-- The line feed. -/
def lineFeed : CodeSet := .single '\n'

/-- The zero-width joiner. -/
def joiner : CodeSet := .ofText "200D"

/-- Signs that are written before a number and span its digits. -/
def numberSign : CodeSet := .minus prependedConcatenationMark (.ofText "70F")

/-- The tags of a sequence of pictures. -/
def tag : CodeSet := .ofText "E0020-E007F"

/-- What extends the character before. -/
def graphemeExtension : CodeSet := .union graphemeExtend emojiModifier

/-- Syllables of Hangul without a final consonant. -/
def openSyllable : CodeSet := .ofText "AC00-D788/1C"

/-- Marks that keep room of their own beside the character before. -/
def spacingExtension : CodeSet :=
  .minus (.union spacingMark (.ofText "E33 EB3"))
    (.union graphemeExtension (.ofText
      "102B-102C 1038 1062-1064 1067-106D 1083 1087-108C 108F 109A-109C 1A61 1A63-1A64 AA7B
       AA7D 11720-11721"))

/-- Characters that are cut off from both neighbours. -/
def graphemeControl : CodeSet :=
  .minus
    (.unions [lineSeparator, paragraphSeparator, control, .inter unassigned defaultIgnorable,
      format])
    (.unions [carriageReturn, lineFeed, joiner, .ofText "200C", prependedConcatenationMark, tag])

/-- The class of a loose name among those that keep a character and its marks together. -/
def grapheme? (name : String) : Option CodeSet :=
  match name with
  | "cn" | "control" => some graphemeControl
  | "cr" => some carriageReturn
  | "ex" | "extend" => some graphemeExtension
  | "l" => some (.ofText "1100-115F A960-A97C")
  | "lf" => some lineFeed
  | "lv" => some openSyllable
  | "lvt" => some (.minus (.ofText "AC00-D7A3") openSyllable)
  | "pp" | "prepend" =>
    some (.union prependedConcatenationMark (.ofText
      "D4E 111C2-111C3 113D1 1193F 11941 11A3A 11A84-11A89 11D46 11F02"))
  | "ri" | "regionalindicator" => some regionalIndicator
  | "sm" | "spacingmark" => some spacingExtension
  | "t" => some (.ofText "11A8-11FF D7CB-D7FB")
  | "v" => some (.ofText "1160-11A7 D7B0-D7C6 16D63 16D67-16D6A")
  | "zwj" => some joiner
  | _ => none

/-- What extends the character before within a word. -/
def wordExtension : CodeSet := .unions [graphemeExtend, spacingMark, emojiModifier]

/-- The letters of Katakana, and the marks that lengthen them. -/
def katakana : CodeSet :=
  .union ((Script.named? "kana").getD .empty) (.ofText "3031-3035 309B-309C 30A0 30FC FF70")

/-- The letters of Hebrew. -/
def hebrewLetter : CodeSet := .inter ((Script.named? "hebr").getD .empty) otherLetter

/-- The letters of scripts that write no blanks between words. -/
def unspacedLetter : CodeSet :=
  .ofText
    "E01-E30 E32-E33 E40-E46 E81-E82 E84 E86-E8A E8C-EA3 EA5 EA7-EB0 EB2-EB3 EBD EC0-EC4 EC6
     EDC-EDF 1000-102A 103F 1050-1055 105A-105D 1061 1065-1066 106E-1070 1075-1081 108E
     1780-17B3 17D7 17DC 1950-196D 1970-1974 1980-19AB 19B0-19C9 1A20-1A54 1AA7 A9E0-A9E4
     A9E6-A9EF A9FA-A9FE AA60-AA76 AA7A AA7E-AAAF AAB1 AAB5-AAB6 AAB9-AABD AAC0 AAC2 AADB-AADD
     11700-1171A 11740-11746"

/-- Signs that count as letters of a word. -/
def letterlike : CodeSet :=
  .ofText
    "2C2-2C5 2D2-2D7 2DE-2DF 2E5-2EB 2ED 2EF-2FF 55A-55C 55E 58A 5F3 70F A708-A716 A720-A721
     A789-A78A AB5B"

/-- The letters that words are made of. -/
def wordLetter : CodeSet :=
  .union letterlike
    (.minus alphabetic
      (.unions [ideographic, katakana, hebrewLetter, wordExtension,
        (Script.named? "hira").getD .empty, unspacedLetter]))

/-- The class of a loose name among those of the rules for words. -/
def word? (name : String) : Option CodeSet :=
  match name with
  | "le" | "aletter" => some wordLetter
  | "cr" => some carriageReturn
  | "dq" | "doublequote" => some (.single '"')
  | "extend" => some wordExtension
  | "ex" | "extendnumlet" => some (.union connectorPunctuation (.ofText "202F"))
  | "fo" | "format" =>
    some (.minus format
      (.unions [joiner, .ofText "200B-200C", prependedConcatenationMark, tag]))
  | "hl" | "hebrewletter" => some hebrewLetter
  | "ka" | "katakana" => some katakana
  | "lf" => some lineFeed
  | "ml" | "midletter" => some (.ofText "3A B7 387 55F 5F4 2027 FE13 FE55 FF1A")
  | "mn" | "midnum" =>
    some (.ofText "2C 3B 37E 589 60C-60D 66C 7F8 2044 FE50 FE54 FF0C FF1B")
  | "mb" | "midnumlet" => some (.ofText "2E 2018-2019 2024 FE52 FF07 FF0E")
  | "nl" | "newline" => some (.ofText "B-C 85 2028-2029")
  | "nu" | "numeric" => some (.unions [decimalNumber, numberSign, .ofText "66B 19DA"])
  | "ri" | "regionalindicator" => some regionalIndicator
  | "sq" | "singlequote" => some (.single '\'')
  | "wsegspace" => some (.ofText "20 1680 2000-2006 2008-200A 205F 3000")
  | "zwj" => some joiner
  | _ => none

/-- Punctuation that may end a sentence or stand within one. -/
def ambiguousEnd : CodeSet := .ofText "2E 2024 FE52 FF0E"

/-- What extends the character before within a sentence. -/
def sentenceExtension : CodeSet := .unions [graphemeExtend, spacingMark, joiner]

/-- Small letters of a sentence. -/
def sentenceLower : CodeSet :=
  .minus Trait.lowercase (.union graphemeExtend (.ofText "10D0-10FA 10FD-10FF"))

/-- Capitals of a sentence. -/
def sentenceUpper : CodeSet :=
  .minus (.union uppercase titlecaseLetter) (.ofText "1C90-1CBA 1CBD-1CBF")

/-- The class of a loose name among those of the rules for sentences. -/
def sentence? (name : String) : Option CodeSet :=
  match name with
  | "at" | "aterm" => some ambiguousEnd
  | "cl" | "close" =>
    some (.minus
      (.unions [openPunctuation, closePunctuation, quotationMark,
        .ofText "275B-2760 2E00-2E0D 2E1C-2E1D 2E20-2E21 1F676-1F678"])
      (.ofText "FF02 FF07"))
  | "cr" => some carriageReturn
  | "ex" | "extend" => some sentenceExtension
  | "fo" | "format" =>
    some (.minus format (.unions [joiner, .ofText "200C", numberSign, tag]))
  | "le" | "oletter" =>
    some (.minus (.union alphabetic (.ofText "5F3"))
      (.unions [sentenceLower, sentenceUpper, sentenceExtension]))
  | "lf" => some lineFeed
  | "lo" | "lower" => some sentenceLower
  | "nu" | "numeric" => some (.unions [decimalNumber, numberSign, .ofText "66B-66C 19DA"])
  | "sc" | "scontinue" =>
    some (.ofText
      "2C-2D 3A-3B 37E 55D 60C-60D 7F8 1802 1808 2013-2014 3001 FE10-FE11 FE13-FE14 FE31-FE32
       FE50-FE51 FE54-FE55 FE58 FE63 FF0C-FF0D FF1A-FF1B FF64")
  | "se" | "sep" => some (.ofText "85 2028-2029")
  | "sp" => some (.ofText "9 B-C 20 A0 1680 2000-200A 202F 205F 3000")
  | "st" | "sterm" => some (.minus sentenceTerminal ambiguousEnd)
  | "up" | "upper" => some sentenceUpper
  | _ => none

end SourceRetrieval.Unicode.Segment
