/-
  Wayfinder/Unicode/Segmentation.lean
  ===================================
  **Classes that say where a text can be divided.**

  Three properties sort characters by how they behave at the ends of what a reader takes
  for a character, of words and of sentences.  Most classes follow from categories and
  other properties; the rest are listed.
-/
import Wayfinder.Unicode.CodeSet
import Wayfinder.Unicode.Category
import Wayfinder.Unicode.Script
import Wayfinder.Unicode.Property

namespace Wayfinder.Unicode.Segmentation

open Property

/-! ## 1. Common classes -/

/-- The elements of the first set that are in none of the others. -/
def without (s : CodeSet) (others : List CodeSet) : CodeSet := s.diff (.unions others)

/-- The carriage return. -/
def carriageReturn : CodeSet := .single 0xD

/-- The line feed. -/
def lineFeed : CodeSet := .single 0xA

/-- The joiner of width zero. -/
def joiner : CodeSet := .single 0x200D

/-- Marks, which belong to the character before them. -/
def attached : CodeSet := graphemeExtend.union Category.spacingMark

/-- The sign that abbreviates a Syriac word, the only mark before letters. -/
def abbreviationMark : CodeSet := .single 0x70F

/-- The signs that stand before a number. -/
def numberMark : CodeSet := prependedMark.diff abbreviationMark

/-- Format characters that stand for themselves. -/
def plainFormat : CodeSet := without Category.format [joinControl, prependedMark, graphemeExtend]

/-- The class with a name in normal form. -/
def named? (classes : List (List String × CodeSet)) (name : String) : Option CodeSet :=
  (classes.find? fun entry => entry.1.contains name).map (·.2)

/-! ## 2. Characters as readers see them -/

/-- Consonants that are written before the syllable that they belong to. -/
def leadingConsonant : CodeSet := .ofTable
  "D4E 111C2-111C3 113D1 1193F 11941 11A3A 11A84-11A89 11D46 11F02"

/-- Characters that the next one joins. -/
def prepended : CodeSet := prependedMark.union leadingConsonant

/-- Spacing marks after which a new character starts. -/
def looseMark : CodeSet := .ofTable
  "102B-102C 1038 1062-1064 1067-106D 1083 1087-108C 108F 109A-109C 1A61 1A63-1A64 AA7B AA7D
    11720-11721"

/-- Spacing marks, and two vowels that behave like them. -/
def spacing : CodeSet :=
  (without Category.spacingMark [graphemeExtend, looseMark]).union (.ofTable "E33 EB3")

/-- Characters that join none. -/
def separating : CodeSet :=
  without
    (.unions [Category.lineSeparator, Category.paragraphSeparator, Category.control,
      Category.format, Category.unassigned.inter defaultIgnorable])
    [carriageReturn, lineFeed, joinControl, prependedMark, graphemeExtend]

/-- Korean syllables, the first without a final consonant and every twenty-eighth after
    it. -/
def openSyllable : CodeSet := ⟨(List.range 399).map fun i => (0xAC00 + 28 * i, 0xAC00 + 28 * i)⟩

/-- The other Korean syllables. -/
def closedSyllable : CodeSet := (CodeSet.range 0xAC00 0xD7A3).diff openSyllable

/-- The classes of Grapheme_Cluster_Break, with their names in normal form. -/
def graphemeBreaks : List (List String × CodeSet) :=
  [(["control", "cn"], separating),
   (["cr"], carriageReturn),
   (["extend", "ex"], graphemeExtend.union emojiModifier),
   (["l"], .ofTable "1100-115F A960-A97C"),
   (["lf"], lineFeed),
   (["lv"], openSyllable),
   (["lvt"], closedSyllable),
   (["prepend", "pp"], prepended),
   (["regionalindicator", "ri"], regionalIndicator),
   (["spacingmark", "sm"], spacing),
   (["t"], .ofTable "11A8-11FF D7CB-D7FB"),
   (["v"], .ofTable "1160-11A7 D7B0-D7C6 16D63 16D67-16D6A"),
   (["zwj"], joiner)]

/-! ## 3. Words -/

/-- Letters of scripts that are written without spaces and divided by meaning. -/
def complexContext : CodeSet := .ofTable
  "E01-E3A E40-E4E E81-E82 E84 E86-E8A E8C-EA3 EA5 EA7-EBD EC0-EC4 EC6 EC8-ECE EDC-EDF
    1000-103F 1050-108F 109A-109F 1780-17D3 17D7 17DC-17DD 1950-196D 1970-1974 1980-19AB
    19B0-19C9 19DA 19DE-19DF 1A20-1A5E 1A60-1A7C 1AA0-1AAD A9E0-A9EF A9FA-A9FE AA60-AAC2
    AADB-AADF 11700-1171A 1171D-1172B 1173A-1173B 1173F-11746"

/-- Letters of the script Katakana, and what is written among them. -/
def katakana : CodeSet :=
  Script.katakana.characters.union (.ofTable "3031-3035 309B-309C 30A0 30FC FF70")

/-- Hebrew letters. -/
def hebrewLetter : CodeSet := Script.hebrew.characters.inter Category.otherLetter

/-- Signs that count as letters. -/
def letterSign : CodeSet := .ofTable
  "B8 2C2-2C5 2D2-2D7 2DE-2DF 2E5-2EB 2ED 2EF-2FF 55A-55C 55E 58A 5F3 70F A708-A716
    A720-A721 A789-A78A AB5B"

/-- Letters of scripts that divide words by spaces. -/
def spacedLetter : CodeSet :=
  without (alphabetic.union letterSign)
    [ideographic, katakana, hebrewLetter, complexContext, Script.hiragana.characters, attached]

/-- Digits, and the Arabic sign between whole and part. -/
def numeric : CodeSet := .unions [Category.decimalNumber, .single 0x66B, numberMark]

/-- The classes of Word_Break, with their names in normal form. -/
def wordBreaks : List (List String × CodeSet) :=
  [(["aletter", "le"], spacedLetter),
   (["cr"], carriageReturn),
   (["doublequote", "dq"], .single 0x22),
   (["extend"], (attached.union emojiModifier).diff joiner),
   (["extendnumlet", "ex"], Category.connectorPunctuation.union (.single 0x202F)),
   (["format", "fo"], plainFormat.diff (.single 0x200B)),
   (["hebrewletter", "hl"], hebrewLetter),
   (["katakana", "ka"], katakana),
   (["lf"], lineFeed),
   (["midletter", "ml"], .ofTable "3A B7 387 55F 5F4 2027 FE13 FE55 FF1A"),
   (["midnum", "mn"],
     .ofTable "2C 3B 37E 589 60C-60D 66C 7F8 2044 FE10 FE14 FE50 FE54 FF0C FF1B"),
   (["midnumlet", "mb"], .ofTable "2E 2018-2019 2024 FE52 FF07 FF0E"),
   (["newline", "nl"], .ofTable "B-C 85 2028-2029"),
   (["numeric", "nu"], numeric),
   (["regionalindicator", "ri"], regionalIndicator),
   (["singlequote", "sq"], .single 0x27),
   (["wsegspace"], .ofTable "20 1680 2000-2006 2008-200A 205F 3000"),
   (["zwj"], joiner)]

/-! ## 4. Sentences -/

/-- Full stops, which may also end an abbreviation. -/
def fullStop : CodeSet := .ofTable "2E 2024 FE52 FF0E"

/-- Other signs that end a sentence. -/
def sentenceEnd : CodeSet := sentenceTerminal.diff fullStop

/-- The signs that end a paragraph. -/
def paragraphEnd : CodeSet := .ofTable "85 2028-2029"

/-- Quotation marks that open and close alike. -/
def neutralQuote : CodeSet := .ofTable "22 27 275B-2760 2E00-2E01 2E06-2E08 2E0B 1F676-1F678"

/-- Georgian letters, which have capitals but start no sentence. -/
def georgian : CodeSet := .ofTable "10D0-10FA 10FD-10FF 1C90-1CBA 1CBD-1CBF"

/-- Small letters. -/
def smallLetter : CodeSet := without lowercase [georgian, attached]

/-- Capitals. -/
def capital : CodeSet := without (Category.titlecaseLetter.union uppercase) [georgian]

/-- Letters that are neither. -/
def otherLetter : CodeSet :=
  without (.unions [alphabetic, .single 0x5F3, abbreviationMark])
    [smallLetter, capital, attached]

/-- Brackets and quotation marks. -/
def closing : CodeSet :=
  without
    (.unions [Category.openPunctuation, Category.closePunctuation, Category.initialPunctuation,
      Category.finalPunctuation, neutralQuote])
    [fullStop, sentenceEnd]

/-- Blanks within a line. -/
def blank : CodeSet := without whiteSpace [paragraphEnd, carriageReturn, lineFeed]

/-- The classes of Sentence_Break, with their names in normal form. -/
def sentenceBreaks : List (List String × CodeSet) :=
  [(["aterm", "at"], fullStop),
   (["close", "cl"], closing),
   (["cr"], carriageReturn),
   (["extend", "ex"], attached.union joiner),
   (["format", "fo"], plainFormat),
   (["lf"], lineFeed),
   (["lower", "lo"], smallLetter),
   (["numeric", "nu"], numeric.union (.single 0x66C)),
   (["oletter", "le"], otherLetter),
   (["scontinue", "sc"],
     .ofTable
       "2C-2D 3A-3B 37E 55D 60C-60D 7F8 1802 1808 2013-2014 3001 FE10-FE11 FE13-FE14 FE31-FE32
         FE50-FE51 FE54-FE55 FE58 FE63 FF0C-FF0D FF1A-FF1B FF64"),
   (["sep", "se"], paragraphEnd),
   (["sp"], blank),
   (["sterm", "st"], sentenceEnd),
   (["upper", "up"], capital)]

end Wayfinder.Unicode.Segmentation
