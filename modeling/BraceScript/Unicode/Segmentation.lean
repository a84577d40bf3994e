import BraceScript.Unicode.Scripts
import BraceScript.Unicode.Sets

namespace BraceScript.Unicode

def script? (name : String) : Option CharSet := find? scriptTables name

def scriptChars (name : String) : CharSet := (script? name).getD .empty

def joiner : CharSet := .range 0x200D 0x200D
def spacingMarks : CharSet := category ["mc"]
def emojiModifiers : CharSet := findAll propertyTables ["emojimodifier"]
def regionalIndicators : CharSet := findAll propertyTables ["regionalindicator"]

def prependedMarks : CharSet := findAll propertyTables ["pcm"]

def prependedLetters : CharSet := .ofTable
  "D4E 111C2-111C3 113D1 1193F 11941 11A3A 11A84-11A89 11D46 11F02"

def freeMarks : CharSet := .ofTable
  "102B-102C 1038 1062-1064 1067-106D 1083 1087-108C 108F 109A-109C 1A61 1A63-1A64 AA7B AA7D
  11720-11721"

def graphemeExtenders : CharSet := (graphemeExtend.union emojiModifiers).diff joiner

/-- The syllables of two sounds, each followed by the 27 that add a third to it. -/
def openSyllables : CharSet := ⟨(List.range 399).map fun i ↦ (0xAC00 + 28 * i, 0xAC00 + 28 * i)⟩

def graphemeBreak? (name : String) : Option CharSet :=
  match name with
  | "cr" => some (.ofChar '\r')
  | "lf" => some (.ofChar '\n')
  | "zwj" => some joiner
  | "ri" | "regionalindicator" => some regionalIndicators
  | "pp" | "prepend" => some (prependedMarks.union prependedLetters)
  | "ex" | "extend" => some graphemeExtenders
  | "cn" | "control" =>
    let hidden := (findAll propertyTables ["di"]).diff assigned
    let controls := (category ["zl", "zp", "cc", "cf"]).union hidden
    some (controls.diff (.unionAll [.ofTable "A D", joiner, prependedMarks, graphemeExtenders]))
  | "sm" | "spacingmark" =>
    some ((spacingMarks.union (.ofTable "E33 EB3")).diff (graphemeExtenders.union freeMarks))
  | "l" => some (.ofTable "1100-115F A960-A97C")
  | "v" => some (.ofTable "1160-11A7 D7B0-D7C6 16D63 16D67-16D6A")
  | "t" => some (.ofTable "11A8-11FF D7CB-D7FB")
  | "lv" => some openSyllables
  | "lvt" => some ((CharSet.range 0xAC00 0xD7A3).diff openSyllables)
  | _ => none

def contextLetters : CharSet := .ofTable
  "E01-E3A E40-E4E E81-E82 E84 E86-E8A E8C-EA3 EA5 EA7-EBD EC0-EC4 EC6 EC8-ECE EDC-EDF 1000-103F
  1050-108F 109A-109F 1780-17D3 17D7 17DC-17DD 1950-196D 1970-1974 1980-19AB 19B0-19C9 19DE-19DF
  1A20-1A5E 1A60-1A7C 1AA0-1AAD A9E0-A9EF A9FA-A9FE AA60-AAC2 AADB-AADF 11700-1171A 1171D-1172B
  1173A-1173B 1173F-11746"

def wordSigns : CharSet := .ofTable
  "2C2-2C5 2D2-2D7 2DE-2DF 2E5-2EB 2ED 2EF-2FF 55A-55C 55E 58A 5F3 70F A708-A716 A720-A721 A789-A78A
  AB5B"

def wordExtenders : CharSet := (graphemeExtenders.union spacingMarks).diff joiner

def wordNumbers : CharSet :=
  .unionAll [digits, .ofTable "66B 19DA", prependedMarks.diff (.ofTable "70F")]

def wordKatakana : CharSet :=
  (scriptChars "katakana").union (.ofTable "3031-3035 309B-309C 30A0 30FC FF70")

def hebrewLetters : CharSet := (scriptChars "hebrew").inter (category ["lo"])

def wordBreak? (name : String) : Option CharSet :=
  match name with
  | "cr" => some (.ofChar '\r')
  | "lf" => some (.ofChar '\n')
  | "nl" | "newline" => some (.ofTable "B-C 85 2028-2029")
  | "zwj" => some joiner
  | "ri" | "regionalindicator" => some regionalIndicators
  | "extend" => some wordExtenders
  | "fo" | "format" =>
    some ((category ["cf"]).diff (.unionAll [.ofTable "200B-200D", wordExtenders, prependedMarks]))
  | "ka" | "katakana" => some wordKatakana
  | "hl" | "hebrewletter" => some hebrewLetters
  | "le" | "aletter" =>
    let others := [findAll propertyTables ["ideographic"], wordKatakana, contextLetters,
      scriptChars "hiragana", wordExtenders, hebrewLetters]
    some ((alphabetic.union wordSigns).diff (.unionAll others))
  | "dq" | "doublequote" => some (.ofChar '"')
  | "sq" | "singlequote" => some (.ofChar '\x27')
  | "ml" | "midletter" => some (.ofTable "3A B7 387 55F 5F4 2027 FE13 FE55 FF1A")
  | "mn" | "midnum" =>
    some (.ofTable "2C 3B 37E 589 60C-60D 66C 7F8 2044 FE50 FE54 FF0C FF1B")
  | "mb" | "midnumlet" => some (.ofTable "2E 2018-2019 2024 FE52 FF07 FF0E")
  | "nu" | "numeric" => some wordNumbers
  | "ex" | "extendnumlet" => some ((category ["pc"]).union (.ofTable "202F"))
  | "wsegspace" => some ((category ["zs"]).diff (.ofTable "A0 2007 202F"))
  | _ => none

def quotes : CharSet := .ofTable
  "22 27 AB BB 2018-2019 201B-201D 201F 2039-203A 275B-2760 2E00-2E0D 2E1C-2E1D 2E20-2E21
  1F676-1F678"

def fullStops : CharSet := .ofTable "2E 2024 FE52 FF0E"

def caselessPairs : CharSet := .ofTable "10D0-10FA 10FD-10FF 1C90-1CBA 1CBD-1CBF"

def paragraphEnds : CharSet := .ofTable "85 2028-2029"

def sentenceExtenders : CharSet := .unionAll [graphemeExtend, spacingMarks, joiner]

def sentenceLower : CharSet := lowercase.diff (graphemeExtend.union caselessPairs)

def sentenceUpper : CharSet := (uppercase.union (category ["lt"])).diff caselessPairs

def sentenceBreak? (name : String) : Option CharSet :=
  match name with
  | "cr" => some (.ofChar '\r')
  | "lf" => some (.ofChar '\n')
  | "se" | "sep" => some paragraphEnds
  | "ex" | "extend" => some sentenceExtenders
  | "fo" | "format" => some ((category ["cf"]).diff (sentenceExtenders.union wordNumbers))
  | "sp" => some (blanks.diff (paragraphEnds.union (.ofTable "A D")))
  | "lo" | "lower" => some sentenceLower
  | "up" | "upper" => some sentenceUpper
  | "le" | "oletter" =>
    let others := [sentenceLower, sentenceUpper, sentenceExtenders]
    some ((alphabetic.union (.ofTable "5F3")).diff (.unionAll others))
  | "nu" | "numeric" => some (wordNumbers.union (.ofTable "66C"))
  | "at" | "aterm" => some fullStops
  | "sc" | "scontinue" =>
    some (.ofTable
      "2C-2D 3A-3B 37E 55D 60C-60D 7F8 1802 1808 2013-2014 3001 FE10-FE11 FE13-FE14 FE31-FE32
      FE50-FE51 FE54-FE55 FE58 FE63 FF0C-FF0D FF1A-FF1B FF64")
  | "st" | "sterm" => some ((findAll propertyTables ["sterm"]).diff fullStops)
  | "cl" | "close" => some ((category ["ps", "pe"]).union quotes)
  | _ => none

end BraceScript.Unicode
