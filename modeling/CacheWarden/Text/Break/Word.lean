import CacheWarden.Text.CharProperty.Emoji
import CacheWarden.Text.CharProperty.Ideograph
import CacheWarden.Text.CharProperty.Invisible
import CacheWarden.Text.Script

/-!
# Where a text may be cut between words

The classes of characters that say where a word ends.
-/

namespace CacheWarden.Text.Break

open CharProperty

/-- Marks that part no two letters. -/
def midLetter : CharSet := CharSet.ofText "3A B7 387 55F 5F4 2027 FE13 FE55 FF1A"

/-- Marks that part neither two letters nor two digits. -/
def midNumLet : CharSet := CharSet.ofText "2E 2018-2019 2024 FE52 FF07 FF0E"

/-- Marks that part no two digits. -/
def midNum : CharSet := CharSet.ofText "2C 3B 37E 589 60C-60D 66C 7F8 2044 FE50 FE54 FF0C FF1B"

/-- The apostrophe. -/
def singleQuote : CharSet := CharSet.single '\''

/-- Marks that stand between two letters of a word. -/
def insideLetters : CharSet := CharSet.union (CharSet.union midLetter midNumLet) singleQuote

/-- The members of a script. -/
def scriptMembers (name : String) : CharSet :=
  ((Script.all.find? fun s => s.name == name).map Script.toSet).getD []

/-- Characters that extend a word whatever they stand behind. -/
def wordExtend : CharSet :=
  CharSet.union (CharSet.union extending (Category.toSet (· == .spacing))) emojiModifier

/-- Signs that enclose digits. The one that abbreviates words is not among them. -/
def numberSign : CharSet := CharSet.diff prependedMark (CharSet.ofText "70F")

/-- Digits, and signs that belong to numbers. -/
def wordNumeric : CharSet := CharSet.union (derived (· == .decimal) "66B 19DA") numberSign

/-- Format characters that are part of no number and do not join. -/
def wordFormat : CharSet :=
  CharSet.diff (Category.toSet (· == .format))
    (CharSet.union (CharSet.union wordExtend prependedMark) (CharSet.ofText "200B 200D"))

/-- Letters of Katakana, and the signs that are used with them. -/
def katakana : CharSet :=
  CharSet.union (scriptMembers "Katakana") (CharSet.ofText "3031-3035 309B-309C 30A0 30FC FF70")

/-- Letters of Hebrew. -/
def hebrewLetter : CharSet :=
  CharSet.inter (scriptMembers "Hebrew") (Category.toSet (· == .otherLetter))

/-- Letters of scripts that do not part their words. -/
def unparted : CharSet :=
  CharSet.ofText
    ("E01-E30 E32-E33 E40-E46 E81-E82 E84 E86-E8A E8C-EA3 EA5 EA7-EB0 EB2-EB3 EBD EC0-EC4 EC6 " ++
      "EDC-EDF 1000-102A 103F 1050-1055 105A-105D 1061 1065-1066 106E-1070 1075-1081 108E " ++
      "1780-17B3 17D7 17DC 1950-196D 1970-1974 1980-19AB 19B0-19C9 1A20-1A54 1AA7 A9E0-A9E4 " ++
      "A9E6-A9EF A9FA-A9FE AA60-AA76 AA7A AA7E-AAAF AAB1 AAB5-AAB6 AAB9-AABD AAC0 AAC2 " ++
      "AADB-AADD 11700-1171A 11740-11746")

/-- Signs that count as letters of words. -/
def letterLike : String :=
  "B8 2C2-2C5 2D2-2D7 2DE-2DF 2E5-2EB 2ED 2EF-2FF 55A-55C 55E 58A 5F3 70F A708-A716 A720-A721 " ++
  "A789-A78A AB5B"

/-- Letters of words, but for those that have a class of their own. -/
def wordLetter : CharSet :=
  let apart := [ideographic, katakana, scriptMembers "Hiragana", wordExtend, hebrewLetter, unparted]
  CharSet.union (apart.foldl CharSet.diff alphabetic) (CharSet.ofText letterLike)

/-- The classes of characters between which a text may or may not be cut into words. -/
def wordClasses : List NamedSet :=
  [⟨["CR"], CharSet.ofText "D"⟩,
    ⟨["LF"], CharSet.ofText "A"⟩,
    ⟨["Newline", "NL"], CharSet.ofText "B-C 85 2028-2029"⟩,
    ⟨["Double_Quote", "DQ"], CharSet.ofText "22"⟩,
    ⟨["Single_Quote", "SQ"], singleQuote⟩,
    ⟨["Extend"], wordExtend⟩,
    ⟨["ZWJ"], CharSet.ofText "200D"⟩,
    ⟨["Format", "FO"], wordFormat⟩,
    ⟨["Katakana", "KA"], katakana⟩,
    ⟨["Hebrew_Letter", "HL"], hebrewLetter⟩,
    ⟨["ALetter", "LE"], wordLetter⟩,
    ⟨["MidLetter", "ML"], midLetter⟩,
    ⟨["MidNum", "MN"], midNum⟩,
    ⟨["MidNumLet", "MB"], midNumLet⟩,
    ⟨["Numeric", "NU"], wordNumeric⟩,
    ⟨["ExtendNumLet", "EX"], derived (· == .connector) "202F"⟩,
    ⟨["Regional_Indicator", "RI"], regionalIndicator⟩,
    ⟨["WSegSpace"], CharSet.ofText "20 1680 2000-2006 2008-200A 205F 3000"⟩]

end CacheWarden.Text.Break
