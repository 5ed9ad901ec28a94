import CacheWarden.Text.CharProperty.Emoji
import CacheWarden.Text.CharProperty.Invisible

/-!
# Where a text may be cut between characters

The classes of characters that say which characters are seen as one. A syllable of Hangul is open
or closed.
-/

namespace CacheWarden.Text.Break

open CharProperty

/-- Characters that are not seen and stand alone. -/
def control : CharSet :=
  let unseen := Category.toSet fun c =>
    c == .lineSeparator || c == .paragraphSeparator || c == .control || c == .format
  let kept := CharSet.inter (Category.toSet (· == .unassigned)) ignorable
  CharSet.diff (CharSet.union unseen kept)
    (CharSet.union (CharSet.union extending prependedMark) (CharSet.ofText "A D 200D"))

/-- Characters that extend the one before them. -/
def extend : CharSet := CharSet.union extending emojiModifier

/-- Spacing marks that do not belong to the letter before them. -/
def looseMarks : String :=
  "102B-102C 1038 1062-1064 1067-106D 1083 1087-108C 108F 109A-109C 1A61 1A63-1A64 AA7B AA7D " ++
  "11720-11721"

/-- Spacing marks and vowels that belong to the letter before them. -/
def spacingMark : CharSet :=
  CharSet.union
    (CharSet.diff (Category.toSet (· == .spacing))
      (CharSet.union extending (CharSet.ofText looseMarks)))
    (CharSet.ofText "E33 EB3")

/-- Characters that belong to the one behind them. -/
def prepended : CharSet :=
  CharSet.union prependedMark
    (CharSet.ofText "D4E 111C2-111C3 113D1 1193F 11941 11A3A 11A84-11A89 11D46 11F02")

/-- How many syllables of Hangul have no consonant at their end. -/
def openSyllables : Nat := 399

/-- Syllables of Hangul that end in a vowel: every twenty-eighth one from the first. -/
def openSyllable : CharSet :=
  (List.range openSyllables).map fun i => (0xAC00 + 28 * i, 0xAC00 + 28 * i)

/-- Syllables of Hangul that end in a consonant: the twenty-seven behind each that ends in a
    vowel. -/
def closedSyllable : CharSet :=
  (List.range openSyllables).map fun i => (0xAC01 + 28 * i, 0xAC1B + 28 * i)

/-- The classes of characters between which a text may or may not be cut. -/
def graphemeClasses : List NamedSet :=
  [⟨["CR"], CharSet.ofText "D"⟩,
    ⟨["LF"], CharSet.ofText "A"⟩,
    ⟨["Control", "CN"], control⟩,
    ⟨["Extend", "EX"], extend⟩,
    ⟨["Prepend", "PP"], prepended⟩,
    ⟨["SpacingMark", "SM"], spacingMark⟩,
    ⟨["Regional_Indicator", "RI"], regionalIndicator⟩,
    ⟨["ZWJ"], CharSet.ofText "200D"⟩,
    ⟨["L"], CharSet.ofText "1100-115F A960-A97C"⟩,
    ⟨["V"], CharSet.ofText "1160-11A7 D7B0-D7C6 16D63 16D67-16D6A"⟩,
    ⟨["T"], CharSet.ofText "11A8-11FF D7CB-D7FB"⟩,
    ⟨["LV"], openSyllable⟩,
    ⟨["LVT"], closedSyllable⟩]

end CacheWarden.Text.Break
