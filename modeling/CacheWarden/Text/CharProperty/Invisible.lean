import CacheWarden.Text.CharProperty

/-!
# Invisible characters

Characters that are not seen themselves but change how others are shown, and code points that are
for no use, or no longer.
-/

namespace CacheWarden.Text.CharProperty

/-- Characters that choose one of several shapes of the character before them. -/
def variationSelector : CharSet := CharSet.ofText "180B-180D 180F FE00-FE0F E0100-E01EF"

/-- Characters that join or part the characters on both sides. -/
def joinControl : CharSet := CharSet.ofText "200C-200D"

/-- Characters that turn the direction of writing. -/
def bidiControl : CharSet := CharSet.ofText "61C 200E-200F 202A-202E 2066-2069"

/-- Signs that stand before the digits which they enclose. -/
def prependedMark : CharSet := CharSet.ofText "600-605 6DD 70F 890-891 8E2 110BD 110CD"

/-- Characters that should not be used. -/
def deprecated : CharSet := CharSet.ofText "149 673 F77 F79 17A3-17A4 206A-206F 2329-232A E0001"

/-- Code points that are not shown and are neither format characters nor variation selectors. -/
def otherIgnorable : String :=
  "34F 115F-1160 17B4-17B5 2065 3164 FFA0 FFF0-FFF8 E0000 E0002-E001F E0080-E00FF E01F0-E0FFF"

/-- Format characters that are shown: annotations, and the signs that arrange hieroglyphs. -/
def shownFormat : CharSet := CharSet.ofText "FFF9-FFFB 13430-13440"

/-- Code points that are not shown where they have no effect. -/
def ignorable : CharSet :=
  CharSet.diff (CharSet.union (derived (· == .format) otherIgnorable) variationSelector)
    (CharSet.union prependedMark shownFormat)

/-- The last two code points of each of the seventeen planes. -/
def planeEnds : CharSet :=
  (List.range 17).map fun plane => (plane * 0x10000 + 0xFFFE, plane * 0x10000 + 0xFFFF)

/-- Code points that are for no characters. -/
def noncharacter : CharSet := CharSet.union [(0xFDD0, 0xFDEF)] planeEnds

/-- The properties of invisible characters. -/
def invisible : List NamedSet :=
  [⟨["Variation_Selector", "VS"], variationSelector⟩,
    ⟨["Join_Control", "Join_C"], joinControl⟩,
    ⟨["Bidi_Control", "Bidi_C"], bidiControl⟩,
    ⟨["Prepended_Concatenation_Mark", "PCM"], prependedMark⟩,
    ⟨["Deprecated", "Dep"], deprecated⟩,
    ⟨["Default_Ignorable_Code_Point", "DI"], ignorable⟩,
    ⟨["Other_Default_Ignorable_Code_Point", "ODI"], CharSet.ofText otherIgnorable⟩,
    ⟨["Noncharacter_Code_Point", "NChar"], noncharacter⟩]

end CacheWarden.Text.CharProperty
