import CacheWarden.Text.Break.Word
import CacheWarden.Text.CaseFold

/-!
# Case

Which characters have a case, which are passed over when words are capitalised, and which become
others when the case of a text is changed. The latter are found from the pairs of case folding and
short lists of the characters that become several ones, or that are folded to the other side.
-/

namespace CacheWarden.Text.CharProperty

/-- Characters that have a case. -/
def cased : CharSet :=
  CharSet.union (CharSet.union small capital) (Category.toSet (· == .title))

/-- Characters that do not end a word when the first letter of each word is made a capital. -/
def caseIgnorable : CharSet :=
  CharSet.union (Category.toSet fun c => c == .nonspacing || c == .enclosing || c == .format ||
    c == .modifierLetter || c == .modifierSymbol) Break.insideLetters

/-- Letters with a dot that goes away under a mark. -/
def softDotted : CharSet :=
  CharSet.ofText
    ("69-6A 12F 249 268 29D 2B2 3F3 456 458 1D62 1D96 1DA4 1DA8 1E2D 1ECB 2071 2148-2149 2C7C " ++
      "1D422-1D423 1D456-1D457 1D48A-1D48B 1D4BE-1D4BF 1D4F2-1D4F3 1D526-1D527 1D55A-1D55B " ++
      "1D58E-1D58F 1D5C2-1D5C3 1D5F6-1D5F7 1D62A-1D62B 1D65E-1D65F 1D692-1D693 1DF1A " ++
      "1E04C-1E04D 1E068")

/-- Characters that case folding maps to another one. -/
def foldSources : CharSet := CharSet.ofRanges (CaseFold.pairs.map fun p => (p.1, p.1))

/-- Characters to which case folding maps another one. -/
def foldTargets : CharSet := CharSet.ofRanges (CaseFold.pairs.map fun p => (p.2, p.2))

/-- A set without some characters and with some others. -/
def adjusted (s : CharSet) (without added : String) : CharSet :=
  CharSet.union (CharSet.diff s (CharSet.ofText without)) (CharSet.ofText added)

/-- Characters that case folding maps to one that they are equivalent to. -/
def equivalentToFolded : String := "1FBE 1FD3 1FE3"

/-- Characters that case folding makes several ones. -/
def foldedToSeveral : String :=
  "DF 130 149 587 1E9A 1F80-1F87 1F90-1F97 1FA0-1FA7 1FB2-1FB4 1FB7 1FC2-1FC4 1FC7 1FF2-1FF4 " ++
  "1FF7 FB00-FB04 FB06 FB13-FB17"

/-- Characters that change when a text is folded. -/
def changesWhenFolded : CharSet := adjusted foldSources equivalentToFolded foldedToSeveral

/-- Small letters that case folding maps to others. -/
def smallButFolded : String :=
  "B5 17F 345 3C2 3D0-3D1 3D5-3D6 3F0-3F1 3F5 13F8-13FD 1C80-1C88 1E9B 1FBE 1FD3 1FE3 AB70-ABBF " ++
  "FB05"

/-- Capital letters that case folding leaves alone, and one that becomes two characters. -/
def capitalButUnfolded : String := "130 13A0-13F5"

/-- Characters that change when a text is written in small letters. -/
def changesWhenSmall : CharSet := adjusted foldSources smallButFolded capitalButUnfolded

/-- Capital letters to which case folding maps others. -/
def capitalButTarget : String := "13A0-13F5"

/-- Small letters to which case folding maps nothing. -/
def smallButNoTarget : String :=
  "B5 131 149 17F 1C5 1C8 1CB 1F0 1F2 345 3C2 3D0-3D1 3D5-3D6 3F0-3F1 3F5 587 13F8-13FD " ++
  "1C80-1C88 1E96-1E9B 1F50 1F52 1F54 1F56 1F88-1F8F 1F98-1F9F 1FA8-1FAF 1FB2 1FB4 1FB6-1FB7 " ++
  "1FBC 1FBE 1FC2 1FC4 1FC6-1FC7 1FCC 1FD2-1FD3 1FD6-1FD7 1FE2-1FE4 1FE6-1FE7 1FF2 1FF4 " ++
  "1FF6-1FF7 1FFC AB70-ABBF FB00-FB05 FB13-FB17"

/-- Characters that change when a text is written in capital letters. -/
def changesWhenCapital : CharSet := adjusted foldTargets capitalButTarget smallButNoTarget

/-- Characters that have a capital form and start words as they are. -/
def titleLike : String :=
  "1C5 1C8 1CB 1F2 10D0-10FA 10FD-10FF 1F88-1F8F 1F98-1F9F 1FA8-1FAF 1FBC 1FCC 1FFC"

/-- Capital letters that do not start words as they are. -/
def doubleCapital : String := "1C4 1C7 1CA 1F1"

/-- Characters that change when they start a word. -/
def changesWhenTitle : CharSet := adjusted changesWhenCapital titleLike doubleCapital

/-- Characters that change when the case of a text is changed. -/
def changesWithCase : CharSet :=
  CharSet.union (CharSet.union changesWhenSmall changesWhenCapital) changesWhenTitle

/-- The properties of case. -/
def casing : List NamedSet :=
  [⟨["Cased"], cased⟩,
    ⟨["Case_Ignorable", "CI"], caseIgnorable⟩,
    ⟨["Soft_Dotted", "SD"], softDotted⟩,
    ⟨["Changes_When_Casefolded", "CWCF"], changesWhenFolded⟩,
    ⟨["Changes_When_Lowercased", "CWL"], changesWhenSmall⟩,
    ⟨["Changes_When_Uppercased", "CWU"], changesWhenCapital⟩,
    ⟨["Changes_When_Titlecased", "CWT"], changesWhenTitle⟩,
    ⟨["Changes_When_Casemapped", "CWCM"], changesWithCase⟩]

end CacheWarden.Text.CharProperty
