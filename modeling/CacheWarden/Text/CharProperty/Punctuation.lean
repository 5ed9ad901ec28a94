import CacheWarden.Text.CharProperty

/-!
# Punctuation

Which marks are dashes, stand around quotations, or end a sentence or a part of it.
-/

namespace CacheWarden.Text.CharProperty

/-- Dashes: dash punctuation and a few signs that look like it. -/
def dash : CharSet := derived (· == .dash) "2053 207B 208B 2212"

/-- Dashes that join the parts of a word. -/
def hyphen : CharSet := CharSet.ofText "2D AD 58A 1806 2010-2011 2E17 30FB FE63 FF0D FF65"

/-- Marks around quotations. -/
def quotation : CharSet :=
  CharSet.ofText
    "22 27 AB BB 2018-201F 2039-203A 2E42 300C-300F 301D-301F FE41-FE44 FF02 FF07 FF62-FF63"

/-- Marks that end a sentence. -/
def sentenceEnd : CharSet :=
  CharSet.ofText
    ("21 2E 3F 589 61D-61F 6D4 700-702 7F9 837 839 83D-83E 964-965 104A-104B 1362 1367-1368 " ++
      "166E 1735-1736 17D4-17D5 1803 1809 1944-1945 1AA8-1AAB 1B4E-1B4F 1B5A-1B5B 1B5E-1B5F " ++
      "1B7D-1B7F 1C3B-1C3C 1C7E-1C7F 2024 203C-203D 2047-2049 2CF9-2CFB 2E2E 2E3C 2E53-2E54 " ++
      "3002 A4FF A60E-A60F A6F3 A6F7 A876-A877 A8CE-A8CF A92F A9C8-A9C9 AA5D-AA5F AAF0-AAF1 " ++
      "ABEB FE12 FE15-FE16 FE52 FE56-FE57 FF01 FF0E FF1F FF61 10A56-10A57 10F55-10F59 " ++
      "10F86-10F89 11047-11048 110BE-110C1 11141-11143 111C5-111C6 111CD 111DE-111DF " ++
      "11238-11239 1123B-1123C 112A9 113D4-113D5 1144B-1144C 115C2-115C3 115C9-115D7 " ++
      "11641-11642 1173C-1173E 11944 11946 11A42-11A43 11A9B-11A9C 11C41-11C42 11EF7-11EF8 " ++
      "11F43-11F44 16A6E-16A6F 16AF5 16B37-16B38 16B44 16D6E-16D6F 16E98 1BC9F 1DA88")

/-- Marks that end a part of a sentence but not the sentence. -/
def clauseEnd : CharSet :=
  CharSet.ofText
    ("2C 3A-3B 37E 387 5C3 60C 61B 703-70A 70C 7F8 830-835 838 83A-83C 85E E5A-E5B F08 F0D-F12 " ++
      "1361 1363-1366 16EB-16ED 17D6 17DA 1802 1804-1805 1808 1B5D 1C3D-1C3F 2E41 2E4C " ++
      "2E4E-2E4F 3001 A4FE A60D A6F4-A6F6 A9C7 AADF FE50-FE51 FE54-FE55 FF0C FF1A-FF1B FF64 " ++
      "1039F 103D0 10857 1091F 10AF0-10AF5 10B3A-10B3F 10B99-10B9C 11049-1104D 1123A 1144D " ++
      "1145A-1145B 115C4-115C5 11AA1-11AA2 11C43 11C71 12470-12474 16B39 16E97 1DA87 " ++
      "1DA89-1DA8A")

/-- Marks that end a sentence or a part of it. -/
def terminal : CharSet := CharSet.union sentenceEnd clauseEnd

/-- The properties of punctuation. -/
def punctuation : List NamedSet :=
  [⟨["Dash"], dash⟩,
    ⟨["Hyphen"], hyphen⟩,
    ⟨["Quotation_Mark", "QMark"], quotation⟩,
    ⟨["Sentence_Terminal", "STerm"], sentenceEnd⟩,
    ⟨["Terminal_Punctuation", "Term"], terminal⟩]

end CacheWarden.Text.CharProperty
