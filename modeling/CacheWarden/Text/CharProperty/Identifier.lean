import CacheWarden.Text.CharProperty

/-!
# Identifiers

With which characters the names in a formal language can start and go on, and which ones are kept
for the signs and blanks of such a language.
-/

namespace CacheWarden.Text.CharProperty

/-- Characters that are kept for the signs of formal languages. -/
def patternSyntax : CharSet :=
  CharSet.ofText
    ("21-2F 3A-40 5B-5E 60 7B-7E A1-A7 A9 AB-AC AE B0-B1 B6 BB BF D7 F7 2010-2027 2030-203E " ++
      "2041-2053 2055-205E 2190-245F 2500-2775 2794-2BFF 2E00-2E7F 3001-3003 3008-3020 3030 " ++
      "FD3E-FD3F FE45-FE46")

/-- Blanks of formal languages. -/
def patternBlank : CharSet := CharSet.ofText "9-D 20 85 200E-200F 2028-2029"

/-- Characters that start names and are neither letters nor numbers. -/
def otherStart : String := "1885-1886 2118 212E 309B-309C"

/-- Characters in names that neither start them nor are marks, digits or connectors. -/
def otherPart : String := "B7 387 1369-1371 19DA 200C-200D 30FB FF65"

/-- Characters with which a name starts: letters, and numbers that are letters, unless they are
    kept for signs. -/
def idStart : CharSet :=
  CharSet.diff (derived (fun c => c.isLetter || c == .letterNumber) otherStart) patternSyntax

/-- Characters with which a name goes on and does not start. -/
def idPart : CharSet :=
  derived (fun c => c == .nonspacing || c == .spacing || c == .decimal || c == .connector) otherPart

/-- Characters with which a name goes on. -/
def idContinue : CharSet := CharSet.union idStart idPart

/-- Characters of names that stand for several characters, the first of which is in no name. -/
def unstable : CharSet :=
  CharSet.ofText "37A 309B-309C FC5E-FC63 FDFA-FDFB FE70 FE72 FE74 FE76 FE78 FE7A FE7C FE7E"

/-- Characters that start names and stand for several characters, the first of which starts none. -/
def unstableStart : CharSet := CharSet.ofText "E33 EB3 FF9E-FF9F"

/-- Characters with which a name starts whatever way its characters are written. -/
def xidStart : CharSet := CharSet.diff idStart (CharSet.union unstable unstableStart)

/-- Characters with which a name goes on whatever way its characters are written. -/
def xidContinue : CharSet := CharSet.diff idContinue unstable

/-- Mathematical signs that may start a name. -/
def mathStart : CharSet :=
  CharSet.ofText "2202 2207 221E 1D6C1 1D6DB 1D6FB 1D715 1D735 1D74F 1D76F 1D789 1D7A9 1D7C3"

/-- Raised and lowered signs with which a name may go on. -/
def mathPart : CharSet := CharSet.ofText "B2-B3 B9 2070 2074-207E 2080-208E"

/-- Mathematical signs with which a name may go on. -/
def mathContinue : CharSet := CharSet.union mathStart mathPart

/-- The properties of characters in names. -/
def identifiers : List NamedSet :=
  [⟨["ID_Start", "IDS"], idStart⟩,
    ⟨["ID_Continue", "IDC"], idContinue⟩,
    ⟨["XID_Start", "XIDS"], xidStart⟩,
    ⟨["XID_Continue", "XIDC"], xidContinue⟩,
    ⟨["Other_ID_Start", "OIDS"], CharSet.ofText otherStart⟩,
    ⟨["Other_ID_Continue", "OIDC"], CharSet.ofText otherPart⟩,
    ⟨["ID_Compat_Math_Start"], mathStart⟩,
    ⟨["ID_Compat_Math_Continue"], mathContinue⟩,
    ⟨["Pattern_Syntax", "Pat_Syn"], patternSyntax⟩,
    ⟨["Pattern_White_Space", "Pat_WS"], patternBlank⟩]

end CacheWarden.Text.CharProperty
