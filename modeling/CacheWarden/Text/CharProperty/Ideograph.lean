import CacheWarden.Text.CharProperty

/-!
# Ideographs

Characters that stand for words or ideas, the parts they are made of, and the signs that describe
how they are put together.
-/

namespace CacheWarden.Text.CharProperty

/-- Ideographs of all scripts. -/
def ideographic : CharSet :=
  CharSet.ofText
    ("3006-3007 3021-3029 3038-303A 3400-4DBF 4E00-9FFF F900-FA6D FA70-FAD9 16FE4 17000-187F7 " ++
      "18800-18CD5 18CFF-18D08 1B170-1B2FB 20000-2A6DF 2A700-2B739 2B740-2B81D 2B820-2CEA1 " ++
      "2CEB0-2EBE0 2EBF0-2EE5D 2F800-2FA1D 30000-3134A 31350-323AF")

/-- Ideographs that several languages share. -/
def unifiedIdeograph : CharSet :=
  CharSet.ofText
    ("3400-4DBF 4E00-9FFF FA0E-FA0F FA11 FA13-FA14 FA1F FA21 FA23-FA24 FA27-FA29 20000-2A6DF " ++
      "2A700-2B739 2B740-2B81D 2B820-2CEA1 2CEB0-2EBE0 2EBF0-2EE5D 30000-3134A 31350-323AF")

/-- Parts of ideographs. -/
def radical : CharSet := CharSet.ofText "2E80-2E99 2E9B-2EF3 2F00-2FD5"

/-- Signs that describe an ideograph made of one part. -/
def unaryDescription : CharSet := CharSet.ofText "2FFE-2FFF"

/-- Signs that describe an ideograph made of two parts. -/
def binaryDescription : CharSet := CharSet.ofText "2FF0-2FF1 2FF4-2FFD 31EF"

/-- Signs that describe an ideograph made of three parts. -/
def trinaryDescription : CharSet := CharSet.ofText "2FF2-2FF3"

/-- The properties of ideographs. -/
def ideographs : List NamedSet :=
  [⟨["Ideographic", "Ideo"], ideographic⟩,
    ⟨["Unified_Ideograph", "UIdeo"], unifiedIdeograph⟩,
    ⟨["Radical"], radical⟩,
    ⟨["IDS_Unary_Operator", "IDSU"], unaryDescription⟩,
    ⟨["IDS_Binary_Operator", "IDSB"], binaryDescription⟩,
    ⟨["IDS_Trinary_Operator", "IDST"], trinaryDescription⟩]

end CacheWarden.Text.CharProperty
