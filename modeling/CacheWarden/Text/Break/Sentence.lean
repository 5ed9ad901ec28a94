import CacheWarden.Text.Break.Word
import CacheWarden.Text.CharProperty.Punctuation

/-!
# Where a text may be cut between sentences

The classes of characters that say where a sentence ends. Letters of Georgian have a case but
sentences do not start with capital ones, so they count as letters without a case.
-/

namespace CacheWarden.Text.Break

open CharProperty

/-- Letters of Georgian that are small. -/
def georgianSmall : CharSet := CharSet.ofText "10D0-10FA 10FD-10FF"

/-- Letters of Georgian that are capital. -/
def georgianCapital : CharSet := CharSet.ofText "1C90-1CBA 1CBD-1CBF"

/-- Characters that extend a sentence whatever they stand behind. -/
def sentenceExtend : CharSet :=
  CharSet.union (CharSet.union extending (Category.toSet (· == .spacing))) (CharSet.ofText "200D")

/-- Format characters that are part of no number. -/
def sentenceFormat : CharSet :=
  CharSet.diff (Category.toSet (· == .format)) (CharSet.union sentenceExtend numberSign)

/-- Blanks that do not end a line. -/
def sentenceBlank : CharSet := CharSet.diff blank (CharSet.ofText "A D 85 2028-2029")

/-- Small letters. -/
def sentenceLower : CharSet := CharSet.diff small (CharSet.union extending georgianSmall)

/-- Capital letters. -/
def sentenceUpper : CharSet :=
  CharSet.diff (CharSet.union capital (Category.toSet (· == .title))) georgianCapital

/-- Letters without a case. -/
def sentenceLetter : CharSet :=
  CharSet.union ([sentenceLower, sentenceUpper, sentenceExtend].foldl CharSet.diff alphabetic)
    (CharSet.ofText "5F3")

/-- Digits, and signs that belong to numbers. -/
def sentenceNumeric : CharSet := CharSet.union wordNumeric (CharSet.ofText "66C")

/-- Marks that end a sentence unless what follows tells otherwise. -/
def maybeEnd : CharSet := CharSet.ofText "2E 2024 FE52 FF0E"

/-- Marks that end a sentence whatever follows. -/
def surelyEnd : CharSet := CharSet.diff sentenceEnd maybeEnd

/-- Marks behind which a sentence goes on. -/
def continues : CharSet :=
  CharSet.ofText
    ("2C-2D 3A-3B 37E 55D 60C-60D 7F8 1802 1808 2013-2014 3001 FE10-FE11 FE13-FE14 FE31-FE32 " ++
      "FE50-FE51 FE54-FE55 FE58 FE63 FF0C-FF0D FF1A-FF1B FF64")

/-- Signs that look like brackets and quotation marks. -/
def bracketLike : String := "275B-2760 2E00-2E01 2E06-2E08 2E0B 1F676-1F678"

/-- Brackets and quotation marks. -/
def closing : CharSet :=
  let brackets := derived (fun c => c == .opening || c == .closing || c == .initialQuote ||
    c == .finalQuote) bracketLike
  CharSet.union brackets (CharSet.diff quotation (CharSet.ofText "FF02 FF07"))

/-- The classes of characters between which a text may or may not be cut into sentences. -/
def sentenceClasses : List NamedSet :=
  [⟨["CR"], CharSet.ofText "D"⟩,
    ⟨["LF"], CharSet.ofText "A"⟩,
    ⟨["Sep", "SE"], CharSet.ofText "85 2028-2029"⟩,
    ⟨["Extend", "EX"], sentenceExtend⟩,
    ⟨["Format", "FO"], sentenceFormat⟩,
    ⟨["Sp"], sentenceBlank⟩,
    ⟨["Lower", "LO"], sentenceLower⟩,
    ⟨["Upper", "UP"], sentenceUpper⟩,
    ⟨["OLetter", "LE"], sentenceLetter⟩,
    ⟨["Numeric", "NU"], sentenceNumeric⟩,
    ⟨["ATerm", "AT"], maybeEnd⟩,
    ⟨["STerm", "ST"], surelyEnd⟩,
    ⟨["SContinue", "SC"], continues⟩,
    ⟨["Close", "CL"], closing⟩]

end CacheWarden.Text.Break
