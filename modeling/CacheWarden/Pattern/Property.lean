import CacheWarden.Pattern.Expression
import CacheWarden.Text.Age
import CacheWarden.Text.Break.Grapheme
import CacheWarden.Text.Break.Sentence
import CacheWarden.Text.CharProperty.Casing
import CacheWarden.Text.CharProperty.Identifier
import CacheWarden.Text.CharProperty.Mark
import CacheWarden.Text.CharProperty.Mathematics
import CacheWarden.Text.ScriptExtension

/-!
# Properties by name

The sets of characters that can be asked for by a property. A name alone asks for a property that a
character has or has not, for a general category or a group of them, or for a script, in this order.
A name and a value ask for a category, a script, the scripts in which a character is used, the
version that introduced it, or its class in the division of a text.
-/

namespace CacheWarden.Pattern

open CacheWarden.Text

/-- Groups of general categories, with their names. -/
def categoryGroups : List (List String × (Category → Bool)) :=
  [(["L", "Letter"], Category.isLetter),
    (["LC", "Cased_Letter"], fun c => c == .upper || c == .lower || c == .title),
    (["M", "Mark", "Combining_Mark"], Category.isMark),
    (["N", "Number"], Category.isNumber),
    (["P", "Punctuation", "punct"], fun c =>
      c == .connector || c == .dash || c == .opening || c == .closing || c == .initialQuote ||
        c == .finalQuote || c == .otherPunctuation),
    (["S", "Symbol"], fun c =>
      c == .math || c == .currency || c == .modifierSymbol || c == .otherSymbol),
    (["Z", "Separator"], fun c => c == .space || c == .lineSeparator || c == .paragraphSeparator),
    (["C", "Other"], fun c =>
      c == .control || c == .format || c == .privateUse || c == .unassigned),
    (["Any"], fun _ => true),
    (["Assigned"], (· != .unassigned)),
    (["digit"], (· == .decimal)),
    (["cntrl"], (· == .control))]

/-- The set of a general category or of a group of them. Surrogates are no characters. -/
def categorySet? (loose : List Char) : Option CharSet :=
  let single := Category.all.filter fun c =>
    c != .surrogate && isNamed loose [c.shortName, c.longName]
  let group := categoryGroups.find? fun g => isNamed loose g.1
  if isNamed loose ["ASCII"] then some [(0, 0x7F)]
  else match single, group with
    | c :: _, _ => some (Category.toSet (· == c))
    | [], some g => some (Category.toSet g.2)
    | [], none => none

/-- The script that a loose name stands for. -/
def script? (loose : List Char) : Option Script :=
  Script.all.find? fun s => isNamed loose (s.name :: s.codes)

/-- The version that a loose name stands for. -/
def version? (loose : List Char) : Option Version :=
  Version.all.find? fun v => isNamed loose v.names

/-- All properties that a character has or has not. -/
def plainProperties : List NamedSet :=
  CharProperty.basics ++ CharProperty.casing ++ CharProperty.emojis ++ CharProperty.identifiers ++
    CharProperty.ideographs ++ CharProperty.invisible ++ CharProperty.marks ++
    CharProperty.mathematics ++ CharProperty.punctuation

/-- The set of the first of some sets that a loose name stands for. -/
def setOf? (sets : List NamedSet) (loose : List Char) : Option CharSet :=
  (NamedSet.find? sets loose).map NamedSet.members

/-- The properties that are asked for with a value: their names, and the set of each value. -/
def valuedProperties : List (List String × (List Char → Option CharSet)) :=
  [(["General_Category", "gc"], categorySet?),
    (["Script", "sc"], fun value => (script? value).map Script.toSet),
    (["Script_Extensions", "scx"], fun value => (script? value).map Script.used),
    (["Age"], fun value => (version? value).map Version.assigned),
    (["Grapheme_Cluster_Break", "GCB"], setOf? Break.graphemeClasses),
    (["Word_Break", "WB"], setOf? Break.wordClasses),
    (["Sentence_Break", "SB"], setOf? Break.sentenceClasses)]

/-- The set of the characters with a property. -/
def PropertyQuery.members? (q : PropertyQuery) : Option CharSet :=
  let value := looseName q.value.toList
  match q.property with
  | none =>
      setOf? plainProperties value <|> categorySet? value <|> (script? value).map Script.toSet
  | some name =>
      (valuedProperties.find? fun p => isNamed (looseName name.toList) p.1).bind fun p => p.2 value

end CacheWarden.Pattern
