import CacheWarden.Failure
import CacheWarden.Pattern.Meaning
import CacheWarden.Text.Lines

/-!
# Message patterns

What to look for in the lines that a command prints: a text, or a regular expression. A pattern is
taken for a regular expression if one of eight characters stands in it.
-/

namespace CacheWarden

open Text Pattern

/-- A message to look for. -/
inductive MessagePattern where
  | literal (text : String)
  | regex (text : String) (expression : Regex)
  deriving DecidableEq, Repr

namespace MessagePattern

/-- The characters that make a text a regular expression. -/
def regexSigns : List Char := ['(', '*', '[', '+', '?', '^', '$', '|']

/-- The text of a pattern. -/
def text : MessagePattern → String
  | literal text => text
  | regex text _ => text

/-- A text as a regular expression. -/
def ofRegex (text : String) : Except Failure MessagePattern :=
  match Regex.read? text.toList with
  | some e => .ok (.regex text e)
  | none => .error (.invalidPattern text "not a regular expression")

/-- A text as a pattern. -/
def parse (text : String) : Except Failure MessagePattern :=
  if text.toList.any regexSigns.contains then ofRegex text else .ok (.literal text)

/-- Several texts as patterns; the first one that is none fails the whole. -/
def parseAll (texts : List String) : Except Failure (List MessagePattern) := texts.mapM parse

/-- Whether a pattern matches a line. -/
def isMatch (line : List Char) : MessagePattern → Bool
  | literal text => contains text.toList line
  | regex _ e => e.isMatch line

/-- How many lines some pattern matches. -/
def countMatches (text : List Char) (patterns : List MessagePattern) : Nat :=
  (lines text).countP fun line => patterns.any fun p => p.isMatch line

end MessagePattern

end CacheWarden
