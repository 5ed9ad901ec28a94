import CacheWarden.Text.CharProperty

/-!
# Quoted texts

A text between double quotes, as log lines show it. Quotes, backslashes and line ends are escaped,
and so is every character that would not be seen or would change how the one before it is seen.
-/

namespace CacheWarden.Text.Quoted

/-- Whether a character can be seen, or is the blank. -/
def isPrintable (c : Char) : Bool :=
  match Category.ofChar c with
  | .control | .format | .surrogate | .privateUse | .unassigned | .lineSeparator
  | .paragraphSeparator => false
  | .space => c == ' '
  | _ => true

/-- A character by its code point. -/
def byCode (c : Char) : List Char :=
  "\\u\x7b".toList ++ Nat.toDigits 16 c.toNat ++ ['\x7d']

/-- A character between quotes. -/
def encode (c : Char) : List Char :=
  if c == '\x00' then ['\\', '0']
  else if c == '\t' then ['\\', 't']
  else if c == '\r' then ['\\', 'r']
  else if c == '\n' then ['\\', 'n']
  else if c == '\\' || c == '"' then ['\\', c]
  else if 0x20 ≤ c.toNat && c.toNat < 0x7F then [c]
  else if CharProperty.extending.has c.toNat then byCode c
  else if isPrintable c then [c]
  else byCode c

/-- A text in quotes. -/
def text (s : List Char) : List Char := '"' :: s.flatMap encode ++ ['"']

end CacheWarden.Text.Quoted
