import CacheWarden.Json.Value
import CacheWarden.Text.Numeral
import CacheWarden.Text.Search

/-!
# Writing JSON

A value in one line, without blanks between its parts, or over several lines with two blanks for
each level. In a text only quotes, backslashes and control characters are escaped.
-/

namespace CacheWarden.Json

open Text

/-- The four digits behind `\u`. -/
def codeDigits (n : Nat) : List Char :=
  let digits := Nat.toDigits 16 n
  List.replicate (4 - digits.length) '0' ++ digits

/-- A character inside quotes. -/
def escaped (c : Char) : List Char :=
  if c == '"' then ['\\', '"']
  else if c == '\\' then ['\\', '\\']
  else if c == '\n' then ['\\', 'n']
  else if c == '\r' then ['\\', 'r']
  else if c == '\t' then ['\\', 't']
  else if c == '\x08' then ['\\', 'b']
  else if c == '\x0c' then ['\\', 'f']
  else if c.toNat < 0x20 then '\\' :: 'u' :: codeDigits c.toNat
  else [c]

/-- A text in quotes. -/
def quoted (s : String) : List Char := '"' :: s.toList.flatMap escaped ++ ['"']

namespace Value

/-- A value without parts. -/
def leaf : Value → List Char
  | null => "null".toList
  | bool true => "true".toList
  | bool false => "false".toList
  | int n => decimalInt n
  | number written => written.toList
  | text s => quoted s
  | list _ => "[]".toList
  | object _ => "\x7b\x7d".toList

mutual

/-- A value in one line. -/
def compact : Value → List Char
  | list items => '[' :: [','].intercalate (compactItems items) ++ [']']
  | object fields => '\x7b' :: [','].intercalate (compactFields fields) ++ ['\x7d']
  | v => v.leaf

/-- Values, each in one line. -/
def compactItems : List Value → List (List Char)
  | [] => []
  | v :: rest => compact v :: compactItems rest

/-- Fields, each in one line. -/
def compactFields : List (String × Value) → List (List Char)
  | [] => []
  | (key, v) :: rest => (quoted key ++ ':' :: compact v) :: compactFields rest

end

/-- The start of a line inside so many levels. -/
def indent (level : Nat) : List Char := '\n' :: List.replicate (2 * level) ' '

/-- Parts over several lines between two brackets. -/
def bracketed (opening closing : Char) (level : Nat) (parts : List (List Char)) : List Char :=
  if parts.isEmpty then [opening, closing]
  else
    opening :: [','].intercalate (parts.map (indent (level + 1) ++ ·)) ++ indent level ++ [closing]

mutual

/-- A value over several lines. -/
def pretty (level : Nat) : Value → List Char
  | list items => bracketed '[' ']' level (prettyItems (level + 1) items)
  | object fields => bracketed '\x7b' '\x7d' level (prettyFields (level + 1) fields)
  | v => v.leaf

/-- Values, each over several lines. -/
def prettyItems (level : Nat) : List Value → List (List Char)
  | [] => []
  | v :: rest => pretty level v :: prettyItems level rest

/-- Fields, each over several lines. -/
def prettyFields (level : Nat) : List (String × Value) → List (List Char)
  | [] => []
  | (key, v) :: rest => (quoted key ++ ": ".toList ++ pretty level v) :: prettyFields level rest

end

end Value

end CacheWarden.Json
