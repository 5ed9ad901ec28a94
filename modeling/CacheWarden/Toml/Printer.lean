import CacheWarden.Text.Search
import CacheWarden.Toml.Value

/-!
# Writing TOML

A text takes the first of these spellings that needs no escape: between quotes, between apostrophes,
between three quotes, between three apostrophes. If none does, it is put between quotes with
escapes, or between three quotes if it has a line feed. Arrays and tables can be written on one
line. `document` writes the fields of a document, one to a line, with arrays of several items
spread out, and then its table.
-/

namespace CacheWarden.Toml

open Text

/-- The longest run of a character in a text, of which `current` have just been read. -/
def longestRun (c : Char) (current : Nat) : List Char → Nat
  | [] => current
  | d :: r => if d = c then longestRun c (current + 1) r else max current (longestRun c 0 r)

/-- Whether a character can only be written with an escape code. -/
def needsCode (c : Char) : Bool := (c.toNat ≤ 0x1F && c != '\t' && c != '\n') || c == '\x7F'

/-- One character between quotes; between three of them, a line feed stands for itself. -/
def quotedChar (three : Bool) (c : Char) : List Char :=
  match c with
  | '\x08' => ['\\', 'b']
  | '\t' => ['\\', 't']
  | '\n' => if three then ['\n'] else ['\\', 'n']
  | '\x0c' => ['\\', 'f']
  | '\r' => ['\\', 'r']
  | '"' => ['\\', '"']
  | '\\' => ['\\', '\\']
  | c =>
      if needsCode c then
        let digits := (Nat.toDigits 16 c.toNat).map Char.toUpper
        '\\' :: 'u' :: List.replicate (4 - digits.length) '0' ++ digits
      else [c]

/-- A text on one line between quotes. -/
def quoted (s : List Char) : List Char := '"' :: s.flatMap (quotedChar false) ++ ['"']

/-- A text between apostrophes. -/
def literal (s : List Char) : List Char := '\'' :: s ++ ['\'']

/-- What stands between three quotes, after a run of so many quotes: each third quote of a run is
    escaped, so three of them never end the text. -/
def longQuotedChars (run : Nat) : List Char → List Char
  | [] => []
  | '"' :: r =>
      if run < 2 then '"' :: longQuotedChars (run + 1) r else '\\' :: '"' :: longQuotedChars 0 r
  | c :: r => quotedChar true c ++ longQuotedChars 0 r

/-- The line feed after three quotes or apostrophes, where the text has one itself. -/
def openingLine (s : List Char) : List Char := if s.contains '\n' then ['\n'] else []

/-- A text between three quotes. -/
def longQuoted (s : List Char) : List Char :=
  ['"', '"', '"'] ++ openingLine s ++ longQuotedChars 0 s ++ ['"', '"', '"']

/-- A text between three apostrophes. -/
def longLiteral (s : List Char) : List Char :=
  ['\'', '\'', '\''] ++ openingLine s ++ s ++ ['\'', '\'', '\'']

/-- A text as a value. -/
def textValue (s : List Char) : List Char :=
  let codes := s.any needsCode
  let escapes := codes || s.contains '\\'
  let newline := s.contains '\n'
  if !escapes && !s.contains '"' && !newline then quoted s
  else if !codes && !s.contains '\'' && !newline then literal s
  else if !escapes && longestRun '"' 0 s ≤ 2 then longQuoted s
  else if !codes && longestRun '\'' 0 s ≤ 2 then longLiteral s
  else if newline then longQuoted s
  else quoted s

/-- Whether a character can stand in a key without quotes. -/
def isBareKey (c : Char) : Bool := c.isAlphanum || c == '_' || c == '-'

/-- A key, with quotes where it needs them. -/
def keyText (key : String) : List Char :=
  let s := key.toList
  let codes := s.any needsCode || s.contains '\n'
  if !s.isEmpty && s.all isBareKey then s
  else if (codes || s.contains '\\' || s.contains '"') && !codes && !s.contains '\'' then literal s
  else quoted s

mutual

/-- A value on one line. -/
def inlineText : Value → List Char
  | .text s => textValue s.toList
  | .integer n => decimalInt n
  | .float x => x.text
  | .boolean b => if b then "true".toList else "false".toList
  | .moment m => m.text
  | .array items => '[' :: ", ".toList.intercalate (inlineTexts items) ++ [']']
  | .table fields =>
      if fields.isEmpty then "\x7b\x7d".toList
      else "\x7b ".toList ++ ", ".toList.intercalate (inlineFields fields) ++ " \x7d".toList

/-- Several values, each on one line. -/
def inlineTexts : List Value → List (List Char)
  | [] => []
  | v :: rest => inlineText v :: inlineTexts rest

/-- Several fields, each on one line. -/
def inlineFields : List (String × Value) → List (List Char)
  | [] => []
  | (key, v) :: rest => (keyText key ++ " = ".toList ++ inlineText v) :: inlineFields rest

end

/-- A value of a document: an array of several items goes over several lines. -/
def documentValue : Value → List Char
  | .array items =>
      if items.length ≤ 1 then inlineText (.array items)
      else
        let lines := (inlineTexts items).map fun item => "\n    ".toList ++ item ++ [',']
        '[' :: lines.flatten ++ "\n]".toList
  | v => inlineText v

/-- A field of a document on a line of its own. -/
def fieldLine (field : String × Value) : List Char :=
  keyText field.1 ++ " = ".toList ++ documentValue field.2 ++ ['\n']

/-- A document with plain fields and one table after them. -/
def document (fields : Fields) (tableName : String) (tableFields : Fields) : List Char :=
  fields.flatMap fieldLine ++ "\n[".toList ++ keyText tableName ++ "]\n".toList ++
    tableFields.flatMap fieldLine

/-- The key under which a date is wrapped where a value stands by itself. -/
def momentKey : String := "$__toml_private_datetime"

/-- The text of a value that stands by itself. A date becomes a table with one field that holds its
    text. -/
def standaloneText : Value → List Char
  | .moment m => inlineText (.table [(momentKey, .text (String.ofList m.text))])
  | v => inlineText v

end CacheWarden.Toml
