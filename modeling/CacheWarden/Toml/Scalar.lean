import CacheWarden.Text.Scan
import CacheWarden.Toml.Value

/-!
# Reading TOML scalars

Scans for the values that hold no other values: texts in their four spellings, numbers, truth
values, dates and times. Each scan takes the longest spelling it knows, and what follows a value is
for its caller to judge.
-/

namespace CacheWarden.Toml

open Text Scan

/-- A blank inside a line. -/
def isSpace (c : Char) : Bool := c == ' ' || c == '\t'

/-- Whether a character other than a line end may stand in a comment. -/
def isPrintable (c : Char) : Bool := c == '\t' || (0x20 ≤ c.toNat && c != '\x7F')

/-- Takes blanks inside a line. -/
def spaces : Scan Unit := do
  let _ ← Scan.takeWhile isSpace
  pure ()

/-- Takes one line end. -/
def newline : Scan Unit := exactly ['\n'] <|> exactly ['\r', '\n']

/-! ### Texts -/

/-- The code point written by exactly `n` hexadecimal digits. -/
def codePoint (n : Nat) : Scan Char := do
  let digits ← takeExactly isHexDigit n
  match (readNat? 16 digits).filter fun code => decide code.isValidChar with
  | some code => pure (Char.ofNat code)
  | none => failure

/-- What follows a backslash. -/
def escape : Scan Char := do
  match ← satisfy fun _ => true with
  | 'b' => pure '\x08'
  | 't' => pure '\t'
  | 'n' => pure '\n'
  | 'f' => pure '\x0c'
  | 'r' => pure '\r'
  | '"' => pure '"'
  | '\\' => pure '\\'
  | 'u' => codePoint 4
  | 'U' => codePoint 8
  | _ => failure

/-- One character of a text between quotes, or nothing at its end. -/
def basicPart : Scan (Option (List Char)) := do
  match ← peek? with
  | some '\\' => do
      char '\\'
      let c ← escape
      pure (some [c])
  | some c =>
      if c != '"' && isPrintable c then do
        let c ← satisfy fun _ => true
        pure (some [c])
      else pure none
  | none => pure none

/-- A text between quotes on one line. -/
def basicText : Scan (List Char) := do
  char '"'
  let parts ← repeated basicPart
  char '"'
  pure parts.flatten

/-- A text between apostrophes on one line. -/
def literalText : Scan (List Char) := do
  char '\''
  let s ← Scan.takeWhile fun c => c != '\'' && isPrintable c
  char '\''
  pure s

/-- A backslash at the end of a line, with all blanks and line ends after it. -/
def foldedLine : Scan Unit := do
  char '\\'
  spaces
  newline
  let _ ← repeated (some <$> ((do let _ ← takeSome isSpace) <|> newline) <|> pure none)
  pure ()

/-- One or two quotes inside a text between three of them: they are not followed by another one. -/
def innerQuotes (quote : Char) : Scan (Option (List Char)) := do
  let quotes ← Scan.takeWhile (· == quote)
  if quotes.isEmpty || 2 < quotes.length then failure
  match ← peek? with
  | none => failure
  | some _ => pure (some quotes)

/-- One piece of a text between three quotes, or nothing at its end. -/
def longBasicPart : Scan (Option (List Char)) :=
  (do
    match ← peek? with
    | some '\\' =>
        (do foldedLine; pure (some [])) <|>
          (do char '\\'; let c ← escape; pure (some [c]))
    | some '"' => innerQuotes '"'
    | some c =>
        if isPrintable c then do
          let c ← satisfy fun _ => true
          pure (some [c])
        else do
          newline
          pure (some ['\n'])
    | none => failure) <|> pure none

/-- The end of a text between three quotes: up to two more quotes belong to the text. -/
def closingQuotes (quote : Char) : Scan (List Char) := do
  let more (n : Nat) : Scan (List Char) := do
    exactly (List.replicate (n + 3) quote)
    pure (List.replicate n quote)
  more 2 <|> more 1 <|> more 0

/-- A text between three quotes. A line end right at its start is left out. -/
def longBasicText : Scan (List Char) := do
  exactly ['"', '"', '"']
  let _ ← maybe newline
  let parts ← repeated longBasicPart
  let last ← closingQuotes '"'
  pure (parts.flatten ++ last)

/-- One piece of a text between three apostrophes, or nothing at its end. -/
def longLiteralPart : Scan (Option (List Char)) :=
  (do
    match ← peek? with
    | some '\'' => innerQuotes '\''
    | some c =>
        if isPrintable c then do
          let c ← satisfy fun _ => true
          pure (some [c])
        else do
          newline
          pure (some ['\n'])
    | none => failure) <|> pure none

/-- A text between three apostrophes. A line end right at its start is left out. -/
def longLiteralText : Scan (List Char) := do
  exactly ['\'', '\'', '\'']
  let _ ← maybe newline
  let parts ← repeated longLiteralPart
  let last ← closingQuotes '\''
  pure (parts.flatten ++ last)

/-- A text in any spelling. -/
def anyText : Scan (List Char) := do
  match ← peek? with
  | some '"' =>
      match ← maybe (ahead (exactly ['"', '"', '"'])) with
      | some _ => longBasicText
      | none => basicText
  | _ =>
      match ← maybe (ahead (exactly ['\'', '\'', '\''])) with
      | some _ => longLiteralText
      | none => literalText

/-! ### Numbers -/

/-- Further digits, each with at most one underscore in front. -/
def moreDigits (digit : Char → Bool) : Scan (List Char) :=
  repeated ((do
    let _ ← maybe (char '_')
    let c ← satisfy digit
    pure (some c)) <|> pure none)

/-- Digits that may start with a zero. -/
def someDigits (digit : Char → Bool) : Scan (List Char) := do
  let c ← satisfy digit
  let r ← moreDigits digit
  pure (c :: r)

/-- Whether a minus sign comes next; a sign is taken. -/
def sign : Scan Bool := do
  match ← maybe (satisfy fun c => c == '+' || c == '-') with
  | some c => pure (c == '-')
  | none => pure false

/-- The sign and the digits of a decimal number without needless zeros. -/
def decimalInteger : Scan (Bool × List Char) := do
  let negative ← sign
  let c ← satisfy isDigit
  let r ← if c == '0' then pure [] else moreDigits isDigit
  pure (negative, c :: r)

/-- A whole number with its sign, if it fits 64 bits. -/
def boundedInteger (negative : Bool) (radix : Nat) (digits : List Char) : Scan Value :=
  match readNat? radix digits with
  | none => failure
  | some n =>
      let value : Int := if negative then -(n : Int) else n
      if FitsInt64 value then pure (.integer value) else failure

/-- A whole number. -/
def integer : Scan Value := do
  let radixed (mark : Char) (radix : Nat) : Scan Value := do
    exactly ['0', mark]
    let digits ← someDigits fun c => (digitValue? radix c).isSome
    boundedInteger false radix digits
  let plain : Scan Value := do
    let (negative, digits) ← decimalInteger
    boundedInteger negative 10 digits
  match ← maybe (ahead (do char '0'; satisfy fun c => c == 'x' || c == 'o' || c == 'b')) with
  | some _ => radixed 'x' 16 <|> radixed 'o' 8 <|> radixed 'b' 2
  | none => plain

/-- An exponent. -/
def exponent : Scan Int := do
  let _ ← satisfy fun c => c == 'e' || c == 'E'
  let negative ← sign
  let digits ← someDigits isDigit
  let n : Int := (readNat? 10 digits).getD 0
  pure (if negative then -n else n)

/-- The digits after a point. -/
def fraction : Scan (List Char) := do
  char '.'
  someDigits isDigit

/-- `inf` or `nan`, with a sign that does not count for the latter. -/
def specialFloat : Scan Value := do
  let negative ← sign
  (do exactly "inf".toList; pure (.float (.infinite negative))) <|>
    (do exactly "nan".toList; pure (.float .nan))

/-- A number with a fraction or an exponent. One that is too large is refused, one that is too
    small a negative number is negative infinity. -/
def float : Scan Value := do
  let (negative, whole) ← decimalInteger
  let (places, scale) ←
    (do let e ← exponent; pure ([], e)) <|>
      (do
        let places ← fraction
        let e ← maybe exponent
        pure (places, e.getD 0))
  let digits := (readNat? 10 (whole ++ places)).getD 0
  match Decimal.ofDecimal negative digits (scale - places.length) with
  | .infinite false => failure
  | x => pure (.float x)

/-! ### Dates and times -/

/-- A number of exactly `n` digits between two bounds. -/
def boundedNumber (n low high : Nat) : Scan Nat := do
  let digits ← takeExactly isDigit n
  match (readNat? 10 digits).filter fun v => decide (low ≤ v) && decide (v ≤ high) with
  | some v => pure v
  | none => failure

/-- How many days a month has. -/
def daysInMonth (year month : Nat) : Nat :=
  if month = 2 then
    if year % 4 = 0 ∧ (year % 100 ≠ 0 ∨ year % 400 = 0) then 29 else 28
  else if month = 4 ∨ month = 6 ∨ month = 9 ∨ month = 11 then 30
  else 31

/-- A date. -/
def day : Scan Day := do
  let year ← boundedNumber 4 0 9999
  char '-'
  let month ← boundedNumber 2 1 12
  char '-'
  let day ← boundedNumber 2 1 (daysInMonth year month)
  pure { year, month, day }

/-- A time of day; digits after the ninth of the fraction do not count. -/
def clock : Scan Clock := do
  let hour ← boundedNumber 2 0 23
  char ':'
  let minute ← boundedNumber 2 0 59
  char ':'
  let second ← boundedNumber 2 0 60
  let places ← maybe (do char '.'; takeSome isDigit)
  let digits := (places.getD []).take 9
  let nanosecond := (readNat? 10 (digits ++ List.replicate (9 - digits.length) '0')).getD 0
  pure { hour, minute, second, nanosecond }

/-- An offset. -/
def offset : Scan Offset :=
  (do let _ ← satisfy fun c => c == 'Z' || c == 'z'; pure .universal) <|>
    (do
      let c ← satisfy fun c => c == '+' || c == '-'
      let hours ← boundedNumber 2 0 23
      char ':'
      let minutes ← boundedNumber 2 0 59
      let n : Int := hours * 60 + minutes
      pure (.minutes (if c == '-' then -n else n)))

/-- A date, a time, or both. -/
def moment : Scan Moment :=
  (do
    let d ← day
    let rest ← maybe (do
      let _ ← satisfy fun c => c == 'T' || c == 't' || c == ' '
      let t ← clock
      let o ← maybe offset
      pure (t, o))
    match rest with
    | some (t, o) => pure (.both d t o)
    | none => pure (.day d)) <|>
    (do let t ← clock; pure (.clock t))

/-- A value that holds no other values. -/
def scalar : Scan Value := do
  match ← peek? with
  | some '"' | some '\'' => do
      let s ← anyText
      pure (.text (String.ofList s))
  | some 't' => do
      exactly "true".toList
      pure (.boolean true)
  | some 'f' => do
      exactly "false".toList
      pure (.boolean false)
  | some c =>
      if c == '+' || c == '-' || isDigit c then
        (do let m ← moment; pure (.moment m)) <|> float <|> specialFloat <|> integer
      else specialFloat
  | none => failure

end CacheWarden.Toml
