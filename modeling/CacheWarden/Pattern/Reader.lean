import CacheWarden.Pattern.Expression
import CacheWarden.Text.Scan
import CacheWarden.Text.Search

/-!
# Reading regular expressions

Reads a text as a written regular expression. Back references and conditions on what stands around
a match are refused. Where `verbose` is on, blanks and comments between the parts of an expression
count for nothing.
-/

namespace CacheWarden.Pattern

open CacheWarden.Text
open CacheWarden.Text.Scan (peek? satisfy exactly char takeWhile maybe ahead repeated)

/-- Drops blanks and comments; the flag says whether the text starts inside a comment. -/
def dropSpace : Bool → List Char → List Char
  | _, [] => []
  | true, c :: r => dropSpace (c != '\n') r
  | false, c :: r =>
      if isBlank c then dropSpace false r
      else if c == '#' then dropSpace true r
      else c :: r

/-- Takes what counts for nothing. -/
def space (verbose : Bool) : Scan Unit :=
  fun s => some ((), if verbose then dropSpace false s else s)

/-- Takes one character that satisfies `p`, and the space behind it. -/
def next (verbose : Bool) (p : Char → Bool) : Scan Char := satisfy p <* space verbose

/-- Takes all characters that satisfy `p`, and the space behind each of them. -/
def nextAll (verbose : Bool) (p : Char → Bool) : Scan (List Char) :=
  repeated (maybe (next verbose p))

/-- The characters that have a meaning of their own somewhere. -/
def isMeta (c : Char) : Bool := "\\.+*?()|[]\x7b\x7d^$#&-~".toList.contains c

/-- The ASCII characters that stand for themselves behind a backslash. -/
def isEscapable (c : Char) : Bool :=
  isMeta c || (c.toNat ≤ 0x7F && !c.isAlphanum && c != '<' && c != '>')

/-- The character of a code point. -/
def charOfCode? (n : Nat) : Option Char := if n.isValidChar then some (Char.ofNat n) else none

/-- The character whose code point the digits give. -/
def hexChar (digits : List Char) : Scan Char := fun s =>
  ((readNat? 16 digits).bind charOfCode?).map fun c => (c, s)

/-- Takes a number of hexadecimal digits. -/
def hexDigits (verbose : Bool) : Nat → Scan (List Char)
  | 0 => pure []
  | n + 1 => do
      let c ← next verbose isHexDigit
      let rest ← hexDigits verbose n
      pure (c :: rest)

/-- Takes a character written as a code point, in braces or with the given number of digits. -/
def codePoint (verbose : Bool) (digits : Nat) : Scan Literal := do
  space verbose
  if (← peek?) == some '\x7b' then
    let _ ← next verbose (· == '\x7b')
    let written ← nextAll verbose isHexDigit
    let _ ← next verbose (· == '\x7d')
    pure { char := ← hexChar written }
  else
    let written ← hexDigits verbose digits
    pure { char := ← hexChar written, isByte := digits == 2 }

/-- What stands before and behind the first occurrence of a text. -/
def splitFirst (piece : List Char) (s : List Char) : Option (List Char × List Char) :=
  match splitAt piece s with
  | first :: rest@(_ :: _) => some (first, piece.intercalate rest)
  | _ => none

/-- The property asked for in braces, and whether it is asked for by `!=`. -/
def PropertyQuery.ofText (s : List Char) : PropertyQuery × Bool :=
  let pair (p : List Char × List Char) : PropertyQuery :=
    ⟨some (String.ofList p.1), String.ofList p.2⟩
  match splitFirst "!=".toList s, splitOnce ':' s, splitOnce '=' s with
  | some p, _, _ => (pair p, true)
  | none, some p, _ => (pair p, false)
  | none, none, some p => (pair p, false)
  | none, none, none => (⟨none, String.ofList s⟩, false)

/-- Takes the name of a property. -/
def property (verbose negated : Bool) : Scan Expression := do
  space verbose
  if (← peek?) == some '\x7b' then
    let _ ← next verbose (· == '\x7b')
    let written ← nextAll verbose (· != '\x7d')
    char '\x7d'
    let (query, differs) := PropertyQuery.ofText written
    pure (.property query (negated != differs))
  else
    let c ← next verbose (· != '\\')
    pure (.property ⟨none, c.toString⟩ negated)

/-- The edge of words named in braces. -/
def boundaryOfName? (name : List Char) : Option Boundary :=
  [("start", .opening), ("end", .closing), ("start-half", .nothingBefore),
    ("end-half", .nothingAfter)].lookup (String.ofList name)

/-- Takes the name of an edge of words, if there is one; braces with something else in them are a
    number of repetitions. -/
def boundaryName (verbose : Bool) : Scan (Option Boundary) := do
  let isNamePart (c : Char) : Bool := c.isAlpha || c == '-'
  let opens ← maybe (ahead (next verbose (· == '\x7b') *> satisfy fun _ => true))
  let named ← maybe (ahead (next verbose (· == '\x7b') *> satisfy isNamePart))
  if named.isSome then
    let _ ← next verbose (· == '\x7b')
    let name ← nextAll verbose isNamePart
    char '\x7d'
    match boundaryOfName? name with
    | some kind => pure (some kind)
    | none => failure
  else if opens.isNone && (← peek?) == some '\x7b' then failure
  else pure none

/-- The control character that a letter stands for. -/
def controlOfLetter? (c : Char) : Option Char :=
  [('a', '\x07'), ('f', '\x0c'), ('t', '\t'), ('n', '\n'), ('r', '\r'), ('v', '\x0b')].lookup c

/-- The place that a letter stands for. -/
def placeOfLetter? (c : Char) : Option Place :=
  [('A', .textStart), ('z', .textEnd), ('B', .boundary .noEdge), ('<', .boundary .opening),
    ('>', .boundary .closing)].lookup c

/-- The class that a letter stands for; the capital letter stands for its complement. -/
def shorthandOfLetter? (c : Char) : Option (Shorthand × Bool) :=
  [('d', (.digit, false)), ('s', (.space, false)), ('w', (.word, false)), ('D', (.digit, true)),
    ('S', (.space, true)), ('W', (.word, true))].lookup c

/-- Takes a backslash and what belongs to it. -/
def escape (verbose : Bool) : Scan Expression := do
  char '\\'
  let c ← satisfy fun _ => true
  if c == 'x' then return .char (← codePoint verbose 2)
  if c == 'u' then return .char (← codePoint verbose 4)
  if c == 'U' then return .char (← codePoint verbose 8)
  if c == 'p' then return ← property verbose false
  if c == 'P' then return ← property verbose true
  if c == 'b' then
    return .place (.boundary ((← boundaryName verbose).getD .edge))
  if isEscapable c then return .char { char := c }
  match shorthandOfLetter? c, controlOfLetter? c, placeOfLetter? c with
  | some (s, negated), _, _ => pure (.shorthand s negated)
  | none, some control, _ => pure (.char { char := control })
  | none, none, some p => pure (.place p)
  | none, none, none => failure

/-! ### Classes in brackets -/

/-- The ranges of the classes that have a name in brackets and colons. -/
def namedClass? (name : String) : Option CharSet :=
  (["alnum", "alpha", "ascii", "blank", "cntrl", "digit", "graph", "lower", "print", "punct",
    "space", "upper", "word", "xdigit"].zip
    ["30-39 41-5A 61-7A", "41-5A 61-7A", "0-7F", "9 20", "0-1F 7F", "30-39", "21-7E", "61-7A",
      "20-7E", "21-2F 3A-40 5B-60 7B-7E", "9-D 20", "41-5A", "30-39 41-5A 5F 61-7A",
      "30-39 41-46 61-66"]).lookup name |>.map CharSet.ofText

/-- Takes a class with a name in brackets and colons. -/
def namedClass : Scan ClassItem := do
  exactly "[:".toList
  let negated ← maybe (char '^')
  let name ← takeWhile (· != ':')
  exactly ":]".toList
  if (namedClass? (String.ofList name)).isSome then
    pure (.named (String.ofList name) negated.isSome)
  else failure

/-- An escape as an item of a class; places and the dot are none. -/
def ClassItem.ofExpression? : Expression → Option ClassItem
  | .char c => some (.char c)
  | .shorthand s negated => some (.shorthand s negated)
  | .property q negated => some (.property q negated)
  | _ => none

/-- Takes a character or an escape. -/
def classAtom (verbose : Bool) : Scan Expression := do
  if (← peek?) == some '\\' then escape verbose
  else pure (.char { char := ← satisfy fun _ => true })

/-- The character behind the next one, with spaces and at most one number sign passed over. -/
def peekBehind (verbose : Bool) (s : List Char) : Option Char :=
  let rest := s.drop 1
  if verbose then
    let found := match trimStart rest with
      | '#' :: r => trimStart r
      | r => r
    found.head? <|> rest.head?
  else rest.head?

/-- Takes a character, an escape or a range. -/
def classRange (verbose : Bool) : Scan ClassItem := do
  let first ← classAtom verbose
  space verbose
  let s ← get
  let behind := peekBehind verbose s
  if s.head? != some '-' || behind == some ']' || behind == some '-' then
    match ClassItem.ofExpression? first with
    | some item => if s.isEmpty then failure else pure item
    | none => failure
  else
    let _ ← next verbose (· == '-')
    let last ← classAtom verbose
    match first, last with
    | .char lo, .char hi => if lo.char ≤ hi.char then pure (.range lo hi) else failure
    | _, _ => failure

/-- Takes an opening bracket and the characters behind it that stand for themselves there: hyphens,
    or else a closing bracket. -/
def classOpening (verbose : Bool) : Scan (Bool × List ClassItem) := do
  let _ ← next verbose (· == '[')
  let negated ← maybe (next verbose (· == '^'))
  let hyphens ← nextAll verbose (· == '-')
  let closing ← if hyphens.isEmpty then maybe (next verbose (· == ']')) else pure none
  let items := (hyphens ++ closing.toList).map fun c => ClassItem.char { char := c }
  pure (negated.isSome, items.reverse)

/-- Takes the sign of a combination. -/
def combination : Scan Combination :=
  (exactly "&&".toList *> pure .intersection) <|> (exactly "--".toList *> pure .difference) <|>
    (exactly "~~".toList *> pure .symmetricDifference)

/-- The items of a class, combined with what stands in front of the last sign. -/
def ClassItem.finish (front : Option (Combination × ClassItem)) (reversed : List ClassItem) :
    ClassItem :=
  let item := match reversed with
    | [item] => item
    | items => .union items.reverse
  match front with
  | none => item
  | some (op, left) => .combined op left item

/-- Takes the content of a class and the closing bracket. -/
def classContent (verbose : Bool) :
    Nat → Option (Combination × ClassItem) → List ClassItem → Scan ClassItem
  | 0, _, _ => failure
  | fuel + 1, front, items => do
      space verbose
      match ← peek? with
      | none => failure
      | some ']' =>
          char ']'
          pure (ClassItem.finish front items)
      | some '[' =>
          match ← maybe namedClass with
          | some item => classContent verbose fuel front (item :: items)
          | none =>
              let (negated, first) ← classOpening verbose
              let content ← classContent verbose fuel none first
              classContent verbose fuel front (.bracket negated content :: items)
      | some _ =>
          match ← maybe combination with
          | some op =>
              classContent verbose fuel (some (op, ClassItem.finish front items)) []
          | none =>
              let item ← classRange verbose
              classContent verbose fuel front (item :: items)

/-- Takes a class in brackets. -/
def bracket (verbose : Bool) : Scan Expression := do
  let s ← get
  let (negated, first) ← classOpening verbose
  let content ← classContent verbose s.length none first
  pure (.bracket negated content)

/-! ### Repetitions and groups -/

/-- Takes a count of repetitions. -/
def repetitionCount (verbose : Bool) : Scan Nat := do
  let _ ← takeWhile isBlank
  let digits ← nextAll verbose isDigit
  let _ ← nextAll verbose isBlank
  match readCount? digits with
  | some n => pure n
  | none => failure

/-- Takes counts of repetitions in braces. -/
def repetitionRange (verbose : Bool) : Scan (Nat × Option Nat) := do
  let _ ← next verbose (· == '\x7b')
  let least ← repetitionCount verbose
  let comma ← maybe (next verbose (· == ','))
  let most ← if comma.isNone then pure (some least)
    else if (← peek?) == some '\x7d' then pure none
    else some <$> repetitionCount verbose
  let _ ← next verbose (· == '\x7d')
  if most.any (· < least) then failure else pure (least, most)

/-- Takes the sign of a repetition and the question mark that may follow it. -/
def repetition (verbose : Bool) : Scan (Nat × Option Nat) := do
  let range ← (char '?' *> pure (0, some 1)) <|> (char '*' *> pure (0, none)) <|>
    (char '+' *> pure (1, none)) <|> repetitionRange verbose
  let _ ← maybe (char '?')
  pure range

/-- The switch that a letter stands for. -/
def switchOfLetter? (c : Char) : Option Switch :=
  [('i', .ignoreCase), ('m', .multiLine), ('s', .dotMatchesAll), ('U', .swapGreed),
    ('u', .unicode), ('R', .carriageReturns), ('x', .verbose)].lookup c

/-- The switches written by letters: those behind a hyphen are turned off. No letter may come
    twice, and the hyphen neither twice nor last. -/
def switchesOfText? : Bool → Switches → List Char → Option Switches
  | _, found, [] => some found.reverse
  | on, found, '-' :: r => if on && !r.isEmpty then switchesOfText? false found r else none
  | on, found, c :: r =>
      (switchOfLetter? c).bind fun s =>
        if (found.get? s).isSome then none else switchesOfText? on ((s, on) :: found) r

/-- What an opening parenthesis is followed by. -/
inductive Opening where
  | switches (s : Switches)
  | group (g : Group) (name : Option String)

/-- Takes the name of a group and the angle bracket behind it. -/
def groupName : Scan String := do
  let name ← takeWhile (· != '>')
  char '>'
  let isFirst (c : Char) : Bool := c == '_' || CharProperty.isAlphabetic c
  let isPart (c : Char) : Bool :=
    c == '_' || c == '.' || c == '[' || c == ']' || CharProperty.isAlphanumeric c
  match name with
  | [] => failure
  | c :: r => if isFirst c && r.all isPart then pure (String.ofList name) else failure

/-- Takes an opening parenthesis and what says what it is for. -/
def opening (verbose : Bool) : Scan Opening := do
  let _ ← next verbose (· == '(')
  let around ← maybe (exactly "?=".toList <|> exactly "?!".toList <|> exactly "?<=".toList <|>
    exactly "?<!".toList)
  if around.isSome then failure
  let named ← maybe (exactly "?P<".toList <|> exactly "?<".toList)
  if named.isSome then return .group .capturing (some (← groupName))
  let question ← maybe (char '?')
  if question.isNone then return .group .capturing none
  let letters ← takeWhile fun c => c != ':' && c != ')'
  match switchesOfText? true [] letters with
  | none => failure
  | some s =>
      if (← satisfy fun _ => true) == ':' then pure (.group (.switching s) none)
      else if s.isEmpty then failure
      else pure (.switches s)

/-! ### Expressions -/

/-- Takes one part of an expression that is neither a group, a class nor a repetition. -/
def atom (verbose : Bool) : Scan Expression := do
  match ← peek? with
  | some '\\' => escape verbose
  | some '.' => char '.' *> pure .dot
  | some '^' => char '^' *> pure (.place .lineStart)
  | some '$' => char '$' *> pure (.place .lineEnd)
  | _ => pure (.char { char := ← satisfy fun _ => true })

/-- Whether a character is the sign of a repetition. -/
def isRepetitionSign (c : Char) : Bool := c == '?' || c == '*' || c == '+' || c == '\x7b'

/-- The expressions before a closing parenthesis or the end. -/
def Expression.finish (branches items : List Expression) : Expression :=
  .ofAlternatives (Expression.ofSequence items.reverse :: branches).reverse

/-- Takes an expression up to a closing parenthesis or the end. `names` are the names of the groups
    so far, `branches` the alternatives and `items` the parts of the last one, both reversed. -/
def content : Nat → Bool → List String → List Expression → List Expression →
    Scan (Expression × List String)
  | 0, _, _, _, _ => failure
  | fuel + 1, verbose, names, branches, items => do
      space verbose
      match ← peek? with
      | none => pure (Expression.finish branches items, names)
      | some ')' => pure (Expression.finish branches items, names)
      | some '(' =>
          match ← opening verbose with
          | .switches s =>
              content fuel ((s.get? .verbose).getD verbose) names branches (.switches s :: items)
          | .group g name =>
              if name.any names.contains then failure
              let inner := match g with
                | .capturing => verbose
                | .switching s => (s.get? .verbose).getD verbose
              let (e, names) ← content fuel inner (name.toList ++ names) [] []
              char ')'
              content fuel verbose names branches (.group g e :: items)
      | some '|' =>
          char '|'
          content fuel verbose names (.ofSequence items.reverse :: branches) []
      | some '[' =>
          let e ← bracket verbose
          content fuel verbose names branches (e :: items)
      | some c =>
          if isRepetitionSign c then
            let (least, most) ← repetition verbose
            match items with
            | [] => failure
            | .switches _ :: _ => failure
            | e :: items =>
                content fuel verbose names branches (.repeated e least most :: items)
          else
            let e ← atom verbose
            content fuel verbose names branches (e :: items)

/-- Reads a regular expression that is not nested too deeply. -/
def Expression.read? (text : List Char) : Option Expression := do
  let (e, _) ← Scan.whole? (content (text.length + 1) false [] [] []) text
  if e.nesting ≤ Expression.nestingLimit then some e else none

end CacheWarden.Pattern
