import CacheWarden.Toml.Scalar
import CacheWarden.Toml.Section

/-!
# Reading TOML documents

A document is a list of lines: blank lines and comments, headers of tables, and fields. Arrays may
go over several lines and inline tables may not. Values nest to a depth of less than `depthLimit`,
and keys have fewer parts than that. Every fault, be it of spelling or of meaning, refuses the
document.
-/

namespace CacheWarden.Toml

open Text Scan

/-- How deep values nest and how many parts a key has: less than this. -/
def depthLimit : Nat := 80

/-- Takes a comment, but not the end of its line. -/
def comment : Scan Unit := do
  char '#'
  let _ ← Scan.takeWhile isPrintable
  pure ()

/-- Takes the end of a line or stands at the end of the document. -/
def lineEnd : Scan Unit := newline <|> atEnd

/-- Takes blanks, line ends and comments with their line ends. -/
def gap : Scan Unit := do
  let _ ← repeated ((do
    (do let _ ← takeSome isSpace) <|> newline <|> (do comment; newline)
    pure (some ())) <|> pure none)
  pure ()

/-- One part of a key. -/
def keyPart : Scan String := do
  match ← peek? with
  | some '"' => do
      let s ← basicText
      pure (String.ofList s)
  | some '\'' => do
      let s ← literalText
      pure (String.ofList s)
  | _ => do
      let s ← takeSome fun c => c.isAlphanum || c == '_' || c == '-'
      pure (String.ofList s)

/-- The path and the last part of a dotted key, with the blanks around its parts. -/
def key : Scan (List String × String) := do
  let part : Scan String := do
    spaces
    let p ← keyPart
    spaces
    pure p
  let first ← part
  let rest ← repeated ((do
    char '.'
    let p ← part
    pure (some p)) <|> pure none)
  let parts := first :: rest
  if depthLimit ≤ parts.length then failure
  pure (parts.dropLast, parts.getLast?.getD first)

/-- Elements between commas up to where no further one is found. -/
def separated {α : Type} (element : Scan α) : Scan (List α) := do
  match ← maybe element with
  | none => pure []
  | some first =>
      let rest ← repeated ((do
        char ','
        let a ← element
        pure (some a)) <|> pure none)
      pure (first :: rest)

/-- An array whose items are read by `item`. A comma may follow the last item. -/
def arrayOf (item : Scan Value) : Scan Value := do
  char '['
  let items ← separated (do
    gap
    let v ← item
    gap
    pure v)
  if !items.isEmpty then
    let _ ← maybe (char ',')
  gap
  char ']'
  pure (.array items)

/-- Adds the fields of an inline table one after the other. -/
def addFields : List ((List String × String) × Value) → Section → Option Section
  | [], s => some s
  | ((path, key), v) :: rest, s => (s.addField path key v).bind (addFields rest)

/-- A table on one line whose values are read by `item`. -/
def inlineTableOf (item : Scan Value) : Scan Value := do
  char '\x7b'
  let pairs ← separated (do
    let k ← key
    char '='
    spaces
    let v ← item
    spaces
    pure (k, v))
  spaces
  char '\x7d'
  match addFields pairs (.mk .defined []) with
  | some s => pure (.table s.fields)
  | none => failure

/-- A value that nests to less than the given depth. -/
def valueWithin : Nat → Scan Value
  | 0 => scalar
  | depth + 1 => do
      match ← peek? with
      | some '[' => arrayOf (valueWithin depth)
      | some '\x7b' => inlineTableOf (valueWithin depth)
      | _ => scalar

/-- A value. -/
def value : Scan Value := valueWithin (depthLimit - 1)

/-- What a line of a document does. -/
inductive Line where
  | blank
  | table (path : List String) (key : String)
  | arrayTable (path : List String) (key : String)
  | field (path : List String) (key : String) (v : Value)

/-- Takes blanks, a comment if there is one, and the end of the line. -/
def lineTail : Scan Unit := do
  spaces
  let _ ← maybe comment
  lineEnd

/-- One line of a document. -/
def line : Scan Line := do
  spaces
  match ← peek? with
  | none => pure .blank
  | some '#' => do
      comment
      lineEnd
      pure .blank
  | some '[' =>
      match ← maybe (exactly ['[', '[']) with
      | some _ => do
          let (path, k) ← key
          exactly [']', ']']
          lineTail
          pure (.arrayTable path k)
      | none => do
          char '['
          let (path, k) ← key
          char ']'
          lineTail
          pure (.table path k)
  | some c =>
      if c == '\n' || c == '\r' then do
        newline
        pure .blank
      else do
        let (path, k) ← key
        char '='
        spaces
        let v ← value
        lineTail
        pure (.field path k v)

/-- The lines of a document; each of them takes something. -/
def documentLines : Scan (List Line) := do
  let ls ← repeated ((do atEnd; pure none) <|> (do let l ← line; pure (some l)))
  pure ls

/-- Applies the lines of a document to the tables made so far; `header` is the path of the table
    that fields go to. -/
def applyLines : List Line → List String → Section → Option Section
  | [], _, root => some root
  | .blank :: rest, header, root => applyLines rest header root
  | .table path key :: rest, _, root =>
      (root.openTable path key).bind (applyLines rest (path ++ [key]))
  | .arrayTable path key :: rest, _, root =>
      (root.openArray path key).bind (applyLines rest (path ++ [key]))
  | .field path key v :: rest, header, root =>
      (root.descend .passed (Section.addField path key v) header).bind (applyLines rest header)

/-- The fields of a document, if it is one. A byte order mark in front is left out. -/
def read? (document : String) : Option Fields :=
  let s := match document.toList with
    | '\uFEFF' :: r => r
    | s => s
  ((whole? documentLines s).bind fun ls => applyLines ls [] (.mk .defined [])).map Section.fields

end CacheWarden.Toml
