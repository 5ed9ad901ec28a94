import CacheWarden.Log
import CacheWarden.Table
import CacheWarden.Text.Blank
import CacheWarden.Text.Lines
import CacheWarden.Text.Numeral

/-!
# Property files

Texts of settings such as `key=value`, `key:value` or `key value`. A line that starts with `#` or
`!` is a comment, a line that ends in an odd number of backslashes goes on in the next line, and a
later setting of a key replaces an earlier one. A backslash escapes the character after it:
`\t`, `\n`, `\r` and `\f` are control characters, `\u` takes four hexadecimal digits, and any other
character stands for itself and loses its meaning as a separator or blank.

A text is read in three steps: physical lines are joined to entries (`Properties.entries`), an
entry is decoded into units (`decode`), and the units are cut into a key and a value
(`Properties.split`).
-/

namespace CacheWarden

open Text

/-- A character of an entry, and where it comes from. -/
inductive PropertyUnit where
  /-- A character that stands for itself. -/
  | plain (c : Char)
  /-- A character written with a backslash. -/
  | escaped (c : Char)
  /-- A `\u` escape that names no character, with the characters it took. -/
  | malformed (taken : List Char)
  deriving DecidableEq, Repr

namespace PropertyUnit

/-- The character a unit stands for. -/
def char : PropertyUnit → Char
  | plain c => c
  | escaped c => c
  | malformed _ => '\uFFFD'

/-- Whether a unit is a blank that no backslash protects. -/
def isBlank : PropertyUnit → Bool
  | plain c => Text.isBlank c
  | _ => false

/-- Whether a unit is an unprotected `=` or `:`. -/
def isAssignment : PropertyUnit → Bool
  | plain c => c == '=' || c == ':'
  | _ => false

/-- Whether a unit ends a key. -/
def isSeparator (u : PropertyUnit) : Bool := u.isAssignment || u.isBlank

/-- The complaint about a malformed unit. -/
def complaint? : PropertyUnit → Option String
  | malformed taken => some ("Malformed \\u escape: \\u" ++ String.ofList taken)
  | _ => none

end PropertyUnit

/-- The character with a code, if the code is that of a Unicode scalar value. -/
def scalar? (code : Nat) : Option Char :=
  if code.isValidChar then some (Char.ofNat code) else none

/-- The character that an escape letter stands for. -/
def escapeLetter : Char → Char
  | 't' => '\t'
  | 'n' => '\n'
  | 'r' => '\r'
  | 'f' => '\x0c'
  | c => c

/-- The unit that `\u` makes of the characters it takes. A plus sign may stand in place of the
    first digit. -/
def codeEscape (taken : List Char) : PropertyUnit :=
  match (readUnsigned? 16 bound32 taken).bind scalar? with
  | some c => if taken.length = 4 then .escaped c else .malformed taken
  | none => .malformed taken

/-- The units of an entry; a lone backslash at its end is dropped. -/
def decode : List Char → List PropertyUnit
  | [] => []
  | '\\' :: 'u' :: r => codeEscape (r.take 4) :: decode (r.drop 4)
  | '\\' :: c :: r => .escaped (escapeLetter c) :: decode r
  | ['\\'] => []
  | c :: r => .plain c :: decode r
termination_by s => s.length
decreasing_by all_goals (simp only [List.length_cons, List.length_drop]; omega)

/-- A set of settings. -/
abbrev Properties : Type := Table String String

namespace Properties

/-- Whether the line goes on in the next one: it ends in an odd number of backslashes. -/
def continues (line : List Char) : Bool :=
  (line.reverse.takeWhile (· == '\\')).length % 2 == 1

/-- Whether a line without its indentation is empty or a comment. -/
def isSkipped : List Char → Bool
  | [] => true
  | c :: _ => c == '#' || c == '!'

/-- Joins physical lines to entries; `carry` is what a continued line has brought so far. -/
def joinLines : Option (List Char) → List (List Char) → List (List Char)
  | none, [] => []
  | some carried, [] => [carried]
  | carry, line :: rest =>
      let line := trimStart line
      if carry.isNone && isSkipped line then joinLines none rest
      else
        let entry := carry.getD [] ++ line
        if continues line then joinLines (some entry.dropLast) rest
        else entry :: joinLines none rest

/-- The entries of a text. -/
def entries (text : List Char) : List (List Char) := joinLines none (lines text)

/-- The key and the value of an entry; an entry of blanks has none. -/
def split (units : List PropertyUnit) : Option (String × String) :=
  match units.dropWhile PropertyUnit.isBlank with
  | [] => none
  | units =>
      let key := units.takeWhile (!·.isSeparator)
      let rest := (units.dropWhile (!·.isSeparator)).dropWhile PropertyUnit.isBlank
      let rest := match rest with
        | u :: r => if u.isAssignment then r else u :: r
        | [] => []
      let rest := rest.dropWhile PropertyUnit.isBlank
      let value := (rest.reverse.dropWhile PropertyUnit.isBlank).reverse
      some (String.ofList (key.map PropertyUnit.char), String.ofList (value.map PropertyUnit.char))

/-- The settings of a text in the order in which they are made. -/
def assignments (text : List Char) : List (String × String) :=
  (entries text).filterMap (split ∘ decode)

/-- The set of settings that a text makes. -/
def parse (text : String) : Properties := Table.ofList (assignments text.toList)

/-- What is to be said about the escapes of a text. -/
def complaints (text : List Char) : List String :=
  (entries text).flatMap fun entry => (decode entry).filterMap PropertyUnit.complaint?

/-- The set of settings that a text makes, with a log line for each malformed escape. -/
def read (text : String) : Logged Properties :=
  ⟨parse text, (complaints text.toList).map fun message => { level := .debug, message }⟩

end Properties

end CacheWarden
