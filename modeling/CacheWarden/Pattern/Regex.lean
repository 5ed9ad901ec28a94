import CacheWarden.Text.CharProperty

/-!
# Regular expressions

Regular expressions over sets of characters, with assertions about the place between two characters.
An expression matches a line if some stretch of the line, which may be empty, is one of its texts.
Matching follows all stretches at once: `reach` takes the places where a stretch may begin, marked
by `true`, to the places where it may end.
-/

namespace CacheWarden.Pattern

open CacheWarden.Text

/-- Places at the edge of words. -/
inductive Boundary where
  /-- A word begins or ends here. -/
  | edge
  /-- No word begins or ends here. -/
  | noEdge
  /-- A word begins here. -/
  | opening
  /-- A word ends here. -/
  | closing
  /-- No character of a word stands before this place. -/
  | nothingBefore
  /-- No character of a word stands after this place. -/
  | nothingAfter
  deriving DecidableEq, Repr

/-- A condition on the place between two characters. -/
inductive Assertion where
  | textStart
  | textEnd
  /-- The start of a line; with `carriage`, a carriage return ends a line as well. -/
  | lineStart (carriage : Bool)
  /-- The end of a line; with `carriage`, a carriage return ends a line as well. -/
  | lineEnd (carriage : Bool)
  /-- The edge of words that consist of the characters of a set. -/
  | boundary (word : CharSet) (kind : Boundary)
  deriving DecidableEq, Repr

/-- Whether a condition holds between two characters, of which the text may lack one or both. -/
def Assertion.holds (before after : Option Char) : Assertion → Bool
  | textStart => before.isNone
  | textEnd => after.isNone
  | lineStart false => before.isNone || before == some '\n'
  | lineEnd false => after.isNone || after == some '\n'
  | lineStart true =>
      before.isNone || before == some '\n' || (before == some '\r' && after != some '\n')
  | lineEnd true =>
      after.isNone || after == some '\r' || (after == some '\n' && before != some '\r')
  | boundary word kind =>
      let left := before.any fun c => word.has c.toNat
      let right := after.any fun c => word.has c.toNat
      match kind with
      | .edge => left != right
      | .noEdge => left == right
      | .opening => !left && right
      | .closing => left && !right
      | .nothingBefore => !left
      | .nothingAfter => !right

/-- A regular expression. -/
inductive Regex where
  | empty
  /-- One character of a set. -/
  | chars (s : CharSet)
  /-- No character, at a place that satisfies a condition. -/
  | assert (a : Assertion)
  | seq (first second : Regex)
  | alt (left right : Regex)
  /-- Texts of an expression in a row, at least `least` and at most `most` of them. -/
  | repeated (e : Regex) (least : Nat) (most : Option Nat)
  /-- An expression whose text could be asked for. -/
  | capture (e : Regex)
  deriving DecidableEq, Repr

namespace Regex

/-- The expressions in a row. -/
def seqAll : List Regex → Regex
  | [] => .empty
  | [e] => e
  | e :: rest => .seq e (seqAll rest)

/-- One of the expressions. -/
def altAll : List Regex → Regex
  | [] => .empty
  | [e] => e
  | e :: rest => .alt e (altAll rest)

/-- For each place in a text the characters before and after it. -/
def places (text : List Char) : List (Option Char × Option Char) :=
  (none :: text.map some).zip (text.map some ++ [none])

/-- Marks the places behind a marked place and one character of a set. -/
def advance (s : CharSet) (text : List Char) (marks : List Bool) : List Bool :=
  false :: List.zipWith (fun c marked => marked && s.has c.toNat) text marks

/-- The places marked in one of two lists. -/
def either (a b : List Bool) : List Bool := List.zipWith (· || ·) a b

/-- Takes a step the given number of times. -/
def stepExactly (step : List Bool → List Bool) : Nat → List Bool → List Bool
  | 0, marks => marks
  | n + 1, marks => stepExactly step n (step marks)

/-- Takes a step any number of times up to the given one. -/
def stepUpTo (step : List Bool → List Bool) : Nat → List Bool → List Bool
  | 0, marks => marks
  | n + 1, marks => either marks (stepUpTo step n (step marks))

/-- The places where a text of an expression may end that begins at a marked place. A repetition
    without an upper bound needs no more rounds than there are places. -/
def reach (text : List Char) : Regex → List Bool → List Bool
  | .empty, marks => marks
  | .chars s, marks => advance s text marks
  | .assert a, marks =>
      List.zipWith (fun place marked => marked && a.holds place.1 place.2) (places text) marks
  | .seq a b, marks => reach text b (reach text a marks)
  | .alt a b, marks => either (reach text a marks) (reach text b marks)
  | .repeated e least most, marks =>
      let rounds := match most with
        | some most => min (most - least) (text.length + 1)
        | none => text.length + 1
      stepUpTo (reach text e) rounds (stepExactly (reach text e) least marks)
  | .capture e, marks => reach text e marks

/-- Whether some stretch of a line is a text of the expression. -/
def isMatch (e : Regex) (line : List Char) : Bool :=
  (reach line e (List.replicate (line.length + 1) true)).any id

/-- Whether an expression has no text but the empty one. -/
def isOnlyEmpty : Regex → Bool
  | .empty | .assert _ => true
  | .chars _ => false
  | .seq a b | .alt a b => isOnlyEmpty a && isOnlyEmpty b
  | .repeated e _ most => isOnlyEmpty e || most == some 0
  | .capture e => isOnlyEmpty e

/-- The repetition of an expression, without the rounds that cannot make a difference. -/
def repeatedMost (e : Regex) (least : Nat) (most : Option Nat) : Regex :=
  let (least, most) := if e.isOnlyEmpty then (min least 1, some (min (most.getD 1) 1))
    else (least, most)
  if least == 0 && most == some 0 then .empty
  else if least == 1 && most == some 1 then e
  else .repeated e least most

@[simp] theorem length_advance (s : CharSet) {text : List Char} {marks : List Bool}
    (h : marks.length = text.length + 1) : (advance s text marks).length = text.length + 1 := by
  simp [advance, h]

@[simp] theorem length_either (a b : List Bool) :
    (either a b).length = min a.length b.length := by
  simp [either]

end Regex

end CacheWarden.Pattern
