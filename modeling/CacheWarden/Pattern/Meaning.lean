import CacheWarden.Pattern.Property
import CacheWarden.Pattern.Reader
import CacheWarden.Text.CaseFold

/-!
# The meaning of written regular expressions

Turns a written regular expression into a regular expression, under the switches that are in force
at each of its parts. A switch holds to the end of the group in which it is turned, through all
alternatives that follow. Without the switch `unicode`, a part that would match anything but ASCII
is refused, single characters apart.
-/

namespace CacheWarden.Pattern

open CacheWarden.Text

/-- The switches in force; `unicode` is on at first and all others are off. -/
structure Settings where
  ignoreCase : Bool := false
  multiLine : Bool := false
  dotMatchesAll : Bool := false
  unicode : Bool := true
  carriageReturns : Bool := false
  deriving DecidableEq, Repr

namespace Settings

/-- The settings with one switch turned. -/
def turn (s : Settings) : Switch × Bool → Settings
  | (.ignoreCase, on) => { s with ignoreCase := on }
  | (.multiLine, on) => { s with multiLine := on }
  | (.dotMatchesAll, on) => { s with dotMatchesAll := on }
  | (.unicode, on) => { s with unicode := on }
  | (.carriageReturns, on) => { s with carriageReturns := on }
  | (.swapGreed, _) | (.verbose, _) => s

/-- The settings with some switches turned. -/
def turnAll (s : Settings) (switches : Switches) : Settings := switches.foldl turn s

/-- The set with all characters that differ from one of its members in case, where case does not
    matter. -/
def foldCase (s : Settings) (set : CharSet) : CharSet :=
  if s.ignoreCase then CaseFold.close (!s.unicode) set else set

/-- The complement of a set, if it is asked for. -/
def negate? (s : Settings) (negated : Bool) (set : CharSet) : Option CharSet :=
  if !negated then some set
  else if s.unicode then some (CharSet.complement CharSet.top set)
  else none

/-- The characters of words. -/
def word (s : Settings) : CharSet :=
  if s.unicode then CharProperty.word else CharSet.ofText "30-39 41-5A 5F 61-7A"

/-- The members of a class that has a letter of its own. -/
def shorthand (s : Settings) : Shorthand → CharSet
  | .word => s.word
  | .digit => if s.unicode then CharProperty.digit else CharSet.ofText "30-39"
  | .space => if s.unicode then CharProperty.blank else CharSet.ofText "9-D 20"

/-- The members of a class of characters with a property. -/
def property? (s : Settings) (q : PropertyQuery) (negated : Bool) : Option CharSet :=
  if s.unicode then q.members?.bind fun set => s.negate? negated (s.foldCase set) else none

/-- What the dot matches: any character, or any that does not end a line. -/
def dot? (s : Settings) : Option CharSet :=
  if !s.unicode then none
  else if s.dotMatchesAll then some [(0, CharSet.top)]
  else if s.carriageReturns then
    some (CharSet.complement CharSet.top [(0xA, 0xA), (0xD, 0xD)])
  else some (CharSet.complement CharSet.top [(0xA, 0xA)])

/-- The condition on a place. -/
def place (s : Settings) : Place → Assertion
  | .lineStart => if s.multiLine then .lineStart s.carriageReturns else .textStart
  | .lineEnd => if s.multiLine then .lineEnd s.carriageReturns else .textEnd
  | .textStart => .textStart
  | .textEnd => .textEnd
  | .boundary kind => .boundary s.word kind

/-- A single character. Bytes beyond ASCII are no characters. -/
def char? (s : Settings) (c : Literal) : Option CharSet :=
  if !s.unicode && c.isByte && 0x7F < c.char.toNat then none
  else some (s.foldCase (CharSet.single c.char))

/-- Whether a character may stand in a class. -/
def admits (s : Settings) (c : Literal) : Bool := s.unicode || c.char.toNat ≤ 0x7F

end Settings

/-- Two sets combined. -/
def Combination.apply : Combination → CharSet → CharSet → CharSet
  | .intersection => CharSet.inter
  | .difference => CharSet.diff
  | .symmetricDifference => CharSet.symmDiff

mutual

/-- The members of what stands in brackets. -/
def ClassItem.members? (s : Settings) : ClassItem → Option CharSet
  | .char c => if s.admits c then some (CharSet.single c.char) else none
  | .range lo hi =>
      if s.admits lo && s.admits hi then some [(lo.char.toNat, hi.char.toNat)] else none
  | .named name negated =>
      (namedClass? name).bind fun set => s.negate? negated (s.foldCase set)
  | .shorthand letter negated => s.negate? negated (s.shorthand letter)
  | .property q negated => s.property? q negated
  | .union items => ClassItem.membersOfList? s items
  | .bracket negated content =>
      (content.members? s).bind fun set => s.negate? negated (s.foldCase set)
  | .combined op left right =>
      (left.members? s).bind fun a =>
        (right.members? s).map fun b => op.apply (s.foldCase a) (s.foldCase b)

/-- The members of all items of a union. -/
def ClassItem.membersOfList? (s : Settings) : List ClassItem → Option CharSet
  | [] => some []
  | item :: rest =>
      (item.members? s).bind fun a =>
        (ClassItem.membersOfList? s rest).map fun b => CharSet.union a b

end

mutual

/-- The meaning of an expression, and the settings in force behind it. -/
def Expression.meaning? (s : Settings) : Expression → Option (Regex × Settings)
  | .empty => some (.empty, s)
  | .switches w => some (.empty, s.turnAll w)
  | .char c => (s.char? c).map fun set => (.chars set, s)
  | .dot => s.dot?.map fun set => (.chars set, s)
  | .place p => some (.assert (s.place p), s)
  | .shorthand letter negated =>
      (s.negate? negated (s.shorthand letter)).map fun set => (.chars set, s)
  | .property q negated => (s.property? q negated).map fun set => (.chars set, s)
  | .bracket negated content =>
      ((ClassItem.bracket negated content).members? s).map fun set => (.chars set, s)
  | .repeated e least most =>
      (e.meaning? s).map fun (r, s) => (r.repeatedMost least most, s)
  | .group .capturing e => (e.meaning? s).map fun (r, _) => (.capture r, s)
  | .group (.switching w) e => (e.meaning? (s.turnAll w)).map fun (r, _) => (r, s)
  | .sequence items =>
      (Expression.meanings? s items).map fun (rs, s) => (Regex.seqAll rs, s)
  | .alternatives items =>
      (Expression.meanings? s items).map fun (rs, s) => (Regex.altAll rs, s)

/-- The meanings of several expressions, each under the settings that the one before it leaves. -/
def Expression.meanings? (s : Settings) : List Expression → Option (List Regex × Settings)
  | [] => some ([], s)
  | e :: rest =>
      (e.meaning? s).bind fun (r, s) =>
        (Expression.meanings? s rest).map fun (rs, s) => (r :: rs, s)

end

/-! ### Bounds -/

namespace Regex

/-- A character set that holds one code point takes as many steps as its UTF-8 form has bytes. -/
def sizeOfSet : CharSet → Nat
  | [] => 32
  | [(lo, hi)] =>
      if lo == hi then 32 * (if lo < 0x80 then 1 else if lo < 0x800 then 2 else
        if lo < 0x10000 then 3 else 4)
      else if hi < 0x80 then 32 else 128
  | s => 64 + (if s.all fun r => r.2 < 0x80 then 8 else 24) * s.length

/-- The number of bytes that an expression takes when its repetitions are written out. -/
def size : Regex → Nat
  | .empty => 32
  | .chars s => sizeOfSet s
  | .assert _ => 32
  | .seq a b => a.size + b.size
  | .alt a b => a.size + b.size + 40
  | .repeated e least (some most) => least * e.size + (most - least) * (e.size + 32) + 32
  | .repeated e least none => max least 1 * e.size + 64
  | .capture e => e.size + 64

/-- The greatest size that is accepted. -/
def sizeLimit : Nat := 0xA00000

/-- Reads a regular expression. -/
def read? (text : List Char) : Option Regex :=
  (Expression.read? text).bind fun e =>
    (e.meaning? {}).bind fun (r, _) => if r.size ≤ sizeLimit then some r else none

end Regex

end CacheWarden.Pattern
