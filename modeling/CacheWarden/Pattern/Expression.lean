import CacheWarden.Pattern.Regex

/-!
# Written regular expressions

The form in which a regular expression is written: characters, classes in brackets, groups and
switches. What an expression means depends on the switches in force where it stands. The depth of
an expression is bounded, and `nesting` measures it.
-/

namespace CacheWarden.Pattern

/-- A switch that changes how the rest of a group is understood. -/
inductive Switch where
  | ignoreCase
  | multiLine
  | dotMatchesAll
  | swapGreed
  | unicode
  | carriageReturns
  | verbose
  deriving DecidableEq, Repr

/-- Switches to be turned on and off. -/
abbrev Switches := List (Switch × Bool)

/-- A single character. `isByte` says that it is written as two hexadecimal digits. -/
structure Literal where
  char : Char
  isByte : Bool := false
  deriving DecidableEq, Repr

/-- The classes that have a letter of their own. -/
inductive Shorthand where
  | digit
  | space
  | word
  deriving DecidableEq, Repr

/-- A property of characters: its name, or its name and value. -/
structure PropertyQuery where
  property : Option String
  value : String
  deriving DecidableEq, Repr

/-- How two sets in brackets are combined. -/
inductive Combination where
  | intersection
  | difference
  | symmetricDifference
  deriving DecidableEq, Repr

/-- What may stand in brackets. -/
inductive ClassItem where
  | char (c : Literal)
  | range (lo hi : Literal)
  | named (name : String) (negated : Bool)
  | shorthand (s : Shorthand) (negated : Bool)
  | property (q : PropertyQuery) (negated : Bool)
  | union (items : List ClassItem)
  | bracket (negated : Bool) (content : ClassItem)
  | combined (op : Combination) (left right : ClassItem)

/-- A place in a text, before the switches are known. -/
inductive Place where
  | lineStart
  | lineEnd
  | textStart
  | textEnd
  | boundary (kind : Boundary)
  deriving DecidableEq, Repr

/-- What a pair of parentheses does. -/
inductive Group where
  | capturing
  | switching (switches : Switches)
  deriving DecidableEq, Repr

/-- A written regular expression. -/
inductive Expression where
  | empty
  | switches (s : Switches)
  | char (c : Literal)
  | dot
  | place (p : Place)
  | shorthand (s : Shorthand) (negated : Bool)
  | property (q : PropertyQuery) (negated : Bool)
  | bracket (negated : Bool) (content : ClassItem)
  | repeated (e : Expression) (least : Nat) (most : Option Nat)
  | group (g : Group) (e : Expression)
  | sequence (items : List Expression)
  | alternatives (items : List Expression)

namespace Switches

/-- What is said about one of them, if anything. -/
def get? (s : Switches) (switch : Switch) : Option Bool := List.lookup switch s

end Switches

mutual

/-- How deep the brackets, unions and combinations of a class are nested. -/
def ClassItem.nesting : ClassItem → Nat
  | .char _ | .range .. | .named .. | .shorthand .. | .property .. => 0
  | .union items => ClassItem.nestingOfList items + (if items.length ≤ 1 then 0 else 1)
  | .bracket _ content => content.nesting + 1
  | .combined _ left right => max left.nesting right.nesting + 1

/-- The greatest nesting among the items of a union. -/
def ClassItem.nestingOfList : List ClassItem → Nat
  | [] => 0
  | item :: rest => max item.nesting (ClassItem.nestingOfList rest)

end

mutual

/-- How deep the parts of an expression are nested. -/
def Expression.nesting : Expression → Nat
  | .empty | .switches _ | .char _ | .dot | .place _ | .shorthand .. | .property .. => 0
  | .bracket _ content => content.nesting + 1
  | .repeated e .. => e.nesting + 1
  | .group _ e => e.nesting + 1
  | .sequence items | .alternatives items => Expression.nestingOfList items + 1

/-- The greatest nesting among several expressions. -/
def Expression.nestingOfList : List Expression → Nat
  | [] => 0
  | e :: rest => max e.nesting (Expression.nestingOfList rest)

end

namespace Expression

/-- The expressions one after the other; a single one stands for itself. -/
def ofSequence : List Expression → Expression
  | [] => .empty
  | [e] => e
  | items => .sequence items

/-- One of several expressions; a single one stands for itself. -/
def ofAlternatives : List Expression → Expression
  | [e] => e
  | items => .alternatives items

/-- The greatest nesting that is accepted. -/
def nestingLimit : Nat := 250

end Expression

end CacheWarden.Pattern
