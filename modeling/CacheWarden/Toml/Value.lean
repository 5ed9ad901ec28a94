import CacheWarden.Decimal.Binary64

/-!
# TOML values

The values a TOML document can hold. The fields of a table stand in the ascending order of their
keys, whatever the order in which a document sets them.
-/

namespace CacheWarden.Toml

open Text

/-- A day of the calendar, as a document writes it. -/
structure Day where
  year : Nat
  month : Nat
  day : Nat
  deriving DecidableEq, Repr

/-- A time of day. -/
structure Clock where
  hour : Nat
  minute : Nat
  second : Nat
  nanosecond : Nat
  deriving DecidableEq, Repr

/-- How far local time is ahead of universal time. -/
inductive Offset where
  | universal
  | minutes (n : Int)
  deriving DecidableEq, Repr

/-- A date, a time of day, or both; with both there may be an offset. -/
inductive Moment where
  | day (d : Day)
  | clock (t : Clock)
  | both (d : Day) (t : Clock) (offset : Option Offset)
  deriving DecidableEq, Repr

/-- A TOML value. -/
inductive Value where
  | text (s : String)
  | integer (n : Int)
  | float (x : Decimal.Binary64)
  | boolean (b : Bool)
  | moment (m : Moment)
  | array (items : List Value)
  | table (fields : List (String × Value))

/-- A table of a document or the document itself. -/
abbrev Fields := List (String × Value)

/-- `2021-01-25` -/
def Day.text (d : Day) : List Char :=
  padded 4 d.year ++ '-' :: padded 2 d.month ++ '-' :: padded 2 d.day

/-- `10:25:00.5`, without zeros at the end of the fraction. -/
def Clock.text (t : Clock) : List Char :=
  let fraction :=
    if t.nanosecond = 0 then []
    else '.' :: ((padded 9 t.nanosecond).reverse.dropWhile (· == '0')).reverse
  padded 2 t.hour ++ ':' :: padded 2 t.minute ++ ':' :: padded 2 t.second ++ fraction

/-- `Z`, or hours and minutes with a sign. -/
def Offset.text : Offset → List Char
  | universal => ['Z']
  | minutes n =>
      let sign := if n < 0 then '-' else '+'
      sign :: padded 2 (n.natAbs / 60) ++ ':' :: padded 2 (n.natAbs % 60)

/-- The normal form of a date and time. -/
def Moment.text : Moment → List Char
  | day d => d.text
  | clock t => t.text
  | both d t offset => d.text ++ 'T' :: t.text ++ (offset.map Offset.text).getD []

/-- Fields in ascending order of their keys. -/
def sortFields (fields : Fields) : Fields := fields.mergeSort fun a b => decide (a.1 ≤ b.1)

end CacheWarden.Toml
