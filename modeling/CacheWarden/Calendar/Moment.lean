import CacheWarden.Calendar.Date
import CacheWarden.Text.Blank
import CacheWarden.Text.Scan
import CacheWarden.Text.Search

/-!
# Moments

A day and a time of day, with no time zone. A second with number 60 is a leap second. Moments are
read in two forms: `Mon Jan 25 10:25:00 2021`, which is how a listing writes them, and
`2021-01-25T10:25:00.5`. A weekday has to be the one of its date. Numbers may have blanks in front.
-/

namespace CacheWarden.Calendar

open CacheWarden.Text

/-- A day and a time of day. -/
structure Moment where
  date : Date
  hour : Nat
  minute : Nat
  second : Nat
  nanosecond : Nat := 0
  deriving DecidableEq, Repr

namespace Moment

/-- How many nanoseconds a second has. -/
def nanosPerSecond : Nat := 1000000000

/-- Whether there is such a moment. -/
def isValid (m : Moment) : Bool :=
  m.date.isValid && m.hour ≤ 23 && m.minute ≤ 59 && m.second ≤ 60 && m.nanosecond < nanosPerSecond

/-! ### Writing -/

/-- A year with four digits or more. It has a sign if it is negative or has five digits. -/
def yearText (year : Int) : List Char :=
  if 0 ≤ year && year ≤ 9999 then padded 4 year.toNat
  else (if year < 0 then '-' else '+') :: padded 4 year.natAbs

/-- The day, written from the year to the day. -/
def dateText (d : Date) : List Char :=
  yearText d.year ++ '-' :: padded 2 d.month ++ '-' :: padded 2 d.day

/-- The time of day without a fraction. -/
def timeText (m : Moment) : List Char :=
  padded 2 m.hour ++ ':' :: padded 2 m.minute ++ ':' :: padded 2 m.second

/-- The fraction of a second, in thousandths, millionths or billionths; nothing for none. -/
def fractionText (nanosecond : Nat) : List Char :=
  if nanosecond == 0 then []
  else if nanosecond % 1000000 == 0 then '.' :: padded 3 (nanosecond / 1000000)
  else if nanosecond % 1000 == 0 then '.' :: padded 6 (nanosecond / 1000)
  else '.' :: padded 9 nanosecond

/-- The moment with a character between day and time. -/
def written (m : Moment) (separator : Char) : String :=
  String.ofList (dateText m.date ++ separator :: m.timeText ++ fractionText m.nanosecond)

/-- The moment with the letter T between day and time. -/
def text (m : Moment) : String := m.written 'T'

/-- The moment as tables show it, in whole seconds. -/
def tableText (m : Moment) : String :=
  String.ofList (dateText m.date ++ ' ' :: m.timeText)

/-! ### Reading -/

/-- Takes blanks. -/
def blanks : Scan Unit := do
  let _ ← Scan.takeWhile isBlank
  pure ()

/-- Takes one or more digits, `width` of them at most. -/
def digitsUpTo (width : Nat) : Scan Nat := fun s =>
  let digits := (s.take width).takeWhile isDigit
  (readNat? 10 digits).map fun n => (n, s.drop digits.length)

/-- Takes a number with blanks in front. -/
def number (width : Nat) : Scan Nat := do
  blanks
  digitsUpTo width

/-- Takes a year with blanks in front; with a sign it may have any number of digits. -/
def year : Scan Int := do
  blanks
  let s ← get
  match s with
  | '-' :: _ => do
      Scan.char '-'
      return -((← digitsUpTo s.length) : Int)
  | '+' :: _ => do
      Scan.char '+'
      return (← digitsUpTo s.length)
  | _ => return (← digitsUpTo 4)

/-- Takes one of some names of three letters, whatever their case, and gives its position. -/
def name (names : List String) : Scan Nat := fun s =>
  let found := names.findIdx fun n => sameIgnoringCase n.toList (s.take 3)
  if found < names.length then some (found, s.drop 3) else none

/-- Takes the fraction of a second, if there is one; digits beyond the ninth are left out. -/
def fraction : Scan Nat := do
  match ← Scan.peek? with
  | some '.' => do
      Scan.char '.'
      let digits ← Scan.takeSome isDigit
      let kept := digits.take 9
      return (readDigits 10 0 (kept ++ List.replicate (9 - kept.length) '0')).getD 0
  | _ => return 0

/-- The moment, if there is such a one. -/
def checked (m : Moment) : Scan Moment := if m.isValid then pure m else failure

/-- A moment as a listing writes it. -/
def listed : Scan Moment := do
  let weekday ← name weekdayNames
  blanks
  let month ← name monthNames
  blanks
  let day ← number 2
  blanks
  let hour ← number 2
  Scan.char ':'
  let minute ← number 2
  Scan.char ':'
  let second ← number 2
  blanks
  let year ← year
  let moment ← checked { date := ⟨year, month + 1, day⟩, hour, minute, second }
  if moment.date.weekday == weekday then pure moment else failure

/-- A moment with the letter T between day and time. -/
def dated : Scan Moment := do
  let year ← year
  blanks
  Scan.char '-'
  let month ← number 2
  blanks
  Scan.char '-'
  let day ← number 2
  blanks
  Scan.char 'T'
  let hour ← number 2
  blanks
  Scan.char ':'
  let minute ← number 2
  blanks
  Scan.char ':'
  let second ← number 2
  let nanosecond ← fraction
  blanks
  checked { date := ⟨year, month, day⟩, hour, minute, second, nanosecond }

/-- Reads a moment as a listing writes it. -/
def ofListing? (s : List Char) : Option Moment := Scan.whole? listed s

/-- Reads a moment with the letter T between day and time. -/
def ofText? (s : List Char) : Option Moment := Scan.whole? dated s

end Moment

end CacheWarden.Calendar
