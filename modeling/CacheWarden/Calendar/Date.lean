/-!
# Dates

Days of the Gregorian calendar, which is taken to hold for all years, those before the first one
included.
-/

namespace CacheWarden.Calendar

/-- A day. -/
structure Date where
  year : Int
  month : Nat
  day : Nat
  deriving DecidableEq, Repr

/-- Whether a year has 366 days. -/
def isLeapYear (year : Int) : Bool := year % 4 == 0 && (year % 100 != 0 || year % 400 == 0)

/-- How many days the months of a year have, from January on. -/
def monthLengths (year : Int) : List Nat :=
  [31, if isLeapYear year then 29 else 28, 31, 30, 31, 30, 31, 31, 30, 31, 30, 31]

namespace Date

/-- Whether there is such a day, in one of the years that can be told apart. -/
def isValid (d : Date) : Bool :=
  -262143 ≤ d.year && d.year ≤ 262142 && 1 ≤ d.month && 1 ≤ d.day &&
    (monthLengths d.year)[d.month - 1]?.any fun length => d.day ≤ length

/-- The number of a day within its year; the first of January has number one. -/
def dayOfYear (d : Date) : Nat := ((monthLengths d.year).take (d.month - 1)).foldl (· + ·) 0 + d.day

/-- The number of a day; the first of January of the year one has number one. -/
def dayNumber (d : Date) : Int :=
  let before := d.year - 1
  365 * before + before.fdiv 4 - before.fdiv 100 + before.fdiv 400 + d.dayOfYear

/-- The day of the week; zero is Monday. -/
def weekday (d : Date) : Nat := ((d.dayNumber - 1) % 7).toNat

theorem weekday_lt (d : Date) : d.weekday < 7 := by
  unfold weekday
  omega

end Date

/-- The days of the week, from Monday on. -/
def weekdayNames : List String := ["Mon", "Tue", "Wed", "Thu", "Fri", "Sat", "Sun"]

/-- The months, from January on. -/
def monthNames : List String :=
  ["Jan", "Feb", "Mar", "Apr", "May", "Jun", "Jul", "Aug", "Sep", "Oct", "Nov", "Dec"]

end CacheWarden.Calendar
