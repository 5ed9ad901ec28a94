import CacheWarden.Text.Numeral

/-!
# Binary floating-point numbers and decimal text

The numbers of 64 bits with a mantissa of 53 bits, as the values they stand for. `ofDecimal` is the
number nearest to a decimal, and of two equally near ones that with the even mantissa. `shortest` is
the decimal with the fewest digits that is read back as the number; of several such decimals it is
the nearest one, and of two equally near ones the larger. `text` writes all its digits before and
after the point, without an exponent.
-/

namespace CacheWarden.Decimal

open Text

/-- A binary floating-point number of 64 bits. -/
inductive Binary64 where
  /-- No number; it has no sign. -/
  | nan
  /-- A value out of range. -/
  | infinite (negative : Bool)
  /-- `mantissa · 2 ^ exponent`, with a sign. -/
  | finite (negative : Bool) (mantissa : Nat) (exponent : Int)
  deriving DecidableEq, Repr

/-- The least mantissa of a number that is not too small to have all its digits. -/
def leastMantissa : Nat := 0x10000000000000

/-- The quotient rounded to the nearest whole number, a half to the even neighbour. -/
def roundDiv (num den : Nat) : Nat :=
  let q := num / den
  let r := num % den
  if 2 * r < den then q
  else if den < 2 * r then q + 1
  else if q % 2 = 0 then q else q + 1

/-- A power with an exponent of any sign, as a fraction. -/
def power (base : Nat) (exponent : Int) : Nat × Nat :=
  if 0 ≤ exponent then (Nat.pow base exponent.toNat, 1) else (1, Nat.pow base (-exponent).toNat)

/-- The mantissa of a positive fraction for a unit of `2 ^ exponent`. -/
def mantissaAt (num den : Nat) (exponent : Int) : Nat :=
  let (up, down) := power 2 exponent
  roundDiv (num * down) (den * up)

/-- The number nearest to a positive fraction. -/
def ofFraction (negative : Bool) (num den : Nat) : Binary64 :=
  let guess : Int := (Nat.log2 num : Int) - (Nat.log2 den : Int) - 52
  let (up, down) := power 2 guess
  -- The guess is right or one too large.
  let exponent := if num * down < den * up * leastMantissa then guess - 1 else guess
  let exponent := max exponent (-1074)
  let mantissa := mantissaAt num den exponent
  let (mantissa, exponent) :=
    if mantissa = 2 * leastMantissa then (leastMantissa, exponent + 1) else (mantissa, exponent)
  if 971 < exponent then .infinite negative else .finite negative mantissa exponent

/-- The number nearest to `digits · 10 ^ scale`. -/
def ofDecimal (negative : Bool) (digits : Nat) (scale : Int) : Binary64 :=
  let magnitude : Int := (decimal digits).length + scale
  if digits = 0 ∨ magnitude < -330 then .finite negative 0 (-1074)
  else if 330 < magnitude then .infinite negative
  else
    let (up, down) := power 10 scale
    ofFraction negative (digits * up) down

/-- The largest decimal grid on which a number has a neighbour that is read back as it, looking at
    no more than the given count of grids; the result is that neighbour in grid units. -/
def searchGrid (mantissa : Nat) (exponent : Int) : Nat → Int → Nat × Int
  | 0, grid => (0, grid)
  | count + 1, grid =>
      -- All values are taken in quarters of the last binary place.
      let low := 4 * mantissa - (if mantissa = leastMantissa ∧ -1074 < exponent then 1 else 2)
      let value := 4 * mantissa
      let high := 4 * mantissa + 2
      let (gridUp, gridDown) := power 10 grid
      let (unitUp, unitDown) := power 2 (exponent - 2)
      let scaleGrid (n : Nat) : Nat := n * gridUp * unitDown
      let scaleUnit (n : Nat) : Nat := n * unitUp * gridDown
      let inside (n : Nat) : Bool :=
        let n := scaleGrid n
        if mantissa % 2 = 0 then scaleUnit low ≤ n ∧ n ≤ scaleUnit high
        else scaleUnit low < n ∧ n < scaleUnit high
      let below := scaleUnit value / (gridUp * unitDown)
      let above := below + 1
      let nearerAbove : Bool :=
        scaleGrid above - scaleUnit value ≤ scaleUnit value - scaleGrid below
      if inside below && inside above then (if nearerAbove then above else below, grid)
      else if inside below then (below, grid)
      else if inside above then (above, grid)
      else searchGrid mantissa exponent count (grid - 1)

/-- The decimal `digits · 10 ^ scale` with the fewest digits that is read back as the number. -/
def shortest (mantissa : Nat) (exponent : Int) : Nat × Int :=
  let (up, down) := power 2 exponent
  let whole := mantissa * up / down
  let places : Int :=
    if whole = 0 then -((decimal (down / (mantissa * up))).length : Int) + 1
    else (decimal whole).length
  searchGrid mantissa exponent 25 places

/-- All digits of `digits · 10 ^ scale`, with at least one before and after the point. -/
def positional (digits : Nat) (scale : Int) : List Char :=
  if 0 ≤ scale then decimal digits ++ List.replicate scale.toNat '0' ++ ['.', '0']
  else
    let places := (-scale).toNat
    let text := padded (places + 1) digits
    text.take (text.length - places) ++ '.' :: text.drop (text.length - places)

/-- Drops zeros at the end of the digits. -/
def dropZeros : Nat → Nat → Int → Nat × Int
  | 0, digits, scale => (digits, scale)
  | count + 1, digits, scale =>
      if digits ≠ 0 ∧ digits % 10 = 0 then dropZeros count (digits / 10) (scale + 1)
      else (digits, scale)

/-- The decimal text of a number. -/
def Binary64.text : Binary64 → List Char
  | .nan => "nan".toList
  | .infinite negative => if negative then "-inf".toList else "inf".toList
  | .finite negative mantissa exponent =>
      let sign := if negative then ['-'] else []
      if mantissa = 0 then sign ++ "0.0".toList
      else
        let (digits, scale) := shortest mantissa exponent
        let (digits, scale) := dropZeros 25 digits scale
        sign ++ positional digits scale

end CacheWarden.Decimal
