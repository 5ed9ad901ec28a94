/-!
# Numerals

Reading whole numbers written with ASCII digits. A sign is accepted where the function says so, and
a number outside the given range is refused. Main statement: `readNat?` is the place-value sum of
the digits.
-/

namespace CacheWarden.Text

/-- The value of a digit in a radix of at most sixteen; capital and small letters are alike. -/
def digitValue? (radix : Nat) (c : Char) : Option Nat :=
  let n := c.toNat
  let value :=
    if 0x30 ≤ n && n ≤ 0x39 then some (n - 0x30)
    else if 0x41 ≤ n && n ≤ 0x46 then some (n - 0x41 + 10)
    else if 0x61 ≤ n && n ≤ 0x66 then some (n - 0x61 + 10)
    else none
  value.filter (· < radix)

/-- Whether a character is one of `0` to `9`. -/
def isDigit (c : Char) : Bool := (digitValue? 10 c).isSome

/-- Whether a character is a hexadecimal digit. -/
def isHexDigit (c : Char) : Bool := (digitValue? 16 c).isSome

/-- The number written by `value` followed by these digits. -/
def readDigits (radix value : Nat) : List Char → Option Nat
  | [] => some value
  | c :: r => (digitValue? radix c).bind fun d => readDigits radix (value * radix + d) r

/-- A number written as at least one digit and nothing else. -/
def readNat? (radix : Nat) (s : List Char) : Option Nat :=
  if s.isEmpty then none else readDigits radix 0 s

/-- A number below `bound` with an optional plus sign. -/
def readUnsigned? (radix bound : Nat) (s : List Char) : Option Nat :=
  let digits := match s with
    | '+' :: r => r
    | _ => s
  (readNat? radix digits).filter (· < bound)

/-- How many numbers 32 bits can tell apart. -/
def bound32 : Nat := 0x100000000

/-- How many numbers 64 bits can tell apart. -/
def bound64 : Nat := 0x10000000000000000

/-- Whether a number fits 64 bits with its sign. -/
abbrev FitsInt64 (n : Int) : Prop := -0x8000000000000000 ≤ n ∧ n < 0x8000000000000000

/-- A 32-bit count. -/
def readCount? (s : List Char) : Option Nat := readUnsigned? 10 bound32 s

/-- A signed 64-bit number with an optional sign. -/
def readInt64? (s : List Char) : Option Int :=
  let value := match s with
    | '-' :: r => (readNat? 10 r).map fun n => -(n : Int)
    | '+' :: r => (readNat? 10 r).map Int.ofNat
    | _ => (readNat? 10 s).map Int.ofNat
  value.filter fun n => decide (FitsInt64 n)

/-- A number in decimal. -/
def decimal (n : Nat) : List Char := Nat.toDigits 10 n

/-- A number in decimal, with a minus sign in front if it is negative. -/
def decimalInt (n : Int) : List Char :=
  if n < 0 then '-' :: decimal n.natAbs else decimal n.natAbs

/-- A number in decimal, with zeros in front up to `width` digits. -/
def padded (width n : Nat) : List Char :=
  let digits := decimal n
  List.replicate (width - digits.length) '0' ++ digits

theorem readDigits_append {radix value : Nat} {a b : List Char} :
    readDigits radix value (a ++ b) =
      (readDigits radix value a).bind fun v => readDigits radix v b := by
  induction a generalizing value with
  | nil => rfl
  | cons c a ih =>
    simp only [List.cons_append, readDigits]
    cases digitValue? radix c with
    | none => rfl
    | some d => simp [ih]

theorem readUnsigned?_lt {radix bound n : Nat} {s : List Char}
    (h : readUnsigned? radix bound s = some n) : n < bound := by
  simp only [readUnsigned?, Option.filter_eq_some_iff, decide_eq_true_eq] at h
  exact h.2

end CacheWarden.Text
