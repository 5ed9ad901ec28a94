/-!
# UTF-8

Reading bytes as text. `decode?` accepts exactly the well-formed byte sequences. `decodeLossy`
accepts everything: each longest run of bytes that begins a character but cannot be completed, and
each byte that begins none, is read as one U+FFFD. Main statement: what was written from a text is
read back by both.
-/

namespace CacheWarden.Text.Utf8

/-- The bytes of a text. -/
def encode (s : String) : ByteArray := s.toUTF8

/-- The text of a well-formed byte sequence. -/
def decode? (bytes : ByteArray) : Option String := String.fromUTF8? bytes

/-- Reads `n` further bytes of a character, the next of them between `low` and `high`, and stops
    in front of the first byte that does not fit. -/
def readTail : Nat → Nat → Nat → Nat → List UInt8 → Option Nat × List UInt8
  | 0, _, _, value, rest => (some value, rest)
  | _ + 1, _, _, _, [] => (none, [])
  | n + 1, low, high, value, b :: rest =>
      if low ≤ b.toNat ∧ b.toNat ≤ high then
        readTail n 0x80 0xBF (value * 64 + (b.toNat - 0x80)) rest
      else (none, b :: rest)

/-- The code point that begins with byte `b`, if it can be completed, and the bytes after it. -/
def readOne (b : UInt8) (rest : List UInt8) : Option Nat × List UInt8 :=
  let n := b.toNat
  if n < 0x80 then (some n, rest)
  else if 0xC2 ≤ n ∧ n ≤ 0xDF then readTail 1 0x80 0xBF (n - 0xC0) rest
  else if n = 0xE0 then readTail 2 0xA0 0xBF 0 rest
  else if n = 0xED then readTail 2 0x80 0x9F 0xD rest
  else if 0xE1 ≤ n ∧ n ≤ 0xEF then readTail 2 0x80 0xBF (n - 0xE0) rest
  else if n = 0xF0 then readTail 3 0x90 0xBF 0 rest
  else if 0xF1 ≤ n ∧ n ≤ 0xF3 then readTail 3 0x80 0xBF (n - 0xF0) rest
  else if n = 0xF4 then readTail 3 0x80 0x8F 4 rest
  else (none, rest)

theorem length_readTail_le (n low high value : Nat) (rest : List UInt8) :
    (readTail n low high value rest).2.length ≤ rest.length := by
  induction n generalizing low high value rest with
  | zero => simp [readTail]
  | succ n ih =>
    cases rest with
    | nil => simp [readTail]
    | cons b rest =>
      simp only [readTail]
      split
      · exact Nat.le_trans (ih ..) (by simp)
      · simp

theorem length_readOne_le (b : UInt8) (rest : List UInt8) :
    (readOne b rest).2.length ≤ rest.length := by
  simp only [readOne]
  repeat' split
  all_goals simp [length_readTail_le]

/-- The characters of a byte sequence, with U+FFFD for what is no character. -/
def readAll : List UInt8 → List Char
  | [] => []
  | b :: rest =>
      ((readOne b rest).1.elim '\uFFFD' Char.ofNat) :: readAll (readOne b rest).2
termination_by bytes => bytes.length
decreasing_by exact Nat.lt_succ_of_le (length_readOne_le b rest)

/-- The text of any byte sequence, with U+FFFD for what is no character. -/
def decodeLossy (bytes : ByteArray) : String :=
  (decode? bytes).getD (String.ofList (readAll bytes.data.toList))

theorem decode?_encode (s : String) : decode? (encode s) = some s := by
  simp [decode?, encode, String.fromUTF8?, String.fromUTF8, s.isValidUTF8]

theorem decodeLossy_encode (s : String) : decodeLossy (encode s) = s := by
  simp [decodeLossy, decode?_encode]

end CacheWarden.Text.Utf8
