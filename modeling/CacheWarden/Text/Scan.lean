import CacheWarden.Text.Numeral

/-!
# Scanning a text from the left

A scan takes characters from the front of a text and gives a value, or refuses the text. Scans are
put together with `do` (one after the other) and `<|>` (the second one where the first refuses).
Main statements: `run_exactly` and `run_takeWhile` say what the two basic scans take.
-/

namespace CacheWarden.Text

/-- Takes characters from the front of a text, or refuses it. -/
abbrev Scan (α : Type) : Type := StateT (List Char) Option α

namespace Scan

variable {α : Type}

/-- The next character, which is not taken. -/
def peek? : Scan (Option Char) := fun s => some (s.head?, s)

/-- Takes the next character, which has to satisfy `p`. -/
def satisfy (p : Char → Bool) : Scan Char
  | [] => none
  | c :: r => if p c then some (c, r) else none

/-- Takes the given characters. -/
def exactly (piece : List Char) : Scan Unit := fun s => (piece.isPrefixOf? s).map fun r => ((), r)

/-- Takes the given character. -/
def char (c : Char) : Scan Unit := exactly [c]

/-- Takes characters as long as they satisfy `p`. -/
def takeWhile (p : Char → Bool) : Scan (List Char) := fun s => some (s.takeWhile p, s.dropWhile p)

/-- Takes one or more characters that satisfy `p`. -/
def takeSome (p : Char → Bool) : Scan (List Char) := do
  let c ← satisfy p
  let r ← takeWhile p
  pure (c :: r)

/-- Takes exactly `n` characters that satisfy `p`. -/
def takeExactly (p : Char → Bool) : Nat → Scan (List Char)
  | 0 => pure []
  | n + 1 => do
      let c ← satisfy p
      let r ← takeExactly p n
      pure (c :: r)

/-- Succeeds only where nothing is left. -/
def atEnd : Scan Unit
  | [] => some ((), [])
  | _ => none

/-- A scan, or nothing where it refuses. -/
def maybe (x : Scan α) : Scan (Option α) := (some <$> x) <|> pure none

/-- Succeeds where the scan does, and takes nothing. -/
def ahead (x : Scan α) : Scan Unit := fun s => (x s).map fun _ => ((), s)

/-- Repeats a scan until it gives nothing; every round but the last has to take something, and the
    count bounds the rounds. -/
def repeatUpTo (x : Scan (Option α)) : Nat → Scan (List α)
  | 0 => fun _ => none
  | count + 1 => do
      match ← x with
      | none => pure []
      | some a =>
          let rest ← repeatUpTo x count
          pure (a :: rest)

/-- Repeats a scan until it gives nothing; every round but the last has to take something. -/
def repeated (x : Scan (Option α)) : Scan (List α) := fun s => repeatUpTo x (s.length + 1) s

/-- The value of a scan that takes a whole text. -/
def whole? (x : Scan α) (s : List Char) : Option α :=
  match x s with
  | some (a, []) => some a
  | _ => none

theorem run_exactly (piece rest : List Char) : exactly piece (piece ++ rest) = some ((), rest) := by
  have : ∀ piece : List Char, piece.isPrefixOf? (piece ++ rest) = some rest := by
    intro piece
    induction piece with
    | nil => rfl
    | cons c piece ih =>
      show (if c == c then piece.isPrefixOf? (piece ++ rest) else none) = some rest
      rw [if_pos (beq_self_eq_true c)]
      exact ih
  simp [exactly, this]

theorem run_takeWhile {p : Char → Bool} {taken rest : List Char} (h : ∀ c ∈ taken, p c = true)
    (hr : ∀ c, rest.head? = some c → p c = false) :
    takeWhile p (taken ++ rest) = some (taken, rest) := by
  simp only [takeWhile]
  have h2 : rest.takeWhile p = [] ∧ rest.dropWhile p = rest := by
    cases rest with
    | nil => simp
    | cons c r => simp [List.takeWhile, List.dropWhile, hr c rfl]
  rw [List.takeWhile_append_of_pos h, List.dropWhile_append_of_pos h, h2.1, h2.2,
    List.append_nil]

end Scan

end CacheWarden.Text
