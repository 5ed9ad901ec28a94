import CacheWarden.Log
import CacheWarden.Text.Blank
import CacheWarden.Text.Numeral
import CacheWarden.Text.Search

/-!
# Values of settings

Settings are advice written by a harness, so a value that cannot be read does not stop a run: a
default takes its place. The readers still tell a value that was set from one that was defaulted.
-/

namespace CacheWarden.Setting

open Text

/-- The text of a value that could not be read, as it was written. -/
structure Unreadable where
  raw : String
  deriving DecidableEq, Repr

/-- What is said about an unreadable value. -/
def Unreadable.message (u : Unreadable) : String := s!"unreadable value '{u.raw}'"

/-- The truth value a trimmed text writes, in any ASCII case. -/
def bool? (s : List Char) : Option Bool :=
  if sameIgnoringCase s "true".toList then some true
  else if sameIgnoringCase s "false".toList then some false
  else none

/-- A truth value: `true` or `false` in any ASCII case, with blanks around it. -/
def readBool (raw : String) : Except Unreadable Bool :=
  match bool? (trim raw.toList) with
  | some b => .ok b
  | none => .error ⟨raw⟩

/-- A count that fits 32 bits, with blanks around it. -/
def readCount (raw : String) : Except Unreadable Nat :=
  match readCount? (trim raw.toList) with
  | some n => .ok n
  | none => .error ⟨raw⟩

/-- A truth value that is `false` where it is missing or unreadable. -/
def lenientBool (key : String) (raw : Option String) : Logged Bool :=
  match raw.map readBool with
  | none => pure false
  | some (.ok b) => pure b
  | some (.error u) => do
      Logged.warn s!"{key} has {u.message}, treating it as false"
      pure false

theorem lenientBool_value (key : String) (raw : Option String) :
    (lenientBool key raw).value = ((raw.bind fun r => bool? (trim r.toList)).getD false) := by
  cases raw with
  | none => rfl
  | some r =>
    simp only [lenientBool, Option.map_some, Option.bind_some, readBool]
    cases bool? (trim r.toList) <;> rfl

end CacheWarden.Setting
