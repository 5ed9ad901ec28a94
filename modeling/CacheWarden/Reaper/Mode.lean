import CacheWarden.Text.Search

/-!
# Reap modes

How many eligible caches one pass of the reaper destroys.
-/

namespace CacheWarden

/-- How many eligible caches one reap pass destroys. -/
inductive ReapMode where
  /-- The first one. -/
  | single
  /-- Every one. -/
  | all
  deriving DecidableEq, Repr, Inhabited

namespace ReapMode

/-- The name of a mode. -/
def name : ReapMode → String
  | single => "single"
  | all => "all"

/-- The mode with a name, in any ASCII case. -/
def ofName? (s : String) : Option ReapMode :=
  let lower := Text.lowerAscii s.toList
  if lower == "single".toList || lower == "one".toList then some single
  else if lower == "all".toList then some all
  else none

/-- What is said about a name of no mode. -/
def unknownMessage (s : String) : String :=
  s!"unknown reap mode '{String.ofList (Text.lowerAscii s.toList)}'"

theorem ofName?_name (m : ReapMode) : ofName? m.name = some m := by
  cases m <;> rfl

end ReapMode

end CacheWarden
