/-!
# Log lines and logged values

What a run tells about itself on the way: lines of three levels. `Logged α` is a value together
with the lines logged while it was found; it is a monad whose `bind` puts the lines in the order in
which they came up. Main statements: the monad laws, and that logging never changes a value.
-/

namespace CacheWarden

/-- How much a log line matters. -/
inductive Level where
  | debug
  | info
  | warn
  deriving DecidableEq, Repr

/-- The levels in ascending order of weight. -/
def Level.weight : Level → Nat
  | .debug => 0
  | .info => 1
  | .warn => 2

/-- One log line; `cache` is the cache it is about, where that is written after the message. -/
structure LogLine where
  level : Level
  message : String
  cache : Option String := none
  deriving DecidableEq, Repr

/-- A value and the lines logged while it was found. -/
structure Logged (α : Type) where
  value : α
  log : List LogLine
  deriving Repr

namespace Logged

variable {α β : Type}

instance : Monad Logged where
  pure a := ⟨a, []⟩
  bind x f := ⟨(f x.value).value, x.log ++ (f x.value).log⟩

/-- Logs one line. -/
def line (l : LogLine) : Logged Unit := ⟨(), [l]⟩

/-- Logs several lines. -/
def lines (ls : List LogLine) : Logged Unit := ⟨(), ls⟩

/-- Logs a line for people who look for a fault. -/
def debug (message : String) : Logged Unit := line { level := .debug, message }

/-- Logs a line about the course of a run. -/
def info (message : String) : Logged Unit := line { level := .info, message }

/-- Logs a line about something that is not as it should be. -/
def warn (message : String) : Logged Unit := line { level := .warn, message }

theorem ext {x y : Logged α} (hv : x.value = y.value) (hl : x.log = y.log) : x = y := by
  cases x; cases y; simp_all

@[simp] theorem value_pure (a : α) : (pure a : Logged α).value = a := rfl

@[simp] theorem log_pure (a : α) : (pure a : Logged α).log = [] := rfl

@[simp] theorem value_bind (x : Logged α) (f : α → Logged β) :
    (x >>= f).value = (f x.value).value := rfl

@[simp] theorem log_bind (x : Logged α) (f : α → Logged β) :
    (x >>= f).log = x.log ++ (f x.value).log := rfl

instance : LawfulMonad Logged := LawfulMonad.mk' Logged
  (fun x => ext rfl (List.append_nil x.log))
  (fun a f => ext rfl (List.nil_append _))
  (fun x f g => ext rfl (List.append_assoc ..))

@[simp] theorem value_map (f : α → β) (x : Logged α) : (f <$> x).value = f x.value := rfl

end Logged

/-- Whether a line is written when only lines of at least this level are. -/
def LogLine.passes (least : Level) (l : LogLine) : Bool := least.weight ≤ l.level.weight

end CacheWarden
