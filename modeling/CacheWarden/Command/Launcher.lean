import CacheWarden.Command.Basic
import CacheWarden.Failure
import CacheWarden.Log

/-!
# Running commands

A launcher says what becomes of a command: it is refused, or it ends after some time. Running a
command under a launcher logs it, adds it to the calls made so far, and gives its output, unless the
command takes longer than its limit. A text with a NUL character never reaches the launcher.
-/

namespace CacheWarden

/-- What becomes of a command that is started. -/
inductive Launch where
  | refused (cause : IoFailure)
  | ended (exitCode : Option Int) (stdout stderr : ByteArray) (elapsedMs : Nat)

/-- What becomes of every command. -/
abbrev Launcher := Command → Launch

/-- The longest time that a call may take, in thousandths of a second; none for any time. -/
abbrev Limit := Option Nat

/-- Whether a time is within a limit. -/
def Limit.admits (limit : Limit) (elapsedMs : Nat) : Bool := limit.all fun most => elapsedMs ≤ most

/-- A limit in seconds. -/
def Limit.ofSeconds (seconds : Nat) : Limit := some (seconds * 1000)

/-- The failure of an operation that took longer than its limit. -/
def Limit.failure (limit : Limit) (operation : String) : Failure :=
  .storeTimeout operation (limit.getD 0 / 1000)

/-- A computation that logs lines and works on a state. -/
abbrev Session (σ α : Type) := StateT σ Logged α

namespace Session

variable {σ : Type}

/-- Logs a line for people who look for a fault. -/
def debug (message : String) : Session σ Unit := StateT.lift (Logged.debug message)

/-- Logs a line about the course of a run. -/
def info (message : String) : Session σ Unit := StateT.lift (Logged.info message)

/-- Logs a line about something that is not as it should be. -/
def warn (message : String) : Session σ Unit := StateT.lift (Logged.warn message)

end Session

/-- The commands that were given to the launcher, in their order. -/
abbrev Calls := List Command

namespace Command

/-- Whether a NUL character stands in a command. -/
def hasNul (c : Command) : Bool :=
  (c.program :: c.args).any fun s => s.toList.contains '\x00'

/-- The output of a program that ended. -/
def outputOf (exitCode : Option Int) (stdout stderr : ByteArray) : CommandOutput where
  exitCode
  stdout := Text.Utf8.decodeLossy stdout
  stderr := Text.Utf8.decodeLossy stderr

/-- Runs a command. Nothing comes back if it takes longer than its limit. -/
def run (launcher : Launcher) (limit : Limit) (c : Command) :
    Session Calls (Option (Except Failure CommandOutput)) := do
  Session.debug s!"Executing: {c.text}"
  if c.hasNul then
    return some (.error (.commandFailed c.text .nulCharacter))
  modify (· ++ [c])
  match launcher c with
  | .refused cause => return some (.error (.commandFailed c.text cause))
  | .ended exitCode stdout stderr elapsed =>
      if !limit.admits elapsed then return none
      Session.debug s!"Exit code {CommandOutput.exitText exitCode} from {c.program}"
      return some (.ok (outputOf exitCode stdout stderr))

end Command

end CacheWarden
