import CacheWarden.CommandLine.Answer
import CacheWarden.CommandLine.LogText

/-!
# The program

From arguments, a file tree and a launcher to everything a run leaves behind: its exit code, both
streams, the files and the commands given to the launcher.
-/

namespace CacheWarden.CommandLine

/-- What a run leaves behind. -/
structure Finished where
  exitCode : Nat
  stdout : String := ""
  stderr : String := ""
  /-- Why nothing was done, if that is so. -/
  refusal : Option Refusal := none
  files : FileTree
  calls : Calls := []

/-- The least level of the lines that are logged. -/
def leastLevel (verbosity : Nat) : Level :=
  match verbosity with
  | 0 => .warn
  | 1 => .info
  | _ => .debug

/-- The version of the program. -/
def version : String := "0.3.0"

/-- The short description of a command. -/
def usageOf (c : Scope) : String :=
  let names := c.children.map Prod.fst
  let options := c.switches.map fun s => "--" ++ s.long
  let commands := if names.isEmpty then "" else "\nCommands: " ++ " ".intercalate names
  "Usage: " ++ c.fullName ++ "\nOptions: " ++ " ".intercalate options ++ commands ++ "\n"

/-- The end of a run in which nothing was done. -/
def refuse (files : FileTree) (r : Refusal) : Finished :=
  match r with
  | .version c =>
      { exitCode := 0, stdout := s!"{c.fullName} {version}\n", refusal := some r, files }
  | .help c => { exitCode := 0, stdout := usageOf c, refusal := some r, files }
  | .usage =>
      { exitCode := 1, stderr := "error: invalid arguments\n\n" ++ usageOf .program
        refusal := some r, files }

/-- The lines that report a failure. -/
def failureLines (e : Failure) : List String :=
  s!"Error: {e.message}" :: (e.hint?.map fun hint => s!"Hint: {hint}").toList

/-- The written log of a run. -/
def logLines (m : Machine) (i : Invocation) (log : List LogLine) : List String :=
  let kept := log.filter fun l => l.passes (leastLevel i.verbosity)
  match i.logFormat with
  | .text => kept.map LogLine.text
  | .json => kept.mapIdx fun n => LogLine.json (m.logClock.time n)

/-- Lines with their line ends. -/
def ofLines (lines : List String) : String := String.join (lines.map fun line => line ++ "\n")

/-- Runs the program. -/
def run (m : Machine) (args : List String) (files : FileTree) : Finished :=
  match Invocation.read m.environment args with
  | .error r => refuse files r
  | .ok i =>
      let done := (answer m i).run { files, store := [] }
      let (answer, world) := done.value
      let failed := (answer.failure.map failureLines).getD []
      { exitCode := if answer.failure.isSome then 1 else 0
        stdout := answer.printed
        stderr := ofLines (logLines m i done.log ++ failed)
        files := world.files
        calls := world.store }

end CacheWarden.CommandLine
