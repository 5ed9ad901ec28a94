import CacheWarden.CommandLine.Program
import Std.Time.DateTime

/-!
# The executable

Surrounds the program with a real machine: it looks at the files that a run may read or write, runs
the program on them, writes back what the run added, and prints both streams. Everything that is
decided is decided by `CommandLine.run`. Nothing here starts other programs, so the launcher of this
executable refuses every command; a host that can start programs hands its own launcher to
`CommandLine.run`.
-/

namespace CacheWarden

open CommandLine

/-- The launcher of a machine on which no program can be started. -/
def Launcher.refusing : Launcher := fun _ => .refused (.other "programs cannot be started here")

/-- The files besides the configuration that a run may read or write. -/
def pathsOf (i : Invocation) (config : Config) : List String :=
  let records := match i.action with
    | .check _ _ records => records
    | _ => none
  config.cacheFiles ++ (records <|> config.recordsFile).toList

/-- Where a place of a file tree is on the machine. -/
def absolutePath (place : Place) : String := "/" ++ "/".intercalate place

/-- The tree with what the machine has at a place, if it has anything there. -/
def lookAt (tree : FileTree) (place : Place) : IO FileTree := do
  let path := (← IO.currentDir) / absolutePath place
  if ← path.isDir then
    return tree.put place .directory
  match ← (IO.FS.readBinFile path).toBaseIO with
  | .ok content => return tree.put place (.file content)
  | .error _ => return tree

/-- The tree with what the machine has along some steps. -/
def lookAlong (tree : FileTree) (place : Place) : List String → IO FileTree
  | [] => return tree
  | name :: rest =>
      match FileTree.step place name with
      | .error _ => return tree
      | .ok next => do lookAlong (← lookAt tree next) next rest

/-- The tree with what the machine has along some paths. -/
def lookAtPaths (tree : FileTree) (paths : List String) : IO FileTree :=
  paths.foldlM (fun tree text =>
    let path := FilePath.ofString text
    lookAlong tree (tree.start path) path.steps) tree

/-- Brings to the machine what stands at a place after a run and was not there before. -/
def writeBack (before : FileTree) (place : Place) (node : FileNode) : IO Unit := do
  let path := absolutePath place
  match node, before.node? place with
  | .directory, none => IO.FS.createDirAll path
  | .file content, known =>
      let kept := match known with
        | some (.file old) => old.size
        | _ => 0
      if kept < content.size then
        let file ← IO.FS.Handle.mk path .append
        file.write (content.extract kept content.size)
  | .directory, some _ => return ()

/-- The time, with its distance from Greenwich. -/
def currentTime : IO String := do
  let now := Std.Time.PlainDateTime.ofWallTime (.ofDuration (← Std.Time.Timestamp.now).val)
  let moment : Calendar.Moment :=
    { date := ⟨now.year, now.month.toNat, now.day.toNat⟩, hour := now.hour.toNat
      minute := now.minute.toNat, second := now.second.toNat
      nanosecond := now.nanosecond.toNat }
  return moment.text ++ "+00:00"

/-- A random identity for a run, of the fourth version of such identities. -/
def randomIdentity : IO String := do
  let bytes := (← IO.getRandomBytes 16).toList.map UInt8.toNat
  let marked := bytes.mapIdx fun n b =>
    if n == 6 then 0x40 + b % 16 else if n == 8 then 0x80 + b % 64 else b
  let digits := marked.flatMap fun b => [Nat.digitChar (b / 16), Nat.digitChar (b % 16)]
  let group (start length : Nat) : String := String.ofList ((digits.drop start).take length)
  return "-".intercalate [group 0 8, group 8 4, group 12 4, group 16 4, group 20 12]

/-- The working directory as a place. -/
def workingDirectory : IO Place :=
  return (FilePath.ofString (← IO.currentDir).toString).steps

/-- The environment of the process. -/
def currentEnvironment : IO Environment :=
  return {
    configFile := ← IO.getEnv "SCC_CONFIG_FILE"
    workloadList := ← IO.getEnv "SCC_WL_CACHE_LIST"
    javaHome := ← IO.getEnv "JAVA_HOME" }

/-- The files that a run with these arguments may come to. -/
def relevantFiles (m : Machine) (args : List String) : IO FileTree := do
  let tree := FileTree.empty (← workingDirectory)
  match Invocation.read m.environment args with
  | .error _ => return tree
  | .ok i =>
      let tree ← lookAtPaths tree i.config.toList
      match (Config.load tree m.environment.javaHome i.config).value with
      | .error _ => return tree
      | .ok config => lookAtPaths tree (pathsOf i config)

/-- Runs the program on this machine and gives its exit code. What it does is worked out before
    anything is written, so its clock stands still. -/
def runHere (args : List String) : IO UInt32 := do
  let machine : Machine :=
    { launcher := .refusing, environment := ← currentEnvironment
      runId := ← randomIdentity, clock := ← currentTime }
  let files ← relevantFiles machine args
  let done := run machine args files
  for (place, node) in done.files.nodes.rows do
    writeBack files place node
  IO.print done.stdout
  IO.eprint done.stderr
  return done.exitCode.toUInt32

end CacheWarden

def main (args : List String) : IO UInt32 := CacheWarden.runHere args
