import CacheWarden.LaunchOption
import CacheWarden.Reaper.Mode

/-!
# Run configuration

What a run is to do, and how the runtime launcher is reached. Every field has a value: a
configuration file only has to say what differs from the defaults.
-/

namespace CacheWarden

/-- How the runtime launcher is reached. -/
structure LauncherSettings where
  /-- The launcher's program file. -/
  java : String
  /-- The `-Xshareclasses` option that the workloads were started with. -/
  sharedClassesOption : Option String := none
  /-- The longest time a single call may take. -/
  timeoutSecs : Nat := 300
  deriving DecidableEq, Repr

/-- What a run is to do. -/
structure Config where
  /-- The directory to search for caches; none for the directory that the runtime picks. -/
  cacheDir : Option String := none
  /-- Whether the directory comes from the launch option and not from `cacheDir`. -/
  commandLineValues : Bool := false
  /-- Whether workload caches are destroyed after verification. -/
  delete : Bool := false
  /-- How many workload caches there should be. -/
  expectedCacheCount : Option Nat := none
  /-- The files that declare caches. -/
  cacheFiles : List String := []
  /-- Whether a different count fails the run. -/
  strictCountCheck : Bool := false
  /-- How many eligible caches one reap pass destroys. -/
  reapMode : ReapMode := .single
  /-- Where records are appended. -/
  recordsFile : Option String := none
  launcher : LauncherSettings
  deriving DecidableEq, Repr

/-- The directory that store calls use. -/
def Config.effectiveLocation (c : Config) : Option String :=
  if c.commandLineValues then
    (c.launcher.sharedClassesOption.bind fun o => LaunchOption.cacheDir? o.toList).map String.ofList
  else c.cacheDir

end CacheWarden
