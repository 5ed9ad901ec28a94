import CacheWarden.Config.Basic
import CacheWarden.Files.Path
import CacheWarden.Properties
import CacheWarden.Setting

/-!
# Configurations from settings

A configuration is read from a set of settings. A setting that cannot be read is logged, and its
default counts. Settings that nobody knows are left alone.
-/

namespace CacheWarden.Config

open Text

/-- The location that stands for the runtime's own choice. -/
def defaultLocation : String := "default"

/-- The launcher that is used when no setting names one: the one of the installation at `javaHome`,
    or the one that the command search finds. -/
def defaultLauncher (javaHome : Option String) : String :=
  match javaHome with
  | some home => FilePath.below (FilePath.below home "bin") "java"
  | none => "java"

/-- The value of a key, if it is not empty. -/
def filled? (props : Properties) (key : String) : Option String :=
  (props.get? key).filter (· != "")

/-- The cache directory: neither empty nor the word for the runtime's own choice. -/
def readCacheDir (props : Properties) : Logged (Option String) :=
  let named := ((props.get? "cacheDir").map fun raw => String.ofList (trim raw.toList)).filter
    fun dir => dir != "" && dir != defaultLocation
  match named with
  | none => do
      Logged.info "Using default cache directory"
      pure none
  | some dir => do
      Logged.info s!"Using cache directory '{dir}'"
      pure (some dir)

/-- The expected count of workload caches. -/
def readExpectedCount (props : Properties) : Logged (Option Nat) :=
  match (props.get? "expectedCacheCount").map Setting.readCount with
  | none => pure none
  | some (.ok n) => pure (some n)
  | some (.error u) => do
      Logged.warn s!"Can't check number of caches as expectedCacheCount is not numeric: {u.message}"
      pure none

/-- The reap mode. -/
def readReapMode (props : Properties) : Logged ReapMode :=
  match props.get? "reapMode" with
  | none => pure .single
  | some raw =>
      match ReapMode.ofName? (String.ofList (trim raw.toList)) with
      | some m => pure m
      | none => do
          Logged.warn s!"Unknown reapMode '{raw}', using single"
          pure .single

/-- The longest time a call may take, in seconds. -/
def readTimeout (props : Properties) : Logged Nat :=
  let usual := 300
  match props.get? "storeTimeoutSecs" with
  | none => pure usual
  | some raw =>
      match (Setting.readCount raw).toOption.filter (0 < ·) with
      | some secs => pure secs
      | none => do
          Logged.warn s!"Ignoring storeTimeoutSecs '{raw}', keeping {usual}s"
          pure usual

/-- The configuration that a set of settings describes. -/
def ofProperties (javaHome : Option String) (props : Properties) : Logged Config := do
  let cacheDir ← readCacheDir props
  let delete ← Setting.lenientBool "delete" (props.get? "delete")
  if delete then Logged.info "Will attempt to delete caches after verification"
  else Logged.info "Caches will not be deleted after verification"
  let commandLineValues ←
    Setting.lenientBool "commandLineValues" (props.get? "commandLineValues")
  if commandLineValues then
    Logged.info "Will use command line values to search for caches"
  let expectedCacheCount ← readExpectedCount props
  let cacheFiles :=
    ((props.get? "cacheFiles").map fun raw => (words raw.toList).map String.ofList).getD []
  let reapMode ← readReapMode props
  let java := (filled? props "java").getD (defaultLauncher javaHome)
  let timeoutSecs ← readTimeout props
  let strictCountCheck ← Setting.lenientBool "strictCountCheck" (props.get? "strictCountCheck")
  pure
    { cacheDir, commandLineValues, delete, expectedCacheCount, cacheFiles, strictCountCheck,
      reapMode
      recordsFile := filled? props "recordsFile"
      launcher :=
        { java, timeoutSecs, sharedClassesOption := filled? props "sharedClassesOption" } }

end CacheWarden.Config
