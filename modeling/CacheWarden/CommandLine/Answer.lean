import CacheWarden.CommandLine.Invocation
import CacheWarden.CommandLine.Screen
import CacheWarden.Config.Load
import CacheWarden.Json.Printer
import CacheWarden.Prompt
import CacheWarden.Store.Runtime

/-!
# Answers to a command line

What each action does and prints, over a file tree and a launcher. An answer is the text that was
printed, and the failure that the action ended in, if it did not succeed.
-/

namespace CacheWarden.CommandLine

open Json (Value)

/-- What a run is surrounded by. -/
structure Machine where
  launcher : Launcher
  environment : Environment := {}
  /-- The identity of the run. -/
  runId : String
  /-- The clock that the records of the run are made by. -/
  clock : ClockReadings
  /-- The clock that the lines of its log are written by. -/
  logClock : ClockReadings := clock

/-- What an action printed, and the failure it ended in. -/
structure Answer where
  lines : List String := []
  /-- What is printed behind the lines. -/
  rest : String := ""
  failure : Option Failure := none
  deriving DecidableEq, Repr

/-- The printed text. -/
def Answer.printed (a : Answer) : String :=
  a.lines.foldl (fun text line => text ++ line ++ "\n") "" ++ a.rest

/-- A computation on the files and the launcher. -/
abbrev Run := Session (World Calls)

/-- The store of a configuration. -/
def storeOf (m : Machine) (config : Config) : Store Calls :=
  .runtime m.launcher config.launcher

/-- The first lines of a check. -/
def checkHead (config : Config) (workload : Workload) (records : RecordSink) : List String :=
  ["Shared class cache check",
    Screen.property "location" (config.effectiveLocation.getD "default"),
    Screen.property "workload caches" (", ".intercalate workload.names)] ++
    (records.path.map (Screen.property "records")).toList ++ [Screen.started "Listing caches..."]

/-- Checks the caches of a workload. -/
def check (m : Machine) (config : Config) (workload : Workload) (records : RecordSink) :
    Run Answer := do
  let store := storeOf m config
  let head := checkHead config workload records
  match ← Checker.start store config workload records with
  | .error e =>
      return { lines := head ++ [Screen.ended .fail "Could not list caches"], failure := some e }
  | .ok c =>
      let head := head ++ [Screen.ended .ok s!"{c.snapshot.length} cache(s) listed"]
      Session.debug s!"Run id {records.runId}"
      match (← c.run store).1 with
      | .error e => return { lines := head, failure := some e }
      | .ok report =>
          let (lines, failure) := Screen.runEnd report
          return { lines := head ++ lines, failure }

/-- What a list of caches looks like. -/
def listLines (format : ListFormat) (caches : List Descriptor) : List String :=
  match format with
  | .table =>
      if caches.isEmpty then [Screen.step .info "No shared class caches"] else Screen.table caches
  | .json => [String.ofList ((Value.list (caches.map Descriptor.toJson)).pretty 0)]
  | .plain => caches.filterMap Descriptor.usableName

/-- Lists caches, all of them or those of a workload. -/
def list (m : Machine) (config : Config) (filter : Option String) (format : ListFormat) :
    Run Answer := do
  let store := storeOf m config
  match ← Session.onStore (store.list (Checker.limit config) (Checker.query config)) with
  | .error e => return { failure := some e }
  | .ok found =>
      let caches := match filter with
        | some names => found.filter fun d => (Workload.parse names).owns d.usableName
        | none => found
      return { lines := listLines format caches }

/-- Destroys one cache; taking too long is an unknown outcome. -/
def destroyOne (m : Machine) (config : Config) (persistence : Persistence) (name : String) :
    Run DestroyOutcome := do
  let request : DestroyRequest :=
    { location := config.effectiveLocation, persistence, name }
  match ← Session.onStore ((storeOf m config).destroy (Checker.limit config) request) with
  | some outcome => return outcome
  | none =>
      Session.warn ((Checker.limit config).failure "destroy").message
      return .unknown

/-- Destroys caches, one after the other. -/
def destroyEach (m : Machine) (config : Config) (persistence : Persistence) :
    List String → Run (List DestroyAttempt)
  | [] => return []
  | name :: rest => do
      let outcome ← destroyOne m config persistence name
      let others ← destroyEach m config persistence rest
      return ⟨name, outcome⟩ :: others

/-- What became of an attempt. -/
def attemptLine (a : DestroyAttempt) : String :=
  if a.outcome.isSuccess then Screen.step .ok s!"Destroyed {a.cache}"
  else Screen.step .fail (Screen.failureText a)

/-- Destroys caches by their names. -/
def destroy (m : Machine) (config : Config) (names : List String) (persistence : Persistence) :
    Run Answer := do
  let attempts ← destroyEach m config persistence names
  let failure := if attempts.all fun a => a.outcome.isSuccess then none
    else some Failure.deletionFailed
  return {
    lines := (names.map fun name => Screen.started s!"destroying {name}") ++
      attempts.map attemptLine
    failure }

/-- Runs an operation on caches. -/
def runOperation (m : Machine) (config : Config) (template : Option String)
    (op : CacheOperation) : Run (Except Failure CacheOperation.Result) :=
  Session.onStore (op.run m.launcher (Checker.limit config) config.launcher.java
    config.effectiveLocation template)

/-- Destroys all caches of one kind, if that is confirmed. -/
def destroyAll (m : Machine) (config : Config) (persistence : Persistence) (prompt : Prompt) :
    Run Answer := do
  if !(prompt.answer? false).getD false then
    return { lines := [Screen.step .info "Aborted, pass --yes to skip the prompt"] }
  let target := config.effectiveLocation.getD "the default directory"
  let op := CacheOperation.destroyAll persistence
  let start := Screen.started s!"Destroying {persistence.name} caches..."
  match ← runOperation m config none op with
  | .error e =>
      return { lines := [start, Screen.ended .fail "destroyAll did not finish"], failure := some e }
  | .ok result =>
      if result.verdict.isSuccess then
        return { lines :=
          [start, Screen.ended .ok s!"{persistence.name} caches destroyed in {target}"] }
      else
        return {
          lines := [start, Screen.ended .fail s!"destroyAll: {result.verdict.text}"]
          failure := some (.cacheCommandFailed op.label) }

/-- Runs an operation and tells how it went; the output comes back if it passed. -/
def judged (m : Machine) (config : Config) (template : Option String) (op : CacheOperation) :
    Run (Answer × Option CommandOutput) := do
  let start := Screen.started s!"Running {op.label}..."
  match ← runOperation m config template op with
  | .error e =>
      let lines := [start, Screen.ended .fail s!"{op.label} did not finish"]
      return ({ lines, failure := some e }, none)
  | .ok result =>
      let message := s!"{op.label}: {result.verdict.text}"
      if result.verdict.isSuccess then
        return ({ lines := [start, Screen.ended .ok message] }, some result.output)
      else
        Session.debug s!"Captured output:\n{result.output.combined}"
        let lines := [start, Screen.ended .fail message]
        return ({ lines, failure := some (.cacheCommandFailed op.label) }, none)

/-- Prints what a cache holds. -/
def stats (m : Machine) (config : Config) (name : String) (expected : List String)
    (template : Option String) : Run Answer := do
  let (answer, output) ← judged m config template (.printStats name expected)
  return { answer with rest := (output.map CommandOutput.combined).getD "" }

/-- Destroys a cache and makes it anew. -/
def reset (m : Machine) (config : Config) (name : String) (template : Option String) :
    Run Answer := do
  let (answer, _) ← judged m config template (.reset name)
  return answer

/-- What is said about the number of caches in a list, and the failure it is. -/
def listedLine (listed : Nat) (expected : Option Nat) (strict : Bool) :
    String × Option Failure :=
  match expected with
  | none => (Screen.step .info s!"{listed} cache(s) listed", none)
  | some n =>
      let differs := s!"Expected {n} cache(s) but {listed} are listed"
      if n = listed then (Screen.step .ok s!"{listed} cache(s) listed as expected", none)
      else if strict then
        (Screen.step .fail differs, some (.cacheCommandFailed (CacheOperation.listAll none).label))
      else (Screen.step .warn (differs ++ " (not enforced)"), none)

/-- The number of caches in a list. -/
def listedCount (output : CommandOutput) : Except Failure Nat :=
  (MessagePattern.parse listedCachePattern).map fun p =>
    MessagePattern.countMatches output.combined.toList [p]

/-- Looks for a cache in the list of all caches and counts them. -/
def verifyListed (m : Machine) (config : Config) (name : Option String) (count : Option Nat) :
    Run Answer := do
  let (answer, output) ← judged m config none (.listAll name)
  match output with
  | none => return answer
  | some output =>
      let found := name.toList.map fun n => Screen.step .ok s!"{n} is listed"
      match listedCount output with
      | .error e => return { lines := answer.lines ++ found, failure := some e }
      | .ok listed =>
          let (line, failure) :=
            listedLine listed (count <|> config.expectedCacheCount) config.strictCountCheck
          return { lines := answer.lines ++ found ++ [line], failure }

/-- The records of a check: where the command line says, or else the configuration. -/
def recordsOf (m : Machine) (config : Config) (path : Option String) : RecordSink :=
  { path := path <|> config.recordsFile, runId := m.runId, clock := m.clock }

/-- Does what is asked for under a configuration. -/
def act (m : Machine) (i : Invocation) (config : Config) : Run Answer := do
  match i.action with
  | .check names mode records =>
      match Workload.resolve names m.environment.workloadList with
      | .error e => return { failure := some e }
      | .ok workload =>
          let config := { config with reapMode := mode.getD config.reapMode }
          check m config workload (recordsOf m config records)
  | .list filter format => list m config filter format
  | .destroy names persistence => destroy m config names persistence
  | .destroyAll persistence yes => destroyAll m config persistence { autoYes := yes }
  | .stats name expected template => stats m config name expected template
  | .verifyListed name count => verifyListed m config name count
  | .reset name template => reset m config name template
  | .showConfig => return { lines := [config.document] }
  | .showPath => return { lines := [i.config.getD "(none, using defaults)"] }

/-- Whether an action needs a configuration file. -/
def Action.needsConfig : Action → Bool
  | check .. => true
  | _ => false

/-- Loads the configuration and does what is asked for. -/
def answer (m : Machine) (i : Invocation) : Run Answer := do
  let load := if i.action.needsConfig then Config.loadRequired else Config.load
  match ← Session.readFiles fun files => load files m.environment.javaHome i.config with
  | .error e => return { failure := some e }
  | .ok config => act m i config

end CacheWarden.CommandLine
