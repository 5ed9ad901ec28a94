import CacheWarden.Config.Basic
import CacheWarden.Record

/-!
# The checker

Lists the caches once, loads what is expected, verifies, and destroys the workload's caches if the
verification passed. Every step after the first works on the same snapshot.
-/

namespace CacheWarden

/-- What a checker works on: the files with what is on record, and the state of the store. -/
structure World (σ : Type) extends RecordState where
  store : σ

namespace Session

variable {σ α : Type}

/-- A computation on the state of the store. -/
def onStore (x : Session σ α) : Session (World σ) α := fun w => do
  let (a, store) ← x.run w.store
  pure (a, { w with store })

/-- Puts an event on record. -/
def onRecord (sink : RecordSink) (e : Event) : Session (World σ) Unit := fun w => do
  let files ← sink.emit e w.files w.emitted
  pure ((), { w with files, emitted := w.emitted + 1 })

/-- A computation that only reads the files. -/
def readFiles (f : FileTree → Logged α) : Session (World σ) α := fun w => do
  let a ← f w.files
  pure (a, w)

end Session

/-- What a full run found out and did. -/
structure RunReport where
  verification : VerificationReport
  /-- Missing if deletion was off or skipped. -/
  reap : Option ReapSummary
  deriving DecidableEq, Repr

/-- Whether nothing was found and every destroy succeeded. -/
def RunReport.isSuccess (r : RunReport) : Bool :=
  r.verification.isPass && r.reap.all ReapSummary.isSuccess

/-- A run with its snapshot. -/
structure Checker where
  config : Config
  workload : Workload
  records : RecordSink
  /-- The caches that were there at the start. -/
  snapshot : List Descriptor
  registry : Registry := .empty
  ledger : Ledger := .empty

namespace Checker

variable {σ : Type}

/-- Puts events on record, one after the other. -/
def emitAll (sink : RecordSink) : List Event → Session (World σ) Unit
  | [] => pure ()
  | e :: rest => do
      Session.onRecord sink e
      emitAll sink rest

/-- What the configuration says to list. -/
def query (config : Config) : Query where
  location := config.cacheDir
  fromLaunchOption := config.commandLineValues

/-- The longest time that a store call may take. -/
def limit (config : Config) : Limit := .ofSeconds config.launcher.timeoutSecs

/-- Lists the caches and puts them on record. -/
def start (store : Store σ) (config : Config) (workload : Workload) (records : RecordSink) :
    Session (World σ) (Except Failure Checker) := do
  match ← Session.onStore (store.list (limit config) (query config)) with
  | .error e => return .error e
  | .ok snapshot =>
      Session.info (s!"{store.name} reported {snapshot.length} cache(s); " ++
        s!"{workload.size} workload cache name(s) supplied")
      emitAll records (snapshot.map Event.cacheFound)
      return .ok { config, workload, records, snapshot }

/-- Loads the declared caches; what was loaded before stays if that fails. -/
def loadExpected (c : Checker) : Session (World σ) (Except Failure Checker) := do
  match ← Session.readFiles fun files => Registry.load files c.config.cacheFiles with
  | .error e => return .error e
  | .ok registry => return .ok { c with registry }

/-- What is expected of the number of caches. -/
def countExpectation (config : Config) : CountExpectation where
  expected := config.expectedCacheCount
  enforced := config.strictCountCheck

/-- Logs a finding and puts it on record. -/
def reportFindings (c : Checker) : List Finding → Session (World σ) Unit
  | [] => pure ()
  | f :: rest => do
      StateT.lift (Logged.line { level := .warn, message := f.text, cache := f.cache? })
      Session.onRecord c.records (.finding f)
      c.reportFindings rest

/-- Verifies the snapshot. -/
def verify (c : Checker) : Session (World σ) VerificationReport := do
  let report ← StateT.lift
    (CacheWarden.verify c.snapshot c.registry c.workload (countExpectation c.config))
  emitAll c.records (report.count.toList.map Event.count)
  c.reportFindings report.findings
  Session.debug (s!"Verified {report.checked} workload cache(s), " ++
    s!"ignored {report.foreign} foreign and {report.unnamed} unnamed")
  return report

/-- The reaper that the configuration asks for. -/
def reaper (store : Store σ) (config : Config) : Reaper σ where
  store
  location := config.effectiveLocation
  mode := config.reapMode
  limit := limit config

/-- Destroys caches of the workload, if the configuration says so. -/
def delete (store : Store σ) (c : Checker) :
    Session (World σ) (Option ReapSummary × Checker) := do
  if !c.config.delete then
    Session.debug "Deletion is off"
    return (none, c)
  let (summary, ledger) ←
    Session.onStore ((reaper store c.config).pass c.snapshot c.workload c.ledger)
  emitAll c.records (summary.attempts.map Event.destroyed)
  return (some summary, { c with ledger })

/-- Destroys caches of the workload after a verification that passed. -/
def deleteIfVerified (store : Store σ) (c : Checker) (report : VerificationReport) :
    Session (World σ) (Option ReapSummary × Checker) := do
  if report.isPass then c.delete store
  else
    Session.info "Skipping deletion because verification failed"
    return (none, c)

/-- A full run: loads, verifies and destroys. The checker comes back as it is afterwards. -/
def run (store : Store σ) (c : Checker) :
    Session (World σ) (Except Failure RunReport × Checker) := do
  match ← c.loadExpected with
  | .error e => return (.error e, c)
  | .ok c =>
      let verification ← c.verify
      let (reap, c) ← c.deleteIfVerified store verification
      let report : RunReport := { verification, reap }
      emitAll c.records [.result report.isSuccess verification.findings.length
        (reap.map fun s => s.attempts.length)]
      return (.ok report, c)

end Checker

end CacheWarden
