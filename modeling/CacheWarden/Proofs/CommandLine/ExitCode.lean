import CacheWarden.CommandLine.Program
import CacheWarden.Proofs.Checker.Transcript
import CacheWarden.Proofs.Command.Verdict
import Mathlib

/-!
# When a check succeeds

Whether a check went well is decided in two places: once for the result that it puts on record, and
once for the failure it ends in, which gives the exit code. Both decisions agree, and what has to go
well for them is said here without the program. Main statements: `failure_runEnd`, the failure of a
report; `failureOf_whole_eq_none_iff`; `exitCode_check_iff`.
-/

namespace CacheWarden

namespace CommandLine

/-! ### The check of a command line -/

/-- The failure that a whole check ends in. -/
def failureOf : Except Failure RunReport → Option Failure
  | .error e => some e
  | .ok report => (Screen.runEnd report).2

/-- The check of a command line is a whole check: it asks for the same, leaves the same behind and
    ends in its failure. -/
theorem result_check (m : Machine) (config : Config) (w : Workload) (records : RecordSink)
    (world : World Calls) :
    let out := Session.result (check m config w records) world
    let ran := Session.result (Checker.whole (storeOf m config) config w records) world
    out.1.failure = failureOf ran.1 ∧ out.2 = ran.2 := by
  intro out ran
  simp only [out, ran, check, Checker.whole, Session.result_bind]
  cases (Session.result (Checker.start (storeOf m config) config w records) world).1 with
  | error e => exact ⟨rfl, rfl⟩
  | ok c =>
    simp only [Session.result_bind, Session.result_debug]
    cases (Session.result (c.run (storeOf m config))
      (Session.result (Checker.start (storeOf m config) config w records) world).2).1.1 with
    | error e => exact ⟨rfl, rfl⟩
    | ok report => exact ⟨rfl, rfl⟩

end CommandLine

namespace Screen

/-! ### The end of a run -/

theorem isPass_iff {r : VerificationReport} : r.isPass = true ↔ r.findings = [] :=
  List.isEmpty_iff

theorem isSuccess_iff {o : DestroyOutcome} : o.isSuccess = true ↔ o = .destroyedAll :=
  beq_iff_eq

theorem failures_isEmpty_iff {r : RunReport} :
    ((r.reap.map ReapSummary.failures).getD []).isEmpty = true ↔
      ∀ a ∈ r.attempts, a.outcome = .destroyedAll := by
  rw [RunReport.attempts]
  cases r.reap with
  | none => simp
  | some s => simp [ReapSummary.failures, isSuccess_iff]

theorem isSuccess_report_iff {r : RunReport} :
    r.isSuccess = true ↔
      r.verification.findings = [] ∧ ∀ a ∈ r.attempts, a.outcome = .destroyedAll := by
  rw [RunReport.isSuccess, Bool.and_eq_true, isPass_iff, RunReport.attempts]
  cases r.reap with
  | none => simp
  | some s => simp [ReapSummary.isSuccess, isSuccess_iff]

/-- The failure of a report. -/
theorem failure_runEnd (r : RunReport) :
    (runEnd r).2 =
      if r.isSuccess then none
      else if r.verification.findings = [] then some .deletionFailed
      else some (.verificationFailed r.verification.findings.length) := by
  rw [runEnd]
  by_cases hp : r.verification.findings = []
  · have hpass : r.verification.isPass = true := isPass_iff.2 hp
    simp only [hpass, Bool.not_true, Bool.false_eq_true, if_false, if_pos hp]
    by_cases hs : ∀ a ∈ r.attempts, a.outcome = .destroyedAll
    · rw [if_pos (failures_isEmpty_iff.2 hs), if_pos (isSuccess_report_iff.2 ⟨hp, hs⟩)]
    · rw [if_neg (mt failures_isEmpty_iff.1 hs),
        if_neg (mt (fun h => (isSuccess_report_iff.1 h).2) hs)]
  · have hpass : r.verification.isPass = false := by
      rw [← Bool.not_eq_true, isPass_iff]
      exact hp
    simp only [hpass, Bool.not_false, if_true, List.length_map]
    rw [if_neg (mt (fun h => (isSuccess_report_iff.1 h).1) hp), if_neg hp]

theorem runEnd_eq_none_iff (r : RunReport) : (runEnd r).2 = none ↔ r.isSuccess = true := by
  rw [failure_runEnd]
  split
  · simp_all
  · split <;> simp_all

theorem runEnd_eq_verificationFailed_iff (r : RunReport) (n : Nat) :
    (runEnd r).2 = some (.verificationFailed n) ↔
      r.verification.findings.length = n ∧ 0 < n := by
  rw [failure_runEnd]
  split
  · rename_i h
    have hp := (isSuccess_report_iff.1 h).1
    rw [hp, List.length_nil]
    simp only [reduceCtorEq, false_iff, not_and]
    omega
  · split
    · rename_i hp
      rw [hp, List.length_nil]
      simp only [Option.some.injEq, reduceCtorEq, false_iff, not_and]
      omega
    · rename_i hp
      have hpos := List.length_pos_iff.2 hp
      simp only [Option.some.injEq, Failure.verificationFailed.injEq]
      omega

theorem runEnd_eq_deletionFailed_iff (r : RunReport) :
    (runEnd r).2 = some .deletionFailed ↔
      r.verification.findings = [] ∧ ∃ a ∈ r.attempts, a.outcome ≠ .destroyedAll := by
  rw [failure_runEnd]
  split
  · rename_i h
    have hs := (isSuccess_report_iff.1 h).2
    simpa using fun _ => hs
  · rename_i h
    split
    · rename_i hp
      have hs : ¬ ∀ a ∈ r.attempts, a.outcome = .destroyedAll :=
        fun hs => h (isSuccess_report_iff.2 ⟨hp, hs⟩)
      simpa [hp] using hs
    · rename_i hp
      simp [hp]

end Screen

namespace Checker

open CommandLine (failureOf)

variable {σ : Type}

/-! ### The list of a check -/

/-- Whether the launcher listed some caches: it was started, it ended in time and with an exit code
    that a list may have, and the caches are those that it printed. -/
def Listed (launcher : Launcher) (config : Config) (snapshot : List Descriptor) : Prop :=
  (listCall config).hasNul = false ∧ ∃ exitCode stdout stderr elapsed,
    launcher (listCall config) = .ended exitCode stdout stderr elapsed ∧
      elapsed ≤ config.launcher.timeoutSecs * 1000 ∧ (exitCode = some 0 ∨ exitCode = some 1) ∧
      snapshot = Listing.caches (Command.outputOf exitCode stdout stderr).combined

theorem listed_eq_ok_iff {c : Command} {output : CommandOutput} {snapshot : List Descriptor} :
    RuntimeStore.listed c output = .ok snapshot ↔
      (output.exitCode = some 0 ∨ output.exitCode = some 1) ∧
        snapshot = Listing.caches output.combined := by
  have hexit : allowsExit [0, 1] output.exitCode = true ↔
      output.exitCode = some 0 ∨ output.exitCode = some 1 := by
    simp [allowsExit_iff, and_or_left, exists_or]
  rw [← hexit, RuntimeStore.listed]
  split
  · rename_i h
    rw [Except.ok.injEq, eq_comm]
    exact (and_iff_right h).symm
  · rename_i h
    simp [h]

theorem listing_eq_ok_iff {launcher : Launcher} {config : Config} {calls : Calls}
    {snapshot : List Descriptor} :
    (listing (.runtime launcher config.launcher) config calls).1 = .ok snapshot ↔
      Listed launcher config snapshot := by
  have hin (elapsed : Nat) : (limit config).admits elapsed = true ↔
      elapsed ≤ config.launcher.timeoutSecs * 1000 := by
    simp [limit, Limit.ofSeconds, Limit.admits]
  rw [listing, Store.runtime_list_eq_ok_iff rfl, listCommand_query]
  constructor
  · rintro ⟨output, hanswer, hlisted⟩
    obtain ⟨hnul, exitCode, stdout, stderr, elapsed, hended, htime, rfl⟩ :=
      Command.answer_eq_ok_iff.1 hanswer
    exact ⟨hnul, exitCode, stdout, stderr, elapsed, hended, (hin elapsed).1 htime,
      listed_eq_ok_iff.1 hlisted⟩
  · rintro ⟨hnul, exitCode, stdout, stderr, elapsed, hended, htime, hlisted⟩
    exact ⟨_, Command.answer_eq_ok_iff.2
      ⟨hnul, exitCode, stdout, stderr, elapsed, hended, (hin elapsed).2 htime, rfl⟩,
      listed_eq_ok_iff.2 hlisted⟩

/-! ### What a whole check gives -/

theorem calls_listing_of_listed {launcher : Launcher} {config : Config}
    {snapshot : List Descriptor} (h : Listed launcher config snapshot) (calls : Calls) :
    (listing (.runtime launcher config.launcher) config calls).2 =
      calls ++ [listCall config] := by
  rw [calls_listing, Command.launched, h.1]
  rfl

theorem isSuccess_reportOf_iff {store : Store σ} {c : Checker} {s : σ} :
    (reportOf store c s).isSuccess = true ↔
      c.report.findings = [] ∧ (c.config.delete = true →
        ∀ a ∈ (c.reaping store s).1.1.attempts, a.outcome = .destroyedAll) := by
  rw [Screen.isSuccess_report_iff, reportOf, RunReport.attempts]
  apply and_congr_right
  intro hp
  have hpass : c.report.isPass = true := Screen.isPass_iff.2 hp
  cases hon : c.config.delete <;> simp [hpass]

/-- What has to go well in a check, from the list to the last destruction. -/
structure Passes (launcher : Launcher) (config : Config) (w : Workload) (records : RecordSink)
    (files : FileTree) (snapshot : List Descriptor) (registry : Registry) : Prop where
  listed : Listed launcher config snapshot
  readable : ∀ source ∈ config.cacheFiles, ∃ text,
    (records.emitAll (snapshot.map .cacheFound) { files }).files.readText source = .ok text
  loaded : loadedAfter records snapshot config { files } = .ok registry
  verified :
    (CacheWarden.verify snapshot registry w (countExpectation config)).value.findings = []
  destroyed : config.delete = true →
    let c : Checker := { config, workload := w, records, snapshot }
    ∀ a ∈ (c.reaping (.runtime launcher config.launcher) [listCall config]).1.1.attempts,
      a.outcome = .destroyedAll

theorem failureOf_eq_none_iff {outcome : Except Failure RunReport} :
    failureOf outcome = none ↔ ∃ report, outcome = .ok report ∧ report.isSuccess = true := by
  cases outcome with
  | error e => simp [failureOf]
  | ok report => simp [failureOf, Screen.runEnd_eq_none_iff]

theorem whole_eq_ok_iff {store : Store σ} {config : Config} {w : Workload}
    {records : RecordSink} {world : World σ} {report : RunReport} :
    (Session.result (whole store config w records) world).1 = .ok report ↔
      ∃ snapshot registry, (listing store config world.store).1 = .ok snapshot ∧
        loadedAfter records snapshot config world.toRecordState = .ok registry ∧
        report = reportOf store { config, workload := w, records, snapshot, registry }
          (listing store config world.store).2 := by
  cases hl : (listing store config world.store).1 with
  | error e =>
    have hrefused : (Session.result (whole store config w records) world).1 = .error e := by
      simp only [whole, Session.result_bind, start_of_refused hl]
      rfl
    simp [hrefused]
  | ok snapshot =>
    rw [value_whole_of_listed hl]
    cases hload : loadedAfter records snapshot config world.toRecordState with
    | error e => simp [Except.map, hload]
    | ok registry =>
      constructor
      · intro h
        exact ⟨snapshot, registry, rfl, hload, (Except.ok.inj h).symm⟩
      · rintro ⟨_, _, ⟨⟩, hload', rfl⟩
        rw [hload] at hload'
        cases hload'
        rfl

/-- A whole check ends well exactly if everything in it goes well. -/
theorem failureOf_whole_eq_none_iff (launcher : Launcher) (config : Config) (w : Workload)
    (records : RecordSink) (files : FileTree) :
    let store : Store Calls := .runtime launcher config.launcher
    failureOf (Session.result (whole store config w records) { files, store := [] }).1 = none ↔
      ∃ snapshot registry, Passes launcher config w records files snapshot registry := by
  intro store
  simp only [failureOf_eq_none_iff, whole_eq_ok_iff]
  constructor
  · rintro ⟨report, ⟨snapshot, registry, hlisting, hload, rfl⟩, hsuccess⟩
    have hlisted := listing_eq_ok_iff.1 hlisting
    obtain ⟨hverified, hdestroyed⟩ := isSuccess_reportOf_iff.1 hsuccess
    refine ⟨snapshot, registry, hlisted, ?_, hload, hverified, ?_⟩
    · exact (Registry.load_isOk_iff _ _).1 ⟨registry, hload⟩
    · rwa [calls_listing_of_listed hlisted] at hdestroyed
  · rintro ⟨snapshot, registry, h⟩
    refine ⟨_, ⟨snapshot, registry, listing_eq_ok_iff.2 h.listed, h.loaded, rfl⟩, ?_⟩
    rw [isSuccess_reportOf_iff, calls_listing_of_listed h.listed]
    exact ⟨h.verified, h.destroyed⟩

/-! ### The result on record -/

/-- Of a finished run, the last record and no other is a result. -/
theorem mem_events_iff_of_result {r : RunReport} {e : Event} (he : e.name = "run.result") :
    e ∈ r.events ↔ e = r.resultEvent := by
  -- the other records of a run have other names
  have hcount (c : CountCheck) : Event.count c ≠ e := by
    rintro rfl
    exact absurd he (show "verify.count" ≠ "run.result" by decide)
  have hfinding (f : Finding) : Event.finding f ≠ e := by
    rintro rfl
    exact absurd he (show "verify.finding" ≠ "run.result" by decide)
  have hattempt (a : DestroyAttempt) : Event.destroyed a ≠ e := by
    rintro rfl
    exact absurd he (show "reap.destroy" ≠ "run.result" by decide)
  simp [RunReport.events, hcount, hfinding, hattempt]

theorem mem_transcript_iff_of_result (store : Store σ) (config : Config) (w : Workload)
    (records : RecordSink) (world : World σ) {e : Event} (he : e.name = "run.result") :
    let ran := (Session.result (whole store config w records) world).1
    e ∈ transcript (listing store config world.store).1 ran ↔
      ∃ report, ran = .ok report ∧ e = report.resultEvent := by
  intro ran
  have hfound (d : Descriptor) : Event.cacheFound d ≠ e := by
    rintro rfl
    exact absurd he (show "cache.found" ≠ "run.result" by decide)
  cases hran : ran with
  | error failure =>
    cases (listing store config world.store).1 <;> simp [transcript, recorded, hfound]
  | ok report =>
    obtain ⟨snapshot, -, hlisted, -⟩ := whole_eq_ok_iff.1 hran
    simp [hlisted, transcript, recorded, hfound, mem_events_iff_of_result he]

end Checker

namespace CommandLine

/-! ### The check of a command line -/

/-- What a check is to work with: the configuration of a file that was named and could be loaded,
    with the reap mode of the arguments if they give one, and a workload list. -/
structure CheckSetup (m : Machine) (i : Invocation) (files : FileTree) (names : Option String)
    (mode : Option ReapMode) (config : Config) (w : Workload) : Prop where
  config : ∃ path base, i.config = some path ∧
    (Config.load files m.environment.javaHome (some path)).value = .ok base ∧
    config = { base with reapMode := mode.getD base.reapMode }
  workload : ∃ list, (names <|> m.environment.workloadList) = some list ∧ w = .parse list

theorem resolve_eq_ok_iff {names list : Option String} {w : Workload} :
    Workload.resolve names list = .ok w ↔
      ∃ l, (names <|> list) = some l ∧ w = .parse l := by
  rw [Workload.resolve]
  cases (names <|> list) with
  | none => simp
  | some l => simp [eq_comm]

theorem loadRequired_eq_ok_iff {files : FileTree} {javaHome path : Option String}
    {config : Config} :
    (Config.loadRequired files javaHome path).value = .ok config ↔
      ∃ p, path = some p ∧ (Config.load files javaHome (some p)).value = .ok config := by
  cases path with
  | none => simp [Config.loadRequired]
  | some p => simp [Config.loadRequired]

variable {m : Machine} {i : Invocation} {names recordsPath : Option String}
  {mode : Option ReapMode} {config : Config} {w : Workload} {args : List String}
  {files : FileTree}

theorem result_answer_check (haction : i.action = .check names mode recordsPath)
    (world : World Calls) :
    Session.result (answer m i) world =
      match (Config.loadRequired world.files m.environment.javaHome i.config).value with
      | .error e => ({ failure := some e }, world)
      | .ok base =>
          match Workload.resolve names m.environment.workloadList with
          | .error e => ({ failure := some e }, world)
          | .ok w =>
              let config := { base with reapMode := mode.getD base.reapMode }
              Session.result (check m config w (recordsOf m config recordsPath)) world := by
  rw [answer, haction, Action.needsConfig, if_pos rfl, Session.result_bind,
    Session.result_readFiles]
  cases (Config.loadRequired world.files m.environment.javaHome i.config).value with
  | error e => rfl
  | ok base =>
    simp only [act, haction]
    cases Workload.resolve names m.environment.workloadList <;> rfl

theorem result_answer_of_setup (haction : i.action = .check names mode recordsPath)
    {world : World Calls} (h : CheckSetup m i world.files names mode config w) :
    Session.result (answer m i) world =
      Session.result (check m config w (recordsOf m config recordsPath)) world := by
  obtain ⟨path, base, hpath, hload, rfl⟩ := h.config
  have hbase := loadRequired_eq_ok_iff.2 ⟨path, hpath, hload⟩
  rw [result_answer_check haction, hbase, resolve_eq_ok_iff.2 h.workload]

/-- Without what it is to work with, a check fails and leaves everything alone. -/
theorem result_answer_of_no_setup (haction : i.action = .check names mode recordsPath)
    (world : World Calls)
    (h : ∀ config w, ¬ CheckSetup m i world.files names mode config w) :
    ∃ e, Session.result (answer m i) world = ({ failure := some e }, world) := by
  rw [result_answer_check haction]
  cases hload : (Config.loadRequired world.files m.environment.javaHome i.config).value with
  | error e => exact ⟨e, rfl⟩
  | ok base =>
    cases hlist : Workload.resolve names m.environment.workloadList with
    | error e => exact ⟨e, rfl⟩
    | ok w =>
      obtain ⟨path, hpath, hbase⟩ := loadRequired_eq_ok_iff.1 hload
      exact absurd ⟨⟨path, base, hpath, hbase, rfl⟩, resolve_eq_ok_iff.1 hlist⟩ (h _ w)

theorem exitCode_run (hread : Invocation.read m.environment args = .ok i) (files : FileTree) :
    let out := Session.result (answer m i) { files, store := [] }
    let done := run m args files
    (done.exitCode = 0 ↔ out.1.failure = none) ∧ done.files = out.2.files := by
  intro out done
  have hdone : done = run m args files := rfl
  rw [run, hread] at hdone
  rw [hdone]
  refine ⟨?_, rfl⟩
  change (if out.1.failure.isSome then 1 else 0) = 0 ↔ out.1.failure = none
  cases out.1.failure <;> simp

/-- What a whole check of a command line gives. -/
def checkOutcome (m : Machine) (config : Config) (w : Workload) (records : RecordSink)
    (files : FileTree) : Except Failure RunReport :=
  (Session.result (Checker.whole (storeOf m config) config w records) { files, store := [] }).1

/-- What a check of a command line puts on record. -/
def checkEvents (m : Machine) (config : Config) (w : Workload) (records : RecordSink)
    (files : FileTree) : List Event :=
  Checker.transcript (Checker.listing (storeOf m config) config []).1
    (checkOutcome m config w records files)

theorem exitCode_of_setup (hread : Invocation.read m.environment args = .ok i)
    (haction : i.action = .check names mode recordsPath)
    (hsetup : CheckSetup m i files names mode config w) :
    (run m args files).exitCode = 0 ↔
      failureOf (checkOutcome m config w (recordsOf m config recordsPath) files) = none := by
  rw [(exitCode_run hread files).1, result_answer_of_setup haction hsetup,
    (result_check m config w (recordsOf m config recordsPath) { files, store := [] }).1,
    checkOutcome]

theorem files_of_setup (hread : Invocation.read m.environment args = .ok i)
    (haction : i.action = .check names mode recordsPath)
    (hsetup : CheckSetup m i files names mode config w) :
    let records := recordsOf m config recordsPath
    (run m args files).files =
      (records.emitAll (checkEvents m config w records files) { files }).files := by
  intro records
  rw [(exitCode_run hread files).2, result_answer_of_setup haction hsetup,
    (result_check m config w records { files, store := [] }).2]
  exact congrArg RecordState.files
    (Checker.toRecordState_whole (storeOf m config) config w records { files, store := [] })

theorem run_of_no_setup (hread : Invocation.read m.environment args = .ok i)
    (haction : i.action = .check names mode recordsPath)
    (hnone : ∀ config w, ¬ CheckSetup m i files names mode config w) :
    (run m args files).exitCode ≠ 0 ∧ (run m args files).files = files := by
  obtain ⟨hexit, hfiles⟩ := exitCode_run hread files
  obtain ⟨e, he⟩ := result_answer_of_no_setup haction { files, store := [] } hnone
  rw [he] at hexit hfiles
  exact ⟨fun h => Option.some_ne_none e (hexit.1 h), hfiles⟩

theorem exitCode_eq_zero_iff (hread : Invocation.read m.environment args = .ok i)
    (haction : i.action = .check names mode recordsPath) (files : FileTree) :
    (run m args files).exitCode = 0 ↔ ∃ config w snapshot registry,
      CheckSetup m i files names mode config w ∧
        Checker.Passes m.launcher config w (recordsOf m config recordsPath) files snapshot
          registry := by
  constructor
  · intro hok
    by_cases hsetup : ∃ config w, CheckSetup m i files names mode config w
    · obtain ⟨config, w, hsetup⟩ := hsetup
      obtain ⟨snapshot, registry, hpasses⟩ :=
        (Checker.failureOf_whole_eq_none_iff m.launcher config w _ files).1
          ((exitCode_of_setup hread haction hsetup).1 hok)
      exact ⟨config, w, snapshot, registry, hsetup, hpasses⟩
    · exact absurd hok
        (run_of_no_setup hread haction fun config w h => hsetup ⟨config, w, h⟩).1
  · rintro ⟨config, w, snapshot, registry, hsetup, hpasses⟩
    apply (exitCode_of_setup hread haction hsetup).2
    exact (Checker.failureOf_whole_eq_none_iff m.launcher config w _ files).2
      ⟨snapshot, registry, hpasses⟩

/-- For every report, the failure that is shown is the one that the report calls for. Hence, for all
    arguments that ask for a check, all files and every launcher, the exit code is 0 exactly if a
    configuration and a workload list were given and everything in the check went well; and where a
    result is put on record, it says so as well. -/
theorem exitCode_check_iff (hread : Invocation.read m.environment args = .ok i)
    (haction : i.action = .check names mode recordsPath) (files : FileTree) :
    (∀ r : RunReport,
      ((Screen.runEnd r).2 = none ↔ r.isSuccess = true) ∧
        (∀ n, (Screen.runEnd r).2 = some (.verificationFailed n) ↔
          r.verification.findings.length = n ∧ 0 < n) ∧
        ((Screen.runEnd r).2 = some .deletionFailed ↔
          r.verification.findings = [] ∧ ∃ a ∈ r.attempts, a.outcome ≠ .destroyedAll)) ∧
      let done := run m args files
      (done.exitCode = 0 ↔ ∃ config w snapshot registry,
        CheckSetup m i files names mode config w ∧
          Checker.Passes m.launcher config w (recordsOf m config recordsPath) files snapshot
            registry) ∧
        ((∀ config w, ¬ CheckSetup m i files names mode config w) → done.files = files) ∧
        ∀ config w, CheckSetup m i files names mode config w →
          let records := recordsOf m config recordsPath
          let events := checkEvents m config w records files
          done.files = (records.emitAll events { files }).files ∧
            (done.exitCode = 0 →
              ∃ findings attempts, Event.result true findings attempts ∈ events) ∧
            ∀ e ∈ events, e.name = "run.result" →
              ∃ findings attempts, e = .result (done.exitCode == 0) findings attempts := by
  refine ⟨fun r => ⟨Screen.runEnd_eq_none_iff r, Screen.runEnd_eq_verificationFailed_iff r,
    Screen.runEnd_eq_deletionFailed_iff r⟩, exitCode_eq_zero_iff hread haction files,
    fun hnone => (run_of_no_setup hread haction hnone).2, ?_⟩
  intro config w hsetup records events
  have hresult {e : Event} (he : e.name = "run.result") :
      e ∈ events ↔ ∃ report, checkOutcome m config w records files = .ok report ∧
        e = report.resultEvent :=
    Checker.mem_transcript_iff_of_result (storeOf m config) config w records
      { files, store := [] } he
  have hexit : (run m args files).exitCode = 0 ↔
      ∃ report, checkOutcome m config w records files = .ok report ∧ report.isSuccess = true := by
    rw [exitCode_of_setup hread haction hsetup, Checker.failureOf_eq_none_iff]
  refine ⟨files_of_setup hread haction hsetup, ?_, ?_⟩
  · intro hok
    obtain ⟨report, hreport, hsuccess⟩ := hexit.1 hok
    have hmem := (hresult rfl).2 ⟨report, hreport, rfl⟩
    rw [RunReport.resultEvent, hsuccess] at hmem
    exact ⟨_, _, hmem⟩
  · intro e hmem he
    obtain ⟨report, hreport, rfl⟩ := (hresult he).1 hmem
    have hcode : ((run m args files).exitCode == 0) = report.isSuccess := by
      rw [Bool.eq_iff_iff, beq_iff_eq, hexit, hreport]
      simp
    rw [hcode]
    exact ⟨_, _, rfl⟩

/-- A check that lists a cache of its workload and destroys it ends with exit code 0, and says so on
    record. -/
theorem exitCode_check_of_destroyed_cache :
    let row := "Compatible shared caches\nT3 Java17 64-bit non-persistent"
    let gone := "JVMSHRC: shared cache \"T3\" has been destroyed"
    let launcher : Launcher := fun c =>
      if c.args = ["-Xshareclasses:listAllCaches"] then .ended (some 1) row.toUTF8 .empty 0
      else .ended (some 0) .empty gone.toUTF8 0
    let m : Machine := { launcher, runId := "id", clock := "now" }
    let args := ["--config", "run.props", "check", "--workload-caches", "T3"]
    let i : Invocation :=
      { verbosity := 0, config := some "run.props", logFormat := .text
        action := .check (some "T3") none none }
    let config : Config :=
      { delete := true, cacheFiles := ["T3.props"], recordsFile := some "run.jsonl"
        launcher := { java := "java" } }
    let files := ((FileTree.empty []).put ["run.props"]
      (.file "delete=true\ncacheFiles=T3.props\nrecordsFile=run.jsonl".toUTF8)).put ["T3.props"]
        (.file "name=T3\npersistence=false".toUTF8)
    Invocation.read m.environment args = .ok i ∧
      CheckSetup m i files (some "T3") none config ⟨["T3"]⟩ ∧
      (run m args files).exitCode = 0 ∧
      ∃ findings attempts, Event.result true findings attempts ∈
        checkEvents m config ⟨["T3"]⟩ (recordsOf m config none) files := by
  intro row gone launcher m args i config files
  have hread : Invocation.read m.environment args = .ok i := by decide +kernel
  have hsetup : CheckSetup m i files (some "T3") none config ⟨["T3"]⟩ :=
    { config := ⟨"run.props", config, rfl, by decide +kernel, rfl⟩
      workload := ⟨"T3", rfl, by decide +kernel⟩ }
  let own : Descriptor :=
    { name := some "T3", persistence := .nonPersistent, jvmLevel := "Java17"
      addressMode := .bits64 }
  let registry : Registry := .ofList [⟨"T3", false, false, "T3.props"⟩]
  have hlist : (Checker.listCall config).args = ["-Xshareclasses:listAllCaches"] := by
    decide +kernel
  have hlaunch : m.launcher (Checker.listCall config) = .ended (some 1) row.toUTF8 .empty 0 := by
    simp only [m, launcher, hlist, if_true]
  have hlisted : Checker.Listed m.launcher config [own] :=
    ⟨by decide +kernel, some 1, row.toUTF8, .empty, 0, hlaunch, by decide, Or.inr rfl,
      by decide +kernel⟩
  have hload :
      Checker.loadedAfter (recordsOf m config none) [own] config { files } = .ok registry := by
    decide +kernel
  have hpasses :
      Checker.Passes m.launcher config ⟨["T3"]⟩ (recordsOf m config none) files [own] registry :=
    { listed := hlisted
      readable := (Registry.load_isOk_iff _ _).1 ⟨registry, hload⟩
      loaded := hload
      verified := by decide +kernel
      destroyed := by decide +kernel }
  obtain ⟨-, hexit, -, hrecord⟩ := exitCode_check_iff hread rfl files
  have hok := hexit.2 ⟨config, ⟨["T3"]⟩, [own], registry, hsetup, hpasses⟩
  exact ⟨hread, hsetup, hok, (hrecord config ⟨["T3"]⟩ hsetup).2.1 hok⟩

end CommandLine

end CacheWarden
