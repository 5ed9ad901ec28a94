import CacheWarden.Proofs.Checker.LauncherCalls
import CacheWarden.Proofs.Checker.Lifetime
import CacheWarden.Proofs.Reaper.Rounds
import CacheWarden.Proofs.Record
import Mathlib

/-!
# What a run puts on record

The files of a run change only by its records, and which records these are can be read off what the
run gives: the caches that were listed, and what was reported in the end. Main statements:
`result_emitAll`, `toRecordState_run`, `toRecordState_whole`; `whole_appends_transcript`, the
records of a file that can be written to.
-/

namespace CacheWarden

/-- The attempts of a finished run. -/
def RunReport.attempts (r : RunReport) : List DestroyAttempt :=
  (r.reap.map ReapSummary.attempts).getD []

/-- The result of a finished run. -/
def RunReport.resultEvent (r : RunReport) : Event :=
  .result r.isSuccess r.verification.findings.length (r.reap.map fun s => s.attempts.length)

/-- What a finished run puts on record: the comparison of the number of caches, if there was one,
    what was found, what was attempted, and the result. -/
def RunReport.events (r : RunReport) : List Event :=
  r.verification.count.toList.map .count ++ r.verification.findings.map .finding ++
    r.attempts.map .destroyed ++ [r.resultEvent]

theorem isWhole_of_mem_found {snapshot : List Descriptor} {e : Event}
    (h : e ∈ snapshot.map Event.cacheFound) : e.data.isWhole = true := by
  obtain ⟨d, -, rfl⟩ := List.mem_map.1 h
  exact Event.isWhole_cacheFound d

theorem RunReport.isWhole_of_mem_events {r : RunReport} {e : Event} (h : e ∈ r.events) :
    e.data.isWhole = true := by
  simp only [events, List.mem_append, List.mem_map, List.mem_singleton] at h
  rcases h with ((⟨c, -, rfl⟩ | ⟨f, -, rfl⟩) | ⟨a, -, rfl⟩) | rfl
  · exact Event.isWhole_count c
  · exact Event.isWhole_finding f
  · exact Event.isWhole_destroyed a
  · exact Event.isWhole_result _ _ _

namespace Checker

variable {σ : Type}

/-! ### The files after each step -/

@[simp] theorem result_emitAll (sink : RecordSink) (events : List Event) (world : World σ) :
    Session.result (emitAll sink events) world =
      ((), { world with toRecordState := sink.emitAll events world.toRecordState }) := by
  induction events generalizing world with
  | nil => rfl
  | cons e rest ih =>
    rw [emitAll, Session.result_bind, ih]
    rfl

theorem result_reportFindings (c : Checker) (findings : List Finding) (world : World σ) :
    Session.result (c.reportFindings findings) world =
      ((), { world with
        toRecordState := c.records.emitAll (findings.map .finding) world.toRecordState }) := by
  induction findings generalizing world with
  | nil => rfl
  | cons f rest ih =>
    rw [reportFindings, Session.result_bind, Session.result_bind, ih]
    rfl

theorem toRecordState_start_of_listed {store : Store σ} {config : Config} {world : World σ}
    {snapshot : List Descriptor} (h : (listing store config world.store).1 = .ok snapshot)
    (w : Workload) (records : RecordSink) :
    (Session.result (start store config w records) world).2.toRecordState =
      records.emitAll (snapshot.map .cacheFound) world.toRecordState := by
  rw [start, Session.result_bind, Session.result_onStore, h]
  simp only [Session.result_bind, Session.result_info, Session.result_pure, result_emitAll]

theorem toRecordState_verify (c : Checker) (world : World σ) :
    (Session.result c.verify world).2.toRecordState =
      c.records.emitAll (c.report.count.toList.map .count ++ c.report.findings.map .finding)
        world.toRecordState := by
  rw [verify, RecordSink.emitAll_append]
  simp only [Session.result_bind, Session.result_lift, Session.result_debug, Session.result_pure,
    result_reportFindings, result_emitAll]
  rfl

/-- Whatever becomes of a deletion, its attempts are put on record. -/
theorem toRecordState_delete (store : Store σ) (c : Checker) (world : World σ) :
    let out := Session.result (c.delete store) world
    out.1.2.records = c.records ∧
      out.2.toRecordState =
        c.records.emitAll (((out.1.1.map ReapSummary.attempts).getD []).map .destroyed)
          world.toRecordState := by
  intro out
  cases hon : c.config.delete with
  | false =>
    simp only [out, delete_of_off hon]
    exact ⟨trivial, rfl⟩
  | true =>
    simp only [out, delete, hon, Bool.not_true, Bool.false_eq_true, if_false, Session.result_bind,
      Session.result_onStore, Session.result_pure, result_emitAll]
    exact ⟨trivial, rfl⟩

theorem toRecordState_deleteIfVerified (store : Store σ) (c : Checker) (report : VerificationReport)
    (world : World σ) :
    let out := Session.result (c.deleteIfVerified store report) world
    out.1.2.records = c.records ∧
      out.2.toRecordState =
        c.records.emitAll (((out.1.1.map ReapSummary.attempts).getD []).map .destroyed)
          world.toRecordState := by
  intro out
  cases hp : report.isPass with
  | false =>
    simp only [out, deleteIfVerified_of_fail hp]
    exact ⟨trivial, rfl⟩
  | true =>
    simp only [out, deleteIfVerified_of_pass hp]
    exact toRecordState_delete store c world

/-- What a run puts on record, given what it reports. -/
def recorded : Except Failure RunReport → List Event
  | .error _ => []
  | .ok report => report.events

theorem toRecordState_run (store : Store σ) (c : Checker) (world : World σ) :
    let out := Session.result (c.run store) world
    out.2.toRecordState = c.records.emitAll (recorded out.1.1) world.toRecordState := by
  intro out
  cases hload : (Registry.load world.files c.config.cacheFiles).value with
  | error e =>
    simp only [out, run_of_loadError hload]
    rfl
  | ok registry =>
    set loaded := c.withRegistry registry
    set verified := (Session.result loaded.verify world).2
    have hvalue := (run_of_loaded hload store).1
    obtain ⟨hrecords, hdeleted⟩ :=
      toRecordState_deleteIfVerified store loaded loaded.report verified
    have hreport : (Session.result loaded.verify world).1 = loaded.report :=
      (result_verify loaded world).1
    have hverified : verified.toRecordState = _ := toRecordState_verify loaded world
    rw [show out.1 = _ from hvalue, recorded, RunReport.events, RecordSink.emitAll_append,
      RecordSink.emitAll_append]
    simp only [out, run, Session.result_bind, result_loadExpected, hload, Except.map,
      Session.result_pure, result_emitAll]
    rw [hreport, hrecords, hdeleted, hverified]
    rfl

/-- What a whole check puts on record, given what it listed and what came of it. -/
def transcript : Except Failure (List Descriptor) → Except Failure RunReport → List Event
  | .error _, _ => []
  | .ok snapshot, outcome => snapshot.map .cacheFound ++ recorded outcome

/-- Once the caches are listed, a whole check is a run of the checker that was started. -/
theorem whole_of_listed {store : Store σ} {config : Config} {world : World σ}
    {snapshot : List Descriptor} (h : (listing store config world.store).1 = .ok snapshot)
    (w : Workload) (records : RecordSink) :
    let c : Checker := { config, workload := w, records, snapshot }
    let started := (Session.result (start store config w records) world).2
    let ran := Session.result (c.run store) started
    Session.result (whole store config w records) world = (ran.1.1, ran.2) := by
  intro c started ran
  rw [whole, Session.result_bind, (start_of_listed h w records).1]
  rfl

/-- A whole check changes the files only by its records. -/
theorem toRecordState_whole (store : Store σ) (config : Config) (w : Workload)
    (records : RecordSink) (world : World σ) :
    let out := Session.result (whole store config w records) world
    out.2.toRecordState = records.emitAll
      (transcript (listing store config world.store).1 out.1) world.toRecordState := by
  intro out
  cases h : (listing store config world.store).1 with
  | error e =>
    simp only [out, whole, Session.result_bind, start_of_refused h]
    rfl
  | ok snapshot =>
    simp only [out, whole_of_listed h w records, toRecordState_run,
      toRecordState_start_of_listed h w records]
    rw [transcript, RecordSink.emitAll_append]

/-! ### The attempts on record -/

/-- The attempts of what came of a run. -/
def attempted : Except Failure RunReport → List DestroyAttempt
  | .error _ => []
  | .ok report => report.attempts

/-- The names that a store was asked to destroy. -/
def destroyedNames (t : Traced σ) : List String := t.calls.requests.map DestroyRequest.name

theorem destroyedNames_reaping (store : Store σ) (c : Checker) (t : Traced σ) :
    let reaped := reaping store.traced c t
    destroyedNames reaped.2 = destroyedNames t ++ reaped.1.1.attempts.map DestroyAttempt.cache := by
  intro reaped
  set r := reaper store c.config
  set ts := Reaper.plan r.mode false c.workload c.ledger c.snapshot
  have hreaped : reaped = _ := Reaper.result_pass_traced r c.snapshot c.workload c.ledger t
  have hattempts : reaped.1.1.attempts = (Session.result (r.attemptAll ts) t.state).1 := by
    rw [hreaped, Reaper.result_pass, Reaper.result_sweep]
  have hrequests : reaped.2.calls.requests = t.calls.requests ++ r.requests ts := by
    rw [hreaped]
    rfl
  rw [destroyedNames, destroyedNames, hrequests, hattempts, List.map_append,
    Reaper.caches_attemptAll, Reaper.Round.names_requests]

theorem destroyedNames_deleteIfVerified (store : Store σ) (c : Checker)
    (report : VerificationReport) (world : World (Traced σ)) :
    let out := Session.result (c.deleteIfVerified store.traced report) world
    destroyedNames out.2.store = destroyedNames world.store ++
      ((out.1.1.map ReapSummary.attempts).getD []).map DestroyAttempt.cache := by
  intro out
  cases hp : report.isPass with
  | false =>
    simp only [out, deleteIfVerified_of_fail hp]
    exact (List.append_nil _).symm
  | true =>
    simp only [out, deleteIfVerified_of_pass hp]
    cases hon : c.config.delete with
    | false =>
      simp only [delete_of_off hon]
      exact (List.append_nil _).symm
    | true =>
      obtain ⟨hvalue, hstore⟩ := delete_of_on hon store.traced world
      rw [hvalue, hstore]
      exact destroyedNames_reaping store c world.store

/-- What a run reports as attempted is what it asked its store to destroy. -/
theorem destroyedNames_run (store : Store σ) (c : Checker) (world : World (Traced σ)) :
    let out := Session.result (c.run store.traced) world
    destroyedNames out.2.store =
      destroyedNames world.store ++ (attempted out.1.1).map DestroyAttempt.cache := by
  intro out
  cases hload : (Registry.load world.files c.config.cacheFiles).value with
  | error e =>
    simp only [out, run_of_loadError hload]
    exact (List.append_nil _).symm
  | ok registry =>
    obtain ⟨hvalue, hstore⟩ := run_of_loaded hload store.traced
    rw [show out.1 = _ from hvalue, show out.2.store = _ from hstore,
      destroyedNames_deleteIfVerified, (result_verify _ world).2]
    rfl

theorem destroyedNames_whole (store : Store σ) (config : Config) (w : Workload)
    (records : RecordSink) (world : World (Traced σ)) :
    let out := Session.result (whole store.traced config w records) world
    destroyedNames out.2.store =
      destroyedNames world.store ++ (attempted out.1).map DestroyAttempt.cache := by
  intro out
  have hlisting : destroyedNames (listing store.traced config world.store).2 =
      destroyedNames world.store := by
    rw [listing_traced]
    rfl
  cases h : (listing store.traced config world.store).1 with
  | error e =>
    simp only [out, whole, Session.result_bind, start_of_refused h]
    exact hlisting.trans (List.append_nil _).symm
  | ok snapshot =>
    rw [show out = _ from whole_of_listed h w records, destroyedNames_run,
      (start_of_listed h w records).2, hlisting]

/-! ### The record file -/

/-- The declarations that a whole check loads, from the files as they are once the caches are on
    record. -/
def loadedAfter (records : RecordSink) (snapshot : List Descriptor) (config : Config)
    (s : RecordState) : Except Failure Registry :=
  (Registry.load (records.emitAll (snapshot.map .cacheFound) s).files config.cacheFiles).value

/-- Where the record file is none of the files that are read, the records make no difference to the
    declarations. -/
theorem loadedAfter_of_apart {records : RecordSink} {path : String} {s : RecordState}
    {old : ByteArray} {config : Config} (hpath : records.path = some path)
    (h : s.files.appendable? path = some old)
    (hapart : ∀ source ∈ config.cacheFiles, s.files.Apart path source)
    (snapshot : List Descriptor) :
    loadedAfter records snapshot config s =
      (Registry.load s.files config.cacheFiles).value := by
  rw [loadedAfter, Registry.load, Registry.load]
  congr 1
  apply Registry.addFiles_congr
  intro source hsource
  by_cases hne : snapshot.map Event.cacheFound = []
  · rw [hne]
    rfl
  · have hread := hapart source hsource (records.written s.emitted (snapshot.map .cacheFound))
    rwa [RecordSink.emitAll_eq_append hpath h hne] at hread

/-- What comes of the deletion after a verification. -/
theorem value_deleteIfVerified (store : Store σ) (c : Checker) (report : VerificationReport)
    (world : World σ) :
    (Session.result (c.deleteIfVerified store report) world).1.1 =
      if report.isPass && c.config.delete then some (c.reaping store world.store).1.1
      else none := by
  cases hp : report.isPass with
  | false =>
    rw [deleteIfVerified_of_fail hp]
    rfl
  | true =>
    rw [deleteIfVerified_of_pass hp]
    cases hon : c.config.delete with
    | false =>
      rw [delete_of_off hon]
      rfl
    | true =>
      rw [(delete_of_on hon store world).1]
      rfl

/-- What a run of a checker with its declarations reports, over a store in some state. -/
def reportOf (store : Store σ) (c : Checker) (s : σ) : RunReport where
  verification := c.report
  reap := if c.report.isPass && c.config.delete then some (c.reaping store s).1.1 else none

theorem value_run_of_loaded {c : Checker} {world : World σ} {registry : Registry}
    (h : (Registry.load world.files c.config.cacheFiles).value = .ok registry) (store : Store σ) :
    (Session.result (c.run store) world).1.1 =
      .ok (reportOf store (c.withRegistry registry) world.store) := by
  have hverified := (result_verify (c.withRegistry registry) world).2
  have hvalue := congrArg Prod.fst (run_of_loaded h store).1
  rw [value_deleteIfVerified, hverified] at hvalue
  exact hvalue

/-- What a whole check that listed some caches gives. -/
theorem value_whole_of_listed {store : Store σ} {config : Config} {world : World σ}
    {snapshot : List Descriptor} (h : (listing store config world.store).1 = .ok snapshot)
    (w : Workload) (records : RecordSink) :
    (Session.result (whole store config w records) world).1 =
      (loadedAfter records snapshot config world.toRecordState).map fun registry =>
        reportOf store { config, workload := w, records, snapshot, registry }
          (listing store config world.store).2 := by
  set c : Checker := { config, workload := w, records, snapshot }
  set started := (Session.result (start store config w records) world).2
  have hfiles : loadedAfter records snapshot config world.toRecordState =
      (Registry.load started.files c.config.cacheFiles).value := by
    rw [loadedAfter, ← toRecordState_start_of_listed h w records]
  rw [hfiles, whole_of_listed h w records]
  cases hload : (Registry.load started.files c.config.cacheFiles).value with
  | error e => exact congrArg (fun ran => ran.1.1) (run_of_loadError hload store)
  | ok registry =>
    have hvalue := value_run_of_loaded hload store
    rw [(start_of_listed h w records).2] at hvalue
    exact hvalue

/-- What the record file holds after a whole check that came to its end. -/
theorem readBytes_whole {store : Store σ} {config : Config} {w : Workload} {records : RecordSink}
    {world : World σ} {path : String} {old : ByteArray} {snapshot : List Descriptor}
    {report : RunReport} (hpath : records.path = some path)
    (hold : world.files.appendable? path = some old)
    (hlisted : (listing store config world.store).1 = .ok snapshot)
    (hreport : (Session.result (whole store config w records) world).1 = .ok report) :
    (Session.result (whole store config w records) world).2.files.readBytes path =
      .ok (old ++ records.written world.emitted (snapshot.map .cacheFound ++ report.events)) := by
  have hstate : (Session.result (whole store config w records) world).2.toRecordState = _ :=
    toRecordState_whole store config w records world
  rw [hlisted, hreport, transcript, recorded] at hstate
  rw [hstate]
  exact RecordSink.readBytes_emitAll hpath hold (by simp [RunReport.events])

/-- For every store, configuration, workload and file that can be appended to: a whole check puts
    nothing on record if the caches cannot be listed, the listed caches and nothing more if the
    declarations cannot be loaded, and otherwise the listed caches, the comparison of their number
    where one is configured, each finding, each attempt, and one result. Behind what the file held
    before, the records stand in this order, each in its line with the run, its own time, the event
    and the data; and the attempts are what the store was asked for. -/
theorem whole_appends_transcript (store : Store σ) (config : Config) (w : Workload)
    (records : RecordSink) (world : World (Traced σ)) {path : String} {old : ByteArray}
    (hpath : records.path = some path) (hold : world.files.appendable? path = some old) :
    let out := Session.result (whole store.traced config w records) world
    destroyedNames out.2.store =
        destroyedNames world.store ++ (attempted out.1).map DestroyAttempt.cache ∧
      match (listing store.traced config world.store).1 with
      | .error e => out.1 = .error e ∧ out.2.files = world.files
      | .ok snapshot =>
          let found : List Event := snapshot.map .cacheFound
          let loaded := loadedAfter records snapshot config world.toRecordState
          ((∀ source ∈ config.cacheFiles, world.files.Apart path source) →
              loaded = (Registry.load world.files config.cacheFiles).value) ∧
            match loaded with
            | .error e =>
                out.1 = .error e ∧ ∃ text, records.Holds world.emitted found text ∧
                  out.2.files.appendable? path = some (old ++ (String.ofList text).toUTF8)
            | .ok registry =>
                let report := reportOf store.traced
                  { config, workload := w, records, snapshot, registry }
                  (listing store.traced config world.store).2
                out.1 = .ok report ∧
                  report.verification.count.isSome = config.expectedCacheCount.isSome ∧
                  ∃ text, records.Holds world.emitted (found ++ report.events) text ∧
                    out.2.files.readBytes path = .ok (old ++ (String.ofList text).toUTF8) := by
  intro out
  refine ⟨destroyedNames_whole store config w records world, ?_⟩
  have hstate : out.2.toRecordState = _ :=
    toRecordState_whole store.traced config w records world
  cases hlisted : (listing store.traced config world.store).1 with
  | error e =>
    rw [hlisted] at hstate
    refine ⟨?_, congrArg RecordState.files hstate⟩
    simp only [out, whole, Session.result_bind, start_of_refused hlisted]
    rfl
  | ok snapshot =>
    refine ⟨fun hapart => loadedAfter_of_apart hpath hold hapart snapshot, ?_⟩
    have hvalue := value_whole_of_listed hlisted w records
    rw [hlisted] at hstate
    cases hload : loadedAfter records snapshot config world.toRecordState with
    | error e =>
      rw [hload] at hvalue
      obtain ⟨text, hholds, htext⟩ := RecordSink.exists_holds
        (fun _ => isWhole_of_mem_found) world.emitted
      refine ⟨hvalue, text, hholds, ?_⟩
      rw [hstate, show out.1 = .error e from hvalue, transcript, recorded, List.append_nil, ← htext]
      exact RecordSink.appendable?_emitAll hpath hold _
    | ok registry =>
      rw [hload] at hvalue
      obtain ⟨text, hholds, htext⟩ := RecordSink.exists_holds
        (List.forall_mem_append.2
          ⟨fun _ => isWhole_of_mem_found, fun _ => RunReport.isWhole_of_mem_events⟩) world.emitted
      refine ⟨hvalue, Option.isSome_map, text, hholds, ?_⟩
      rw [← htext]
      exact readBytes_whole hpath hold hlisted hvalue

set_option maxRecDepth 2048 in
/-- The records of a run whose destroy failed come behind an old line, and so do those of a run that
    found one cache too few. The cache without a name is on record as well, and each record has the
    time at which it was made. -/
theorem whole_appends_to_old_records :
    let own : Descriptor :=
      { name := some "T1", persistence := .persistent, addressMode := .bits64 }
    let other : Descriptor := { own with name := none }
    let config : Config :=
      { delete := true, expectedCacheCount := some 1, cacheFiles := ["T1.props"]
        launcher := { java := "java" } }
    let strict : Config := { config with expectedCacheCount := some 2, strictCountCheck := true }
    let records : RecordSink :=
      { path := some "run.jsonl", runId := "id", clock := ⟨fun n => s!"10:25:0{n}"⟩ }
    let files : FileTree := ((FileTree.empty []).put ["T1.props"]
      (.file "name=T1\npersistence=true".toUTF8)).put ["run.jsonl"] (.file "old\n".toUTF8)
    let store := Store.inMemory { caches := [own, other], outcomes := [("T1", .unknown)] }
    let out (config : Config) := Session.result (whole store.traced config ⟨["T1"]⟩ records)
      { files, store := { state := {} } }
    let line (data event time : String) : String :=
      "\x7b\"data\":" ++ data ++ ",\"event\":\"" ++ event ++
        "\",\"run_id\":\"id\",\"timestamp\":\"" ++ time ++ "\"\x7d\n"
    let foundLine (name time : String) : String :=
      line ("\x7b\"address_mode\":\"bits64\",\"compatible\":true,\"corrupt\":false," ++
        "\"free_bytes\":null,\"jvm_level\":\"\",\"last_detach_time\":null,\"name\":" ++ name ++
        ",\"os_semid\":null,\"os_shmid\":null,\"persistence\":\"persistent\"," ++
        "\"size_bytes\":null\x7d") "cache.found" time
    let foundLines := [foundLine "\"T1\"" "10:25:00", foundLine "null" "10:25:01"]
    let lines := foundLines ++
      [line "\x7b\"enforced\":false,\"expected\":1,\"found\":1\x7d" "verify.count" "10:25:02",
        line "\x7b\"cache\":\"T1\",\"outcome\":\"unknown\"\x7d" "reap.destroy" "10:25:03",
        line "\x7b\"destroyed\":1,\"findings\":0,\"success\":false\x7d" "run.result" "10:25:04"]
    let strictLines := foundLines ++
      [line "\x7b\"enforced\":true,\"expected\":2,\"found\":1\x7d" "verify.count" "10:25:02",
        line "\x7b\"expected\":2,\"found\":1,\"kind\":\"count_mismatch\"\x7d" "verify.finding"
          "10:25:03",
        line "\x7b\"destroyed\":null,\"findings\":1,\"success\":false\x7d" "run.result"
          "10:25:04"]
    records.path = some "run.jsonl" ∧ files.appendable? "run.jsonl" = some "old\n".toUTF8 ∧
      (∀ source ∈ config.cacheFiles, files.Apart "run.jsonl" source) ∧
      destroyedNames (out config).2.store = ["T1"] ∧
      (∃ text,
        records.Holds 0 [.cacheFound own, .cacheFound other, .count ⟨1, 1, false⟩,
          .destroyed ⟨"T1", .unknown⟩, .result false 0 (some 1)] text ∧
        (out config).2.files.readBytes "run.jsonl" =
          .ok ("old\n".toUTF8 ++ (String.ofList text).toUTF8)) ∧
      (out config).2.files.readBytes "run.jsonl" =
        .ok ("old\n".toUTF8 ++ (String.join lines).toUTF8) ∧
      (out strict).2.files.readBytes "run.jsonl" =
        .ok ("old\n".toUTF8 ++ (String.join strictLines).toUTF8) := by
  intro own other config strict records files store out line foundLine foundLines lines strictLines
  have hold : files.appendable? "run.jsonl" = some "old\n".toUTF8 := by decide +kernel
  have hnode : files.node? ["run.jsonl"] = some (.file "old\n".toUTF8) := rfl
  have hopens : FileTree.Opens files "run.jsonl" files ["run.jsonl"] :=
    { plain := by decide +kernel
      made := rfl
      checked := by decide +kernel
      located := by decide +kernel
      free := by rw [hnode]; simp
      wantsFile := by decide +kernel }
  have hapart : ∀ source ∈ config.cacheFiles, files.Apart "run.jsonl" source := by
    intro source hsource
    obtain rfl := List.mem_singleton.1 hsource
    exact FileTree.apart_of_other_place hopens hnode (by decide +kernel)
  have hlisted : (listing store.traced config { state := {} }).1 = .ok [own, other] := by
    decide +kernel
  have hload : (Registry.load files config.cacheFiles).value =
      .ok (.ofList [⟨"T1", true, false, "T1.props"⟩]) := by decide +kernel
  let report : RunReport :=
    { verification := { count := some ⟨1, 1, false⟩, checked := 1, unnamed := 1 }
      reap := some { attempts := [⟨"T1", .unknown⟩] } }
  let strictReport : RunReport :=
    { verification :=
        { findings := [.countMismatch 2 1], count := some ⟨2, 1, true⟩, checked := 1, unnamed := 1 }
      reap := none }
  have hreport : (out config).1 = .ok report := by decide +kernel
  have hstrict : (out strict).1 = .ok strictReport := by decide +kernel
  have hown : records.line (.cacheFound own) 0 = foundLine "\"T1\"" "10:25:00" := by cbv
  have hother : records.line (.cacheFound other) 1 = foundLine "null" "10:25:01" := by cbv
  obtain ⟨hnames, h⟩ := whole_appends_transcript store config ⟨["T1"]⟩ records
    { files, store := { state := {} } } rfl hold
  refine ⟨rfl, hold, hapart, ?_, ?_, ?_, ?_⟩
  · rw [hnames, show attempted (out config).1 = _ from congrArg attempted hreport]
    rfl
  · simp only [hlisted] at h
    obtain ⟨hloaded, h⟩ := h
    simp only [hloaded hapart, hload] at h
    obtain ⟨hvalue, -, text, hholds, hread⟩ := h
    have hsame := Except.ok.inj (hreport.symm.trans hvalue)
    rw [← hsame] at hholds
    exact ⟨text, hholds, hread⟩
  · have hread : (out config).2.files.readBytes "run.jsonl" =
        .ok ("old\n".toUTF8 ++
          records.written 0 ([own, other].map .cacheFound ++ report.events)) :=
      readBytes_whole rfl hold hlisted hreport
    have hlines : records.linesFrom 0 ([own, other].map .cacheFound ++ report.events) = lines := by
      change records.linesFrom 0 [.cacheFound own, .cacheFound other, .count ⟨1, 1, false⟩,
        .destroyed ⟨"T1", .unknown⟩, .result false 0 (some 1)] = lines
      simp only [RecordSink.linesFrom, hown, hother, lines, foundLines, List.cons_append,
        List.nil_append, List.cons.injEq, true_and, and_true]
      refine ⟨?_, ?_, ?_⟩ <;> cbv
    rw [hread, RecordSink.written, hlines]
  · have hread : (out strict).2.files.readBytes "run.jsonl" =
        .ok ("old\n".toUTF8 ++
          records.written 0 ([own, other].map .cacheFound ++ strictReport.events)) :=
      readBytes_whole rfl hold hlisted hstrict
    have hlines : records.linesFrom 0 ([own, other].map .cacheFound ++ strictReport.events) =
        strictLines := by
      change records.linesFrom 0 [.cacheFound own, .cacheFound other, .count ⟨2, 1, true⟩,
        .finding (.countMismatch 2 1), .result false 1 none] = strictLines
      simp only [RecordSink.linesFrom, hown, hother, strictLines, foundLines, List.cons_append,
        List.nil_append, List.cons.injEq, true_and, and_true]
      refine ⟨?_, ?_, ?_⟩ <;> cbv
    rw [hread, RecordSink.written, hlines]

end Checker

end CacheWarden
