import CacheWarden.Proofs.Checker.Transcript
import CacheWarden.Proofs.Reaper.Outcomes
import Mathlib

/-!
# The total of a run

The result that a run puts on record gives a number of destroyed caches. It is the number of
attempts, so that an attempt that failed, or ran out of time, counts in it like one that succeeded.
Main statements: `outcomes_events` and `totals_events`, what can be read off the records of a run;
`run_total_counts_attempts`, against the answers of the store.
-/

namespace CacheWarden

namespace Event

/-- The outcome of an attempt that is on record. -/
def outcome? (e : Event) : Option DestroyOutcome :=
  if e.name = "reap.destroy" then
    match e.data.field? "outcome" with
    | some (.text label) => DestroyOutcome.ofLabel? label
    | _ => none
  else none

/-- The number of destroyed caches that a result gives, which may be null. -/
def total? (e : Event) : Option (Option Int) :=
  if e.name = "run.result" then
    match e.data.field? "destroyed" with
    | some .null => some none
    | some (.int n) => some (some n)
    | _ => none
  else none

/-- The outcomes of all attempts on record. -/
def outcomes (events : List Event) : List DestroyOutcome := events.filterMap outcome?

/-- The totals of all results on record. -/
def totals (events : List Event) : List (Option Int) := events.filterMap total?

@[simp] theorem outcome?_count (k : CountCheck) : (count k).outcome? = none := rfl

@[simp] theorem outcome?_finding (f : Finding) : (finding f).outcome? = none := rfl

@[simp] theorem outcome?_destroyed (a : DestroyAttempt) :
    (destroyed a).outcome? = some a.outcome :=
  DestroyOutcome.ofLabel?_label a.outcome

@[simp] theorem outcome?_result (success : Bool) (findings : Nat) (attempts : Option Nat) :
    (result success findings attempts).outcome? = none := rfl

@[simp] theorem total?_count (k : CountCheck) : (count k).total? = none := rfl

@[simp] theorem total?_finding (f : Finding) : (finding f).total? = none := rfl

@[simp] theorem total?_destroyed (a : DestroyAttempt) : (destroyed a).total? = none := rfl

@[simp] theorem total?_result (success : Bool) (findings : Nat) (attempts : Option Nat) :
    (result success findings attempts).total? = some (attempts.map Int.ofNat) := by
  cases attempts <;> rfl

end Event

open Event

namespace RunReport

theorem outcomes_events (r : RunReport) :
    outcomes r.events = r.attempts.map DestroyAttempt.outcome := by
  simp [outcomes, events, resultEvent, Function.comp_def, List.filterMap_map]

/-- The total is the number of attempts, whatever came of them. -/
theorem totals_events (r : RunReport) :
    totals r.events = [r.reap.map fun s => (s.attempts.length : Int)] := by
  simp [totals, events, resultEvent, Function.comp_def, List.filterMap_map]

/-- So it is the number of caches that were destroyed only if every attempt destroyed one. -/
theorem totals_eq_count_iff {r : RunReport} {s : ReapSummary} (h : r.reap = some s) :
    totals r.events = [some ((outcomes r.events).count .destroyedAll : Int)] ↔
      ∀ o ∈ outcomes r.events, o = .destroyedAll := by
  have htotals : totals r.events = [some ((outcomes r.events).length : Int)] := by
    rw [totals_events, outcomes_events, List.length_map, attempts, h]
    rfl
  have hcount : (outcomes r.events).count .destroyedAll = (outcomes r.events).length ↔ _ :=
    List.count_eq_length
  rw [htotals, List.singleton_inj, Option.some_inj, Int.natCast_inj, eq_comm, hcount]
  exact forall₂_congr fun _ _ => eq_comm

theorem isSuccess_iff_outcomes (r : RunReport) :
    r.isSuccess = true ↔
      r.verification.isPass = true ∧ ∀ o ∈ outcomes r.events, o = .destroyedAll := by
  rw [isSuccess, Bool.and_eq_true, outcomes_events, attempts]
  refine and_congr_right fun _ => ?_
  cases r.reap with
  | none => simp
  | some s =>
    rw [Option.all_some, s.isSuccess_iff_all_destroyed, Option.map_some, Option.getD_some,
      List.forall_mem_map]

end RunReport

/-! ### The answers of a store -/

theorem DestroyRequest.map_outcome_attempts {requests : List DestroyRequest}
    {answers : List (Option DestroyOutcome)} (h : answers.length = requests.length) :
    (List.zipWith DestroyRequest.attempt requests answers).map DestroyAttempt.outcome =
      answers.map (·.getD .unknown) := by
  induction requests generalizing answers with
  | nil =>
    rw [List.eq_nil_of_length_eq_zero h]
    rfl
  | cons q requests ih =>
    obtain ⟨answer, answers, rfl⟩ := List.exists_cons_of_length_eq_add_one h
    have hrest := ih (Nat.succ.inj h)
    simp only [List.zipWith_cons_cons, List.map_cons, DestroyRequest.attempt_eq, hrest]

theorem getD_eq_destroyedAll_iff {answer : Option DestroyOutcome} :
    answer.getD .unknown = .destroyedAll ↔ answer = some .destroyedAll := by
  cases answer with
  | none => simp
  | some outcome => simp

namespace Checker

variable {σ : Type}

/-- The requests of a checker's pass. -/
abbrev requests (store : Store σ) (c : Checker) : List DestroyRequest :=
  (reaper store c.config).requests
    (Reaper.plan c.config.reapMode false c.workload c.ledger c.snapshot)

/-- The answers of a store to the requests of a checker's pass. -/
abbrev answersTo (store : Store σ) (c : Checker) (s : σ) : List (Option DestroyOutcome) :=
  (Session.result (store.answers (limit c.config) (c.requests store)) s).1

theorem attempts_reaping (store : Store σ) (c : Checker) (s : σ) :
    (c.reaping store s).1.1.attempts =
      List.zipWith DestroyRequest.attempt (c.requests store) (c.answersTo store s) := by
  rw [reaping, Reaper.result_pass, Reaper.result_sweep, Reaper.result_attemptAll_answers]
  rfl

theorem length_attempts_reaping (store : Store σ) (c : Checker) (s : σ) :
    (c.reaping store s).1.1.attempts.length = (c.requests store).length := by
  rw [attempts_reaping, List.length_zipWith, Reaper.length_answers, Nat.min_self]

theorem outcomes_reaping (store : Store σ) (c : Checker) (s : σ) :
    (c.reaping store s).1.1.attempts.map DestroyAttempt.outcome =
      (c.answersTo store s).map (·.getD .unknown) := by
  rw [attempts_reaping, DestroyRequest.map_outcome_attempts (Reaper.length_answers _ _ _ _)]

/-- Taking down the calls changes nothing about a pass. -/
theorem reaping_traced (store : Store σ) (c : Checker) (t : Traced σ) :
    c.reaping store.traced t =
      let reaped := c.reaping store t.state
      (reaped.1, { t.requested (c.requests store) with state := reaped.2 }) := by
  have hr : reaper store.traced c.config = (reaper store c.config).traced := rfl
  rw [reaping, hr, Reaper.result_pass_traced]
  rfl

/-- What a run that comes to its end did to the caches: a pass if it was cleared, else nothing. -/
theorem reap_run {store : Store σ} {c : Checker} {world : World σ} {report : RunReport}
    (h : (Session.result (c.run store) world).1.1 = .ok report) :
    (¬ c.Cleared world.files → report.reap = none) ∧
      (c.Cleared world.files → report.verification.isPass = true ∧
        report.reap = some (c.reaping store world.store).1.1) := by
  cases hload : (Registry.load world.files c.config.cacheFiles).value with
  | error e =>
    rw [run_of_loadError hload] at h
    cases h
  | ok registry =>
    rw [value_run_of_loaded hload] at h
    obtain rfl := Except.ok.inj h
    have hreaps : (c.withRegistry registry).report.isPass && c.config.delete ↔
        c.Cleared world.files := by
      rw [cleared_iff hload, Bool.and_eq_true, and_comm]
    rw [← hreaps]
    exact ⟨fun hkept => if_neg hkept, fun h => ⟨(Bool.and_eq_true_iff.1 h).1, if_pos h⟩⟩

/-- For every checker, all files and every store, whatever it answers and whichever calls run out of
    time: a run that comes to its end puts the events of its report on record, among them one
    result. Its total is null, and no attempt is on record, if the run was not cleared to destroy.
    Otherwise it is the number of requests that reached the store, and the outcomes on record are
    the answers in their order. So the total is the number of caches that were destroyed exactly if
    the run succeeded, that is, if every answer was that the cache is destroyed. -/
theorem run_total_counts_attempts (store : Store σ) (c : Checker) (world : World (Traced σ)) :
    let out := Session.result (c.run store.traced) world
    ∀ report, out.1.1 = .ok report →
      out.2.toRecordState = c.records.emitAll report.events world.toRecordState ∧
      (¬ c.Cleared world.files →
        totals report.events = [none] ∧ outcomes report.events = []) ∧
      (c.Cleared world.files → ∃ requests,
        let answers :=
          (Session.result (store.answers (limit c.config) requests) world.store.state).1
        let destroyed : Int := (outcomes report.events).count .destroyedAll
        out.2.store.calls.requests = world.store.calls.requests ++ requests ∧
          totals report.events = [some (requests.length : Int)] ∧
          outcomes report.events = answers.map (·.getD .unknown) ∧
          (totals report.events = [some destroyed] ↔ report.isSuccess = true) ∧
          (report.isSuccess = true ↔ ∀ answer ∈ answers, answer = some .destroyedAll)) := by
  intro out report h
  obtain ⟨hkept, hreaped⟩ := reap_run h
  refine ⟨?_, ?_, ?_⟩
  · have hstate : out.2.toRecordState = _ := toRecordState_run store.traced c world
    rw [hstate, show out.1.1 = .ok report from h]
    rfl
  · intro hc
    rw [RunReport.totals_events, RunReport.outcomes_events, RunReport.attempts, hkept hc]
    exact ⟨rfl, rfl⟩
  · intro hc
    obtain ⟨hpass, hreap⟩ := hreaped hc
    rw [reaping_traced] at hreap
    have houtcomes : outcomes report.events =
        (c.answersTo store world.store.state).map (·.getD .unknown) := by
      rw [RunReport.outcomes_events, RunReport.attempts, hreap]
      exact outcomes_reaping store c world.store.state
    have hsuccess : report.isSuccess = true ↔ ∀ o ∈ outcomes report.events, o = .destroyedAll := by
      rw [report.isSuccess_iff_outcomes, hpass, eq_self, true_and]
    refine ⟨c.requests store, ?_, ?_, houtcomes, ?_, ?_⟩
    · rw [(run_of_cleared hc store.traced).1, reaping_traced]
      rfl
    · rw [RunReport.totals_events, hreap, Option.map_some, length_attempts_reaping]
    · rw [RunReport.totals_eq_count_iff hreap, hsuccess]
    · rw [hsuccess, houtcomes, List.forall_mem_map]
      exact forall₂_congr fun _ _ => getD_eq_destroyedAll_iff

/-- Two caches that are both destroyed are counted. -/
theorem run_total_of_two_destroyed :
    let own (name : String) : Descriptor :=
      { name := some name, persistence := .persistent, addressMode := .bits64 }
    let config : Config := { delete := true, reapMode := .all, launcher := { java := "java" } }
    let c : Checker :=
      { config, workload := ⟨["T1", "T2"]⟩, records := ⟨some "run.jsonl", "id", "now"⟩
        snapshot := [own "T1", own "T2"] }
    let store := Store.inMemory { caches := c.snapshot }
    let world : World (Traced StoreCalls) :=
      { files := .empty [], store := { state := {} } }
    let out := Session.result (c.run store.traced) world
    ∃ report, out.1.1 = .ok report ∧
      c.Cleared world.files ∧
      out.2.store.calls.requests.map DestroyRequest.name = ["T1", "T2"] ∧
      report.isSuccess = true ∧
      totals report.events = [some ((outcomes report.events).count .destroyedAll : Int)] := by
  intro own config c store world out
  have hload : (Registry.load world.files c.config.cacheFiles).value = .ok .empty := rfl
  have hreport := value_run_of_loaded hload store.traced
  have hcleared : c.Cleared world.files := (cleared_iff hload).2 ⟨rfl, by decide +kernel⟩
  obtain ⟨-, -, h⟩ := run_total_counts_attempts store c world _ hreport
  obtain ⟨requests, -, -, -, htotal, -⟩ := h hcleared
  have hsuccess : (reportOf store.traced (c.withRegistry .empty) world.store).isSuccess = true := by
    decide +kernel
  exact ⟨_, hreport, hcleared, by decide +kernel, hsuccess, htotal.2 hsuccess⟩

/-- A run whose second destroy failed counts two destroyed caches, with one of them on record. -/
theorem run_total_of_refused_destroy :
    let own (name : String) : Descriptor :=
      { name := some name, persistence := .persistent, addressMode := .bits64 }
    let config : Config := { delete := true, reapMode := .all, launcher := { java := "java" } }
    let c : Checker :=
      { config, workload := ⟨["T1", "T2"]⟩, records := ⟨some "run.jsonl", "id", "now"⟩
        snapshot := [own "T1", own "T2"] }
    let store :=
      Store.inMemory { caches := c.snapshot, outcomes := [("T2", .destroyedNone)] }
    let world : World (Traced StoreCalls) :=
      { files := .empty [], store := { state := {} } }
    let out := Session.result (c.run store.traced) world
    c.Cleared world.files ∧ ∃ report, out.1.1 = .ok report ∧
      totals report.events = [some 2] ∧
      (outcomes report.events).count .destroyedAll = 1 := by
  intro own config c store world out
  have hload : (Registry.load world.files c.config.cacheFiles).value = .ok .empty := rfl
  have hcleared : c.Cleared world.files := (cleared_iff hload).2 ⟨rfl, by decide +kernel⟩
  exact ⟨hcleared, _, value_run_of_loaded hload store.traced, by decide +kernel,
    by decide +kernel⟩

end Checker

end CacheWarden
