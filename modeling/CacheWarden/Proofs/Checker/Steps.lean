import CacheWarden.Proofs.Session.Result
import Mathlib

/-!
# The steps of a checker

What each step of a checker gives, and what it leaves of the store. Records go to files only, so
writing them, and reporting findings, leaves the store alone; a run reaches its store in no other
way than through the pass of its reaper. Main statements: `run_of_loadError`, `run_of_kept`,
`run_of_pass`.
-/

namespace CacheWarden.Checker

variable {σ : Type}

theorem store_emitAll (sink : RecordSink) (events : List Event) (world : World σ) :
    (Session.result (emitAll sink events) world).2.store = world.store := by
  induction events generalizing world with
  | nil => rfl
  | cons e rest ih =>
    rw [emitAll, Session.result_bind, ih]
    rfl

theorem store_reportFindings (c : Checker) (findings : List Finding) (world : World σ) :
    (Session.result (c.reportFindings findings) world).2.store = world.store := by
  induction findings generalizing world with
  | nil => rfl
  | cons f rest ih =>
    rw [reportFindings, Session.result_bind, Session.result_bind, ih]
    rfl

/-! ### Starting -/

/-- What a start lists. -/
abbrev listing (store : Store σ) (config : Config) (s : σ) :
    Except Failure (List Descriptor) × σ :=
  Session.result (store.list (limit config) (query config)) s

theorem start_of_refused {store : Store σ} {config : Config} {world : World σ} {e : Failure}
    (h : (listing store config world.store).1 = .error e) (w : Workload) (records : RecordSink) :
    Session.result (start store config w records) world =
      (.error e, { world with store := (listing store config world.store).2 }) := by
  rw [start, Session.result_bind, Session.result_onStore, h]
  rfl

theorem start_of_listed {store : Store σ} {config : Config} {world : World σ}
    {snapshot : List Descriptor} (h : (listing store config world.store).1 = .ok snapshot)
    (workload : Workload) (records : RecordSink) :
    let out := Session.result (start store config workload records) world
    out.1 = .ok { config, workload, records, snapshot } ∧
      out.2.store = (listing store config world.store).2 := by
  rw [start, Session.result_bind, Session.result_onStore, h]
  refine ⟨rfl, ?_⟩
  simp only [Session.result_bind, Session.result_info, Session.result_pure, store_emitAll]

/-! ### Loading and verifying -/

/-- The checker with other declarations. -/
def withRegistry (c : Checker) (registry : Registry) : Checker := { c with registry }

theorem result_loadExpected (c : Checker) (world : World σ) :
    Session.result c.loadExpected world =
      ((Registry.load world.files c.config.cacheFiles).value.map c.withRegistry, world) := by
  rw [loadExpected, Session.result_bind, Session.result_readFiles]
  cases (Registry.load world.files c.config.cacheFiles).value <;> rfl

/-- What the verification of a checker finds out. -/
def report (c : Checker) : VerificationReport :=
  Verification.report c.snapshot c.registry c.workload (countExpectation c.config)

theorem result_verify (c : Checker) (world : World σ) :
    let out := Session.result c.verify world
    out.1 = c.report ∧ out.2.store = world.store := by
  rw [verify]
  simp only [Session.result_bind, Session.result_lift, Session.result_debug, Session.result_pure,
    store_reportFindings, store_emitAll, and_true]
  rfl

/-! ### Deleting -/

/-- What the pass of a checker's reaper does. -/
abbrev reaping (store : Store σ) (c : Checker) (s : σ) : (ReapSummary × Ledger) × σ :=
  Session.result ((reaper store c.config).pass c.snapshot c.workload c.ledger) s

theorem delete_of_off {c : Checker} (h : c.config.delete = false) (store : Store σ)
    (world : World σ) : Session.result (c.delete store) world = ((none, c), world) := by
  rw [delete, h]
  rfl

theorem delete_of_on {c : Checker} (h : c.config.delete = true) (store : Store σ)
    (world : World σ) :
    let out := Session.result (c.delete store) world
    let reaped := c.reaping store world.store
    out.1 = (some reaped.1.1, { c with ledger := reaped.1.2 }) ∧ out.2.store = reaped.2 := by
  rw [delete, h]
  refine ⟨rfl, ?_⟩
  simp only [Bool.not_true, Bool.false_eq_true, if_false, Session.result_bind,
    Session.result_onStore, Session.result_pure, store_emitAll]

theorem deleteIfVerified_of_fail {r : VerificationReport} (h : r.isPass = false) (c : Checker)
    (store : Store σ) (world : World σ) :
    Session.result (c.deleteIfVerified store r) world = ((none, c), world) := by
  rw [deleteIfVerified, h]
  rfl

theorem deleteIfVerified_of_pass {r : VerificationReport} (h : r.isPass = true) (c : Checker)
    (store : Store σ) (world : World σ) :
    Session.result (c.deleteIfVerified store r) world = Session.result (c.delete store) world := by
  rw [deleteIfVerified, h]
  rfl

/-! ### A full run -/

theorem run_of_loadError {c : Checker} {world : World σ} {e : Failure}
    (h : (Registry.load world.files c.config.cacheFiles).value = .error e) (store : Store σ) :
    Session.result (c.run store) world = ((.error e, c), world) := by
  rw [run, Session.result_bind, result_loadExpected, h]
  rfl

/-- Once its declarations are loaded, a run comes down to the deletion after the verification. -/
theorem run_of_loaded {c : Checker} {world : World σ} {registry : Registry}
    (h : (Registry.load world.files c.config.cacheFiles).value = .ok registry) (store : Store σ) :
    let loaded := c.withRegistry registry
    let verified := (Session.result loaded.verify world).2
    let deleted := Session.result (loaded.deleteIfVerified store loaded.report) verified
    let out := Session.result (c.run store) world
    out.1 = (.ok { verification := loaded.report, reap := deleted.1.1 }, deleted.1.2) ∧
      out.2.store = deleted.2.store := by
  intro loaded verified deleted
  have hreport : (Session.result loaded.verify world).1 = loaded.report :=
    (result_verify loaded world).1
  rw [run, Session.result_bind, result_loadExpected, h]
  simp only [Except.map, Session.result_bind, Session.result_pure, store_emitAll]
  exact ⟨by rw [hreport], by rw [hreport]⟩

/-- A run that finds something, or that is not to delete, leaves the store and the ledger alone. -/
theorem run_of_kept {c : Checker} {world : World σ} {registry : Registry}
    (h : (Registry.load world.files c.config.cacheFiles).value = .ok registry) (store : Store σ)
    (hkept : (c.withRegistry registry).report.isPass = false ∨ c.config.delete = false) :
    let out := Session.result (c.run store) world
    out.1.2 = c.withRegistry registry ∧ out.2.store = world.store := by
  obtain ⟨hvalue, hstore⟩ := run_of_loaded h store
  have hverified := (result_verify (c.withRegistry registry) world).2
  dsimp only at hvalue hstore hverified ⊢
  rw [hvalue, hstore]
  cases hp : (c.withRegistry registry).report.isPass with
  | false =>
    rw [deleteIfVerified_of_fail hp]
    exact ⟨rfl, hverified⟩
  | true =>
    have hoff : (c.withRegistry registry).config.delete = false := by
      rcases hkept with hf | hf
      · rw [hp] at hf
        cases hf
      · exact hf
    rw [deleteIfVerified_of_pass hp, delete_of_off hoff]
    exact ⟨rfl, hverified⟩

/-- A run that finds nothing and is to delete does to the store and the ledger what the pass of its
    reaper does. -/
theorem run_of_pass {c : Checker} {world : World σ} {registry : Registry}
    (h : (Registry.load world.files c.config.cacheFiles).value = .ok registry) (store : Store σ)
    (hpass : (c.withRegistry registry).report.isPass = true) (hon : c.config.delete = true) :
    let out := Session.result (c.run store) world
    let reaped := c.reaping store world.store
    out.1.2 = { c.withRegistry registry with ledger := reaped.1.2 } ∧
      out.2.store = reaped.2 := by
  obtain ⟨hvalue, hstore⟩ := run_of_loaded h store
  have hverified := (result_verify (c.withRegistry registry) world).2
  obtain ⟨hd, hs⟩ := delete_of_on (c := c.withRegistry registry) hon store
    (Session.result (c.withRegistry registry).verify world).2
  dsimp only at hvalue hstore hverified hd hs ⊢
  rw [hvalue, hstore, deleteIfVerified_of_pass hpass, hd, hs, hverified]
  exact ⟨rfl, rfl⟩

end CacheWarden.Checker
