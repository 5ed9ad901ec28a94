import CacheWarden.Proofs.Checker.Steps
import CacheWarden.Proofs.Reaper.Plan
import CacheWarden.Proofs.Registry.Load
import CacheWarden.Proofs.Verification.Clean
import Mathlib

/-!
# What lets a run destroy

A destroy cannot be taken back, so a run is held to more than its configuration: it may destroy only
if every declaration could be read and the whole snapshot is clean, not only the caches that would
be destroyed. Main statement: `run_destroys_only_when_cleared`.
-/

namespace CacheWarden.Checker

variable {σ : Type}

/-- Whether a run over some files may destroy. -/
structure Cleared (c : Checker) (files : FileTree) : Prop where
  deleting : c.config.delete = true
  readable : ∀ source ∈ c.config.cacheFiles, ∃ text, files.readText source = .ok text
  clean : ∀ registry, (Registry.load files c.config.cacheFiles).value = .ok registry →
    Verification.Clean c.snapshot registry c.workload (countExpectation c.config)

theorem cleared_iff {c : Checker} {files : FileTree} {registry : Registry}
    (h : (Registry.load files c.config.cacheFiles).value = .ok registry) :
    c.Cleared files ↔
      c.config.delete = true ∧ (c.withRegistry registry).report.isPass = true := by
  rw [report, Verification.isPass_report_iff]
  constructor
  · rintro ⟨hon, -, hclean⟩
    exact ⟨hon, hclean registry h⟩
  · rintro ⟨hon, hclean⟩
    refine ⟨hon, (Registry.load_isOk_iff _ _).1 ⟨registry, h⟩, ?_⟩
    intro registry' h'
    rw [h] at h'
    cases h'
    exact hclean

theorem run_of_not_cleared {c : Checker} {world : World σ} (h : ¬ c.Cleared world.files)
    (store : Store σ) :
    let out := Session.result (c.run store) world
    out.2.store = world.store ∧ out.1.2.ledger = c.ledger := by
  cases hload : (Registry.load world.files c.config.cacheFiles).value with
  | error e =>
    rw [run_of_loadError hload]
    exact ⟨rfl, rfl⟩
  | ok registry =>
    rw [cleared_iff hload, not_and_or, Bool.not_eq_true, Bool.not_eq_true, or_comm] at h
    obtain ⟨hc, hs⟩ := run_of_kept hload store h
    exact ⟨hs, by rw [hc]; rfl⟩

theorem run_of_cleared {c : Checker} {world : World σ} (h : c.Cleared world.files)
    (store : Store σ) :
    let out := Session.result (c.run store) world
    let reaped := c.reaping store world.store
    out.2.store = reaped.2 ∧ out.1.2.ledger = reaped.1.2 := by
  obtain ⟨registry, hload⟩ := (Registry.load_isOk_iff _ _).2 h.readable
  obtain ⟨hon, hpass⟩ := (cleared_iff hload).1 h
  obtain ⟨hc, hs⟩ := run_of_pass hload store hpass hon
  exact ⟨hs, by rw [hc]⟩

/-- For every checker, all files and every store: a run that lets a request through was cleared. One
    that was not leaves its store and its ledger as they were, and one that was makes the requests
    of its reaper's pass. -/
theorem run_destroys_only_when_cleared (store : Store σ) (c : Checker)
    (world : World (Traced σ)) :
    let out := Session.result (c.run store.traced) world
    let before := world.store.calls.requests
    let planned := Reaper.plan c.config.reapMode false c.workload c.ledger c.snapshot
    (out.2.store.calls.requests ≠ before → c.Cleared world.files) ∧
      (¬ c.Cleared world.files → out.2.store = world.store ∧ out.1.2.ledger = c.ledger) ∧
      (c.Cleared world.files →
        out.2.store.calls.requests = before ++ (reaper store c.config).requests planned ∧
        out.1.2.ledger = c.ledger.recordAll (planned.map Prod.fst)) := by
  intro out before planned
  refine ⟨?_, fun h => run_of_not_cleared h store.traced, ?_⟩
  · intro hchanged
    by_contra h
    exact hchanged (by rw [(run_of_not_cleared h store.traced).1])
  · intro h
    obtain ⟨hs, hl⟩ := run_of_cleared h store.traced
    have hr : reaper store.traced c.config = (reaper store c.config).traced := rfl
    constructor
    · rw [hs, reaping, hr, Reaper.result_pass_traced]
      rfl
    · rw [hl, reaping, Reaper.ledger_pass]
      rfl

end CacheWarden.Checker
