import CacheWarden.Proofs.Reaper.SinglePasses
import CacheWarden.Proofs.Workload.Ownership
import Mathlib

/-!
# What is eligible before a pass and after it

A sweep tests each cache against a ledger that it changes on the way. Here eligibility is said of a
cache and one ledger (`IsEligible`), and a pass is settled by two ledgers that stand still: the one
it starts with says which names are attempted, and the one it ends with says how many caches are
left. Main statements: `map_fst_targets_eq`, the names of the targets are those of the eligible
caches without the repetitions; `pass_attempts_eligible`.
-/

namespace CacheWarden.Reaper

open Verification

/-- Whether a cache is eligible under a ledger. -/
def IsEligible (w : Workload) (l : Ledger) (d : Descriptor) : Prop :=
  ∃ n ∈ d.name, n ≠ "" ∧ n ∈ w.names ∧ n ∉ l.names

instance (w : Workload) (l : Ledger) (d : Descriptor) : Decidable (IsEligible w l d) :=
  inferInstanceAs (Decidable (∃ n ∈ d.name, n ≠ "" ∧ n ∈ w.names ∧ n ∉ l.names))

/-- The names of the caches that are eligible under a ledger, each where it comes up first. -/
def eligibleNames (w : Workload) (l : Ledger) (live : List Descriptor) : List String :=
  ((live.filter (IsEligible w l)).filterMap Descriptor.name).eraseDups

variable {σ : Type} {w : Workload} {l : Ledger} {live : List Descriptor} {d : Descriptor}

theorem usableName_eq_some {n : String} : d.usableName = some n ↔ d.name = some n ∧ n ≠ "" := by
  rw [Descriptor.usableName, Option.filter_eq_some_iff, decide_eq_true_eq]

theorem isEligible_iff : IsEligible w l d ↔ (eligible? w l d).isSome = true := by
  rw [Option.isSome_iff_exists]
  constructor
  · intro h
    obtain ⟨n, hname, hn, hw, hl⟩ := h
    have hu : d.usableName = some n := usableName_eq_some.2 ⟨hname, hn⟩
    exact ⟨n, eligible?_eq_some.2 ⟨hu, hw, hl⟩⟩
  · intro h
    obtain ⟨n, hn⟩ := h
    obtain ⟨hu, hw, hl⟩ := eligible?_eq_some.1 hn
    obtain ⟨hname, hne⟩ := usableName_eq_some.1 hu
    exact ⟨n, hname, hne, hw, hl⟩

theorem eligibleCount_eq_countP (w : Workload) (l : Ledger) (live : List Descriptor) :
    eligibleCount w l live = live.countP (IsEligible w l) := by
  rw [eligibleCount]
  apply List.countP_congr
  intro d _
  rw [decide_eq_true_eq, isEligible_iff]

/-- Row for row, the eligible caches are those of the workload whose names are not in the ledger. -/
theorem names_eligible (w : Workload) (l : Ledger) (live : List Descriptor) :
    (live.filter (IsEligible w l)).filterMap Descriptor.name =
      (w.ownedNames live).filter (· ∉ l.names) := by
  induction live with
  | nil => rfl
  | cons d live ih =>
    by_cases hd : w.owns d.usableName = true
    · obtain ⟨n, hu, hw⟩ := owns_iff.1 hd
      obtain ⟨hname, hne⟩ := usableName_eq_some.1 hu
      rw [ownedNames_cons_of_owned hu hw]
      by_cases hl : n ∈ l.names
      · have hnot : ¬ IsEligible w l d := by
          rw [isEligible_iff, eligible?_eq_none_of_mem hu hl]
          exact Bool.false_ne_true
        rw [List.filter_cons_of_neg (by simpa using hnot),
          List.filter_cons_of_neg (by simpa using hl), ih]
      · have hyes : IsEligible w l d := ⟨n, hname, hne, hw, hl⟩
        rw [List.filter_cons_of_pos (by simpa using hyes),
          List.filter_cons_of_pos (by simpa using hl), List.filterMap_cons_some hname, ih]
    · have hnot : ¬ IsEligible w l d := by
        rw [isEligible_iff, eligible?_of_not_owned hd]
        exact Bool.false_ne_true
      rw [ownedNames_cons_of_not_owned hd, List.filter_cons_of_neg (by simpa using hnot), ih]

theorem map_fst_targets_eq (w : Workload) (l : Ledger) (live : List Descriptor) :
    (targets w l live).map Prod.fst = eligibleNames w l live := by
  rw [map_fst_targets, eligibleNames, names_eligible]

theorem map_fst_plan_all (w : Workload) (l : Ledger) (live : List Descriptor) :
    (plan .all false w l live).map Prod.fst = eligibleNames w l live :=
  map_fst_targets_eq w l live

theorem map_fst_plan_single (w : Workload) (l : Ledger) (live : List Descriptor) :
    (plan .single false w l live).map Prod.fst = (eligibleNames w l live).take 1 := by
  rw [← map_fst_targets_eq, ← List.map_take]
  rfl

theorem eligibleCount_of_all_recorded (w : Workload) (l : Ledger) (live : List Descriptor) :
    eligibleCount w (l.recordAll ((targets w l live).map Prod.fst)) live = 0 := by
  have hrest := targets_recordAll_take w l live (targets w l live).length
  rw [List.take_length, List.drop_length] at hrest
  exact eligibleCount_eq_zero_iff.2 hrest

/-- For every store, snapshot, workload and ledger: a pass in all mode attempts the names of the
    eligible caches, each once and in the order in which they first come up, and a pass in single
    mode the first of them. These are the names that the store is asked to destroy and that the
    ledger gains, and what is deferred is what is still eligible then. -/
theorem pass_attempts_eligible (r : Reaper σ) (live : List Descriptor) (w : Workload) (l : Ledger)
    (s : σ) :
    let out := (Session.result (r.pass live w l) s).1
    let names := out.1.attempts.map DestroyAttempt.cache
    (r.mode = .all → names = eligibleNames w l live) ∧
      (r.mode = .single → names = (eligibleNames w l live).take 1) ∧
      (Session.result (r.traced.pass live w l) { state := s }).2.calls.requests.map
        DestroyRequest.name = names ∧
      out.2.names = l.names ++ names ∧
      out.1.deferred = live.countP (IsEligible w out.2) ∧
      (r.mode = .all → out.1.deferred = 0) := by
  intro out names
  set ts := plan r.mode false w l live with hts
  have hout : out = ({ attempts := (Session.result (r.attemptAll ts) s).1
                       deferred := eligibleCount w (l.recordAll (ts.map Prod.fst)) live },
      l.recordAll (ts.map Prod.fst)) := by
    show (Session.result (r.pass live w l) s).1 = _
    rw [result_pass, result_sweep]
  have hnames : names = ts.map Prod.fst := by
    show out.1.attempts.map DestroyAttempt.cache = _
    rw [hout]
    exact caches_attemptAll r ts s
  refine ⟨?_, ?_, ?_, ?_, ?_, ?_⟩
  · intro hmode
    rw [hnames, hts, hmode, map_fst_plan_all]
  · intro hmode
    rw [hnames, hts, hmode, map_fst_plan_single]
  · rw [result_pass_traced, hnames]
    exact Round.names_requests r ts
  · rw [hnames, hout]
    exact names_recordAll_of_sublist (r.mode.permitted_sublist false _)
  · rw [hout, eligibleCount_eq_countP]
  · intro hmode
    rw [hout, hts, plan, hmode]
    exact eligibleCount_of_all_recorded w l live

end CacheWarden.Reaper
