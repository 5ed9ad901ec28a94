import CacheWarden.Proofs.Reaper.Rounds
import Mathlib

/-!
# One cache at a time

A pass in single mode attempts the first of its targets, and the ledger is all that the next pass
learns of that. What is left of the targets after that name was recorded are the others, in their
order, whatever else the snapshot holds. So single passes take a pass that attempts everything apart
into its attempts. Main statements: `targets_record`, `result_runAll_single`, and
`single_passes_refine_all_pass`.
-/

namespace CacheWarden.Reaper

variable {σ : Type} {w : Workload} {l : Ledger} {d : Descriptor} {live rest : List Descriptor}
  {n : String} {ts : List (String × Descriptor)}

/-! ### What is left of the targets -/

theorem targets_of_ineligible (h : eligible? w l d = none) :
    targets w l (d :: rest) = targets w l rest := by
  rw [targets, h]

theorem targets_of_eligible (h : eligible? w l d = some n) :
    targets w l (d :: rest) = (n, d) :: targets w (l.record n) rest := by
  rw [targets, h]

/-- Once the first target is recorded, the targets are the others. -/
theorem targets_record (h : targets w l live = (n, d) :: ts) :
    targets w (l.record n) live = ts := by
  induction live with
  | nil => simp [targets] at h
  | cons e rest ih =>
    cases he : eligible? w l e with
    | none =>
      rw [targets_of_ineligible he] at h
      have hmono : eligible? w (l.record n) e = none :=
        eligible?_eq_none_mono he fun m hm => Ledger.mem_record.2 (Or.inl hm)
      rw [targets_of_ineligible hmono]
      exact ih h
    | some m =>
      rw [targets_of_eligible he] at h
      obtain ⟨hhead, htail⟩ := List.cons.inj h
      cases hhead
      have hdone : eligible? w (l.record n) d = none :=
        eligible?_eq_none_of_mem (eligible?_eq_some.1 he).1 (Ledger.mem_record.2 (Or.inr rfl))
      rw [targets_of_ineligible hdone]
      exact htail

theorem targets_recordAll_take (w : Workload) (l : Ledger) (live : List Descriptor) (k : Nat) :
    targets w (l.recordAll (((targets w l live).take k).map Prod.fst)) live =
      (targets w l live).drop k := by
  induction k generalizing l with
  | zero => simp
  | succ k ih =>
    cases hts : targets w l live with
    | nil => simpa using hts
    | cons t ts =>
      obtain ⟨n, d⟩ := t
      have hrest : targets w (l.record n) live = ts := targets_record hts
      have hk := ih (l.record n)
      rw [hrest] at hk
      simpa using hk

/-- Nothing is eligible exactly if there is no target. -/
theorem eligibleCount_eq_zero_iff : eligibleCount w l live = 0 ↔ targets w l live = [] := by
  induction live with
  | nil => simp [eligibleCount, targets]
  | cons d rest ih =>
    rw [eligibleCount_cons]
    cases he : eligible? w l d with
    | none =>
      rw [targets_of_ineligible he]
      simpa using ih
    | some n =>
      rw [targets_of_eligible he]
      simp

/-! ### Attempts one after the other -/

theorem result_attemptAll_cons (r : Reaper σ) (t : String × Descriptor)
    (ts : List (String × Descriptor)) (s : σ) :
    Session.result (r.attemptAll (t :: ts)) s =
      let a := Session.result (r.attempt t.1 t.2) s
      let others := Session.result (r.attemptAll ts) a.2
      (a.1 :: others.1, others.2) := rfl

/-- The mode of a reaper has no part in what it attempts. -/
theorem result_attemptAll_of_mode (r : Reaper σ) (mode : ReapMode)
    (ts : List (String × Descriptor)) (s : σ) :
    Session.result (({ r with mode } : Reaper σ).attemptAll ts) s =
      Session.result (r.attemptAll ts) s := by
  induction ts generalizing s with
  | nil => rfl
  | cons t ts ih =>
    rw [result_attemptAll_cons, result_attemptAll_cons]
    simp only [ih]
    rfl

/-- The first elements of a list, each in a list of its own; lists that are left over are empty. -/
def oneEach {α : Type} (k : Nat) (xs : List α) : List (List α) :=
  (List.range k).map fun i => xs[i]?.toList

theorem flatten_oneEach {α : Type} (k : Nat) (xs : List α) :
    (oneEach k xs).flatten = xs.take k := by
  induction k with
  | zero => rfl
  | succ k ih =>
    rw [oneEach] at ih ⊢
    rw [List.range_succ, List.map_append, List.flatten_append, ih, List.take_add_one]
    simp

namespace Round

/-- The pass in another mode. -/
def inMode (k : Round) (mode : ReapMode) : Round := { k with mode }

variable {store : Store σ}

/-- A pass carries out its plan. -/
theorem result_run_eq (k : Round) (l : Ledger) (s : σ) :
    let r := k.reaper store
    let ts := plan k.mode false k.workload l k.snapshot
    let done := Session.result (r.attemptAll ts) s
    let l' := l.recordAll (ts.map Prod.fst)
    Session.result (k.run store l) s =
      (({ requests := r.requests ts
          summary := { attempts := done.1, deferred := eligibleCount k.workload l' k.snapshot } },
        l'), done.2) := by
  intro r ts done l'
  simp only [result_run, result_pass, result_sweep]
  rfl

/-- What the pass of a series of single passes reports that finds `i` of the targets gone. -/
def singleReport (store : Store σ) (k : Round) (l : Ledger) (s : σ) (i : Nat) : RoundReport :=
  let r := k.reaper store
  let ts := targets k.workload l k.snapshot
  { requests := (r.requests ts)[i]?.toList
    summary :=
      { attempts := (Session.result (r.attemptAll ts) s).1[i]?.toList
        deferred := eligibleCount k.workload
          (l.recordAll ((ts.take (i + 1)).map Prod.fst)) k.snapshot } }

/-- A single pass that finds no target leaves everything as it is. -/
theorem result_run_single_of_nil {k : Round} {l : Ledger}
    (h : targets k.workload l k.snapshot = []) (s : σ) :
    Session.result ((k.inMode .single).run store l) s = ((singleReport store k l s 0, l), s) := by
  have hplan : plan .single false k.workload l k.snapshot = [] := by
    rw [plan, h]
    rfl
  rw [result_run_eq]
  simp only [inMode, hplan, singleReport, h]
  rfl

/-- A single pass attempts the first target. -/
theorem result_run_single_of_cons {k : Round} {l : Ledger} {t : String × Descriptor}
    {ts : List (String × Descriptor)} (h : targets k.workload l k.snapshot = t :: ts) (s : σ) :
    Session.result ((k.inMode .single).run store l) s =
      ((singleReport store k l s 0, l.record t.1),
        (Session.result ((k.reaper store).attempt t.1 t.2) s).2) := by
  have hplan : plan .single false k.workload l k.snapshot = [t] := by
    rw [plan, h]
    rfl
  rw [result_run_eq]
  simp only [inMode, hplan, singleReport, h]
  rfl

theorem singleReport_succ_of_nil {k : Round} {l : Ledger}
    (h : targets k.workload l k.snapshot = []) (s : σ) (i : Nat) :
    singleReport store k l s (i + 1) = singleReport store k l s i := by
  simp only [singleReport, h]
  rfl

/-- Behind a pass that attempted the first target, all reports are those of a new series. -/
theorem singleReport_succ_of_cons {k : Round} {l : Ledger} {t : String × Descriptor}
    {ts : List (String × Descriptor)} (h : targets k.workload l k.snapshot = t :: ts) (s : σ)
    (i : Nat) :
    singleReport store k l s (i + 1) = singleReport store k (l.record t.1)
      (Session.result ((k.reaper store).attempt t.1 t.2) s).2 i := by
  have hrest : targets k.workload (l.record t.1) k.snapshot = ts := targets_record h
  simp only [singleReport, h, hrest]
  rfl

/-- What single passes report, and what they leave behind: each takes the next of the targets that
    the first of them finds. -/
theorem result_runAll_single (k : Round) (m : Nat) (l : Ledger) (s : σ) :
    let ts := targets k.workload l k.snapshot
    Session.result (runAll store (List.replicate m (k.inMode .single)) l) s =
      (((List.range m).map (singleReport store k l s), l.recordAll ((ts.take m).map Prod.fst)),
        (Session.result ((k.reaper store).attemptAll (ts.take m)) s).2) := by
  induction m generalizing l s with
  | zero => rfl
  | succ m ih =>
    intro ts
    rw [List.replicate_succ, result_runAll_cons, List.range_succ_eq_map, List.map_cons,
      List.map_map]
    cases hts : targets k.workload l k.snapshot with
    | nil =>
      have hreports : singleReport store k l s ∘ Nat.succ = singleReport store k l s :=
        funext (singleReport_succ_of_nil hts s)
      simp only [result_run_single_of_nil hts, ih, hreports, ts, hts, List.take_nil]
    | cons t rest =>
      have hreports : singleReport store k l s ∘ Nat.succ = singleReport store k (l.record t.1)
          (Session.result ((k.reaper store).attempt t.1 t.2) s).2 :=
        funext (singleReport_succ_of_cons hts s)
      have hrest : targets k.workload (l.record t.1) k.snapshot = rest := targets_record hts
      simp only [result_run_single_of_cons hts, ih, hreports, ts, hts, hrest, List.take_succ_cons]
      rfl

/-- A pass in all mode attempts all targets. -/
theorem result_run_all (k : Round) (l : Ledger) (s : σ) :
    let r := k.reaper store
    let ts := targets k.workload l k.snapshot
    let done := Session.result (r.attemptAll ts) s
    let l' := l.recordAll (ts.map Prod.fst)
    Session.result ((k.inMode .all).run store l) s =
      (({ requests := r.requests ts
          summary := { attempts := done.1, deferred := eligibleCount k.workload l' k.snapshot } },
        l'), done.2) := by
  intro r ts done l'
  have hdone : Session.result (((k.inMode .all).reaper store).attemptAll ts) s = done :=
    result_attemptAll_of_mode r .all ts s
  rw [result_run_eq, ← hdone]
  rfl

theorem names_recordAll_targets (w : Workload) (l : Ledger) (live : List Descriptor) (m : Nat) :
    (l.recordAll (((targets w l live).take m).map Prod.fst)).names =
      l.names ++ ((targets w l live).take m).map Prod.fst :=
  names_recordAll_of_sublist (List.take_sublist m _)

theorem requests_take (r : Reaper σ) (ts : List (String × Descriptor)) (m : Nat) :
    (r.requests ts).take m = r.requests (ts.take m) := by
  rw [requests, requests, List.map_take]

/-- A single pass leaves nothing for later if it attempted the last target, or found none. -/
theorem deferred_singleReport_eq_zero_iff (k : Round) (l : Ledger) (s : σ) (i : Nat) :
    (singleReport store k l s i).summary.deferred = 0 ↔
      (targets k.workload l k.snapshot).length ≤ i + 1 := by
  show eligibleCount _ _ _ = 0 ↔ _
  rw [eligibleCount_eq_zero_iff, targets_recordAll_take, List.drop_eq_nil_iff]

/-- Once all targets are recorded, no pass over the snapshot does anything. -/
theorem run_of_all_recorded {k : Round} {l l' : Ledger}
    (hl : l' = l.recordAll ((targets k.workload l k.snapshot).map Prod.fst)) (mode : ReapMode)
    (location : Option String) (limit : Limit) (s : σ) :
    let again := Session.result (({ k with mode, location, limit } : Round).run store l') s
    again.1.1.requests = [] ∧ again.1.2 = l' ∧ again.2 = s := by
  have hts : targets k.workload l' k.snapshot = [] := by
    have h := targets_recordAll_take k.workload l k.snapshot
      (targets k.workload l k.snapshot).length
    rwa [List.take_length, List.drop_length, ← hl] at h
  have hplan : plan mode false k.workload l' k.snapshot = [] := by
    rw [plan, hts]
    cases mode <;> rfl
  intro again
  have hagain :
      again = Session.result (({ k with mode, location, limit } : Round).run store l') s :=
    rfl
  rw [result_run_eq] at hagain
  simp only [hplan] at hagain
  rw [hagain]
  exact ⟨rfl, rfl, rfl⟩

/-- For every store and every ledger to start from: single passes over a snapshot make the requests
    of one pass in all mode, one each and in its order, get the same outcomes, and leave nothing for
    later as soon as there were as many of them as requests. After the pass in all mode no pass over
    the snapshot requests anything. -/
theorem single_passes_refine_all_pass (store : Store σ) (k : Round) (l : Ledger) (s : σ)
    (m : Nat) :
    let whole := Session.result ((k.inMode .all).run store l) s
    let requests := whole.1.1.requests
    let singles := Session.result (runAll store (List.replicate m (k.inMode .single)) l) s
    let reports := singles.1.1
    reports.flatMap RoundReport.requests = requests.take m ∧
      reports.map RoundReport.requests = oneEach m requests ∧
      reports.map (fun report => report.summary.attempts) = oneEach m whole.1.1.summary.attempts ∧
      singles.1.2.names = l.names ++ (requests.take m).map DestroyRequest.name ∧
      (∀ i report, reports[i]? = some report →
        (report.summary.deferred = 0 ↔ requests.length ≤ i + 1)) ∧
      (requests.length ≤ m → singles.1.2 = whole.1.2 ∧ singles.2 = whole.2) ∧
      ∀ mode location limit,
        let again := Session.result
          (({ k with mode, location, limit } : Round).run store whole.1.2) whole.2
        again.1.1.requests = [] ∧ again.1.2 = whole.1.2 ∧ again.2 = whole.2 := by
  intro whole requests singles reports
  set ts := targets k.workload l k.snapshot with hts
  have hwhole : whole = _ := result_run_all k l s
  have hsingles : singles = _ := result_runAll_single k m l s
  have hrequests : requests = (k.reaper store).requests ts := by
    show whole.1.1.requests = _
    rw [hwhole]
  have hreports : reports = (List.range m).map (singleReport store k l s) := by
    show singles.1.1 = _
    rw [hsingles]
  have heach : reports.map RoundReport.requests = oneEach m requests := by
    rw [hreports, hrequests, List.map_map]
    rfl
  have hlength : requests.length = ts.length := by
    rw [hrequests, Reaper.requests, List.length_map]
  refine ⟨?_, heach, ?_, ?_, ?_, ?_, ?_⟩
  · rw [List.flatMap_def, heach, flatten_oneEach]
  · rw [hreports, hwhole, List.map_map]
    rfl
  · rw [hrequests, requests_take, names_requests, hsingles]
    exact names_recordAll_targets k.workload l k.snapshot m
  · intro i report hi
    rw [hreports, List.getElem?_map, Option.map_eq_some_iff] at hi
    obtain ⟨j, hj, rfl⟩ := hi
    obtain ⟨hlt, hij⟩ := List.getElem?_eq_some_iff.1 hj
    rw [List.getElem_range] at hij
    rw [hlength, ← hij]
    exact deferred_singleReport_eq_zero_iff k l s i
  · intro hm
    rw [hlength] at hm
    rw [hsingles, hwhole, ← hts, List.take_of_length_le hm]
    exact ⟨rfl, rfl⟩
  · have hledger : whole.1.2 = l.recordAll (ts.map Prod.fst) := by
      rw [hwhole]
    intro mode location limit
    exact run_of_all_recorded hledger mode location limit whole.2

end Round

end CacheWarden.Reaper
