import CacheWarden.Proofs.Store.Traced
import CacheWarden.Reaper.Pass
import Mathlib

/-!
# What a pass attempts

Which caches a pass attempts is settled before the first of them is: it depends on the snapshot, the
workload, the ledger and the mode, and on no answer of the store. A sweep is therefore a plan
(`targets`, cut down by `ReapMode.permitted`) that is carried out afterwards (`attemptAll`). Main
statements: `result_sweep`, a sweep carries out its plan, records its names and counts what is still
eligible then; `mem_plan` and `nodup_plan`, what a plan holds.
-/

namespace CacheWarden

namespace Ledger

/-- The ledger with some more names. -/
def recordAll (l : Ledger) (names : List String) : Ledger := names.foldl record l

@[simp] theorem recordAll_nil (l : Ledger) : l.recordAll [] = l := rfl

@[simp] theorem recordAll_cons (l : Ledger) (n : String) (names : List String) :
    l.recordAll (n :: names) = (l.record n).recordAll names := rfl

@[simp] theorem mem_recordAll {l : Ledger} {names : List String} {n : String} :
    n ∈ (l.recordAll names).names ↔ n ∈ l.names ∨ n ∈ names := by
  induction names generalizing l with
  | nil => simp
  | cons m names ih => rw [recordAll_cons, ih, mem_record, List.mem_cons, or_assoc]

theorem names_record {l : Ledger} {n : String} (h : n ∉ l.names) :
    (l.record n).names = l.names ++ [n] := by
  simp [record, h]

/-- Names that are new and distinct are put behind the old ones. -/
theorem names_recordAll {l : Ledger} {names : List String} (distinct : names.Nodup)
    (fresh : ∀ n ∈ names, n ∉ l.names) : (l.recordAll names).names = l.names ++ names := by
  induction names generalizing l with
  | nil => simp
  | cons m names ih =>
    have hd := List.nodup_cons.1 distinct
    have hm : m ∉ l.names := fresh m (by simp)
    rw [recordAll_cons, ih hd.2, names_record hm, List.append_assoc, List.singleton_append]
    intro n hn
    rw [mem_record, not_or]
    exact ⟨fresh n (List.mem_cons_of_mem _ hn), fun e => hd.1 (e ▸ hn)⟩

end Ledger

/-- A name that is not empty is looked for among all names as among the usable ones. -/
theorem Descriptor.name_beq_some {n : String} (hn : n ≠ "") (d : Descriptor) :
    (d.name == some n) = (d.usableName == some n) := by
  unfold usableName
  cases hd : d.name with
  | none => rfl
  | some m =>
    by_cases hm : m = ""
    · subst hm
      simp [hn.symm]
    · rw [Option.filter_some_pos (by simpa using hm)]

/-- Those of some eligible caches that a pass attempts. The flag says whether it attempted one
    before. -/
def ReapMode.permitted {α : Type} : ReapMode → Bool → List α → List α
  | .all, _, ts => ts
  | .single, false, ts => ts.take 1
  | .single, true, _ => []

theorem ReapMode.permitted_sublist {α : Type} (m : ReapMode) (attempted : Bool) (ts : List α) :
    (m.permitted attempted ts).Sublist ts := by
  cases m with
  | all => exact List.Sublist.refl ts
  | single =>
    cases attempted with
    | false => exact List.take_sublist 1 ts
    | true => exact List.nil_sublist ts

namespace Reaper

variable {σ : Type}

theorem eligible?_eq_some {w : Workload} {l : Ledger} {d : Descriptor} {n : String} :
    eligible? w l d = some n ↔ d.usableName = some n ∧ n ∈ w.names ∧ n ∉ l.names := by
  simp [eligible?, Option.filter_eq_some_iff, Workload.contains, Ledger.contains]

theorem eligible?_eq_none_mono {w : Workload} {l l' : Ledger} {d : Descriptor}
    (h : eligible? w l d = none) (hl : ∀ n ∈ l.names, n ∈ l'.names) :
    eligible? w l' d = none := by
  rw [Option.eq_none_iff_forall_ne_some] at h ⊢
  intro n hn
  obtain ⟨hu, hw, hn⟩ := eligible?_eq_some.1 hn
  exact h n (eligible?_eq_some.2 ⟨hu, hw, fun hm => hn (hl n hm)⟩)

theorem eligible?_eq_none_of_mem {w : Workload} {l : Ledger} {d : Descriptor} {n : String}
    (hu : d.usableName = some n) (hl : n ∈ l.names) : eligible? w l d = none := by
  rw [Option.eq_none_iff_forall_ne_some]
  intro m hm
  obtain ⟨hum, _, hml⟩ := eligible?_eq_some.1 hm
  rw [Option.some.inj (hum.symm.trans hu)] at hml
  exact hml hl

/-- The caches that a pass attempts if it may attempt any number, each under its name: those whose
    name is eligible and did not come up before. -/
def targets (w : Workload) : Ledger → List Descriptor → List (String × Descriptor)
  | _, [] => []
  | l, d :: rest =>
      match eligible? w l d with
      | none => targets w l rest
      | some name => (name, d) :: targets w (l.record name) rest

/-- How many caches are eligible, each row counted. -/
def eligibleCount (w : Workload) (l : Ledger) (live : List Descriptor) : Nat :=
  live.countP fun d => (eligible? w l d).isSome

theorem eligibleCount_cons (w : Workload) (l : Ledger) (d : Descriptor) (live : List Descriptor) :
    eligibleCount w l (d :: live) =
      eligibleCount w l live + if (eligible? w l d).isSome = true then 1 else 0 :=
  List.countP_cons ..

/-- Attempts some caches, one after the other. -/
def attemptAll (r : Reaper σ) : List (String × Descriptor) → Session σ (List DestroyAttempt)
  | [] => return []
  | (name, d) :: rest => do
      let a ← r.attempt name d
      let others ← r.attemptAll rest
      return a :: others

/-! ### What a plan holds -/

/-- A target is named, owned and new, and it is the first cache of its name. -/
theorem mem_targets {w : Workload} {l : Ledger} {live : List Descriptor} {n : String}
    {d : Descriptor} (h : (n, d) ∈ targets w l live) :
    n ∈ w.names ∧ n ∉ l.names ∧ live.find? (fun e => e.usableName == some n) = some d := by
  induction live generalizing l with
  | nil => simp [targets] at h
  | cons e rest ih =>
    unfold targets at h
    cases he : eligible? w l e with
    | none =>
      rw [he] at h
      obtain ⟨hw, hl, hf⟩ := ih h
      have hne : e.usableName ≠ some n := by
        intro hu
        rw [eligible?_eq_some.2 ⟨hu, hw, hl⟩] at he
        cases he
      exact ⟨hw, hl, by rw [List.find?_cons_of_neg (by simpa using hne), hf]⟩
    | some m =>
      rw [he] at h
      obtain ⟨hu, hm, hml⟩ := eligible?_eq_some.1 he
      rcases List.mem_cons.1 h with h | h
      · cases h
        exact ⟨hm, hml, List.find?_cons_of_pos (by simp [hu])⟩
      · obtain ⟨hw, hl, hf⟩ := ih h
        rw [Ledger.mem_record, not_or] at hl
        have hne : e.usableName ≠ some n := by
          rw [hu]
          exact fun e => hl.2 (Option.some.inj e).symm
        exact ⟨hw, hl.1, by rw [List.find?_cons_of_neg (by simpa using hne), hf]⟩

/-- No name is planned twice. -/
theorem nodup_targets (w : Workload) (l : Ledger) (live : List Descriptor) :
    ((targets w l live).map Prod.fst).Nodup := by
  induction live generalizing l with
  | nil => simp [targets]
  | cons d rest ih =>
    unfold targets
    split
    · exact ih l
    · rename_i name _
      rw [List.map_cons, List.nodup_cons]
      refine ⟨?_, ih (l.record name)⟩
      intro hm
      obtain ⟨⟨n, e⟩, hmem, rfl⟩ := List.mem_map.1 hm
      exact (mem_targets hmem).2.1 (by simp)

/-- Recorded, the names of any of the targets stand behind the old ones. -/
theorem names_recordAll_of_sublist {w : Workload} {l : Ledger} {live : List Descriptor}
    {ts : List (String × Descriptor)} (h : ts.Sublist (targets w l live)) :
    (l.recordAll (ts.map Prod.fst)).names = l.names ++ ts.map Prod.fst := by
  apply Ledger.names_recordAll
  · exact (nodup_targets w l live).sublist (h.map Prod.fst)
  · intro n hn
    obtain ⟨⟨_, d⟩, hd, rfl⟩ := List.mem_map.1 hn
    exact (mem_targets (h.subset hd)).2.1

/-- The plan of a sweep. -/
def plan (mode : ReapMode) (attempted : Bool) (w : Workload) (l : Ledger)
    (live : List Descriptor) : List (String × Descriptor) :=
  mode.permitted attempted (targets w l live)

/-- Looked for by its name, a planned cache is the first as well. -/
theorem mem_plan {mode : ReapMode} {attempted : Bool} {w : Workload} {l : Ledger}
    {live : List Descriptor} {n : String} {d : Descriptor}
    (h : (n, d) ∈ plan mode attempted w l live) :
    n ≠ "" ∧ n ∈ w.names ∧ n ∉ l.names ∧ live.find? (fun e => e.name == some n) = some d := by
  obtain ⟨hw, hl, hf⟩ := mem_targets ((mode.permitted_sublist attempted _).subset h)
  have hu : d.usableName = some n := by simpa using List.find?_some hf
  have hn : n ≠ "" := Descriptor.ne_empty_of_usableName hu
  refine ⟨hn, hw, hl, ?_⟩
  rw [← hf]
  congr 1
  funext e
  exact Descriptor.name_beq_some hn e

theorem nodup_plan (mode : ReapMode) (attempted : Bool) (w : Workload) (l : Ledger)
    (live : List Descriptor) : ((plan mode attempted w l live).map Prod.fst).Nodup :=
  (nodup_targets w l live).sublist ((mode.permitted_sublist attempted _).map Prod.fst)

/-! ### Carrying out a plan -/

@[simp] theorem result_destroy (r : Reaper σ) (q : DestroyRequest) (s : σ) :
    Session.result (r.destroy q) s =
      (((Session.result (r.store.destroy r.limit q) s).1).getD .unknown,
        (Session.result (r.store.destroy r.limit q) s).2) := by
  rw [destroy, Session.result_bind]
  cases (Session.result (r.store.destroy r.limit q) s).1 <;> rfl

@[simp] theorem result_attempt (r : Reaper σ) (name : String) (d : Descriptor) (s : σ) :
    Session.result (r.attempt name d) s =
      (⟨name, (Session.result (r.destroy (r.request name d)) s).1⟩,
        (Session.result (r.destroy (r.request name d)) s).2) := by
  rw [attempt, Session.result_bind]
  split <;> rfl

theorem caches_attemptAll (r : Reaper σ) (ts : List (String × Descriptor)) (s : σ) :
    (Session.result (r.attemptAll ts) s).1.map DestroyAttempt.cache = ts.map Prod.fst := by
  induction ts generalizing s with
  | nil => rfl
  | cons t ts ih =>
    simp only [attemptAll, Session.result_bind, Session.result_pure, List.map_cons, ih,
      result_attempt]

/-! ### One row of a sweep -/

variable {r : Reaper σ} {w : Workload} {l : Ledger} {d : Descriptor} {rest : List Descriptor}
  {attempted : Bool} {name : String}

theorem plan_of_ineligible (mode : ReapMode) (h : eligible? w l d = none) :
    plan mode attempted w l (d :: rest) = plan mode attempted w l rest := by
  rw [plan, targets, h, plan]

theorem plan_of_postponing (mode : ReapMode) (hm : (mode == .single && attempted) = true)
    (live : List Descriptor) : plan mode attempted w l live = [] := by
  obtain ⟨hs, ha⟩ := Bool.and_eq_true_iff.1 hm
  rw [eq_of_beq hs, ha]
  rfl

theorem plan_of_attempting (mode : ReapMode) (h : eligible? w l d = some name)
    (hm : (mode == .single && attempted) = false) :
    plan mode attempted w l (d :: rest) =
      (name, d) :: plan mode true w (l.record name) rest := by
  rw [plan, targets, h]
  cases mode with
  | all => rfl
  | single =>
    cases attempted with
    | false => rfl
    | true => cases hm

theorem result_sweep_of_postponing (h : eligible? w l d = some name)
    (hm : (r.mode == .single && attempted) = true) (s : σ) :
    Session.result (r.sweep w attempted l (d :: rest)) s =
      let out := Session.result (r.sweep w attempted l rest) s
      ((out.1.1.postponed, out.1.2), out.2) := by
  rw [sweep, h]
  simp only [hm, if_true]
  rfl

theorem result_sweep_of_attempting (h : eligible? w l d = some name)
    (hm : (r.mode == .single && attempted) = false) (s : σ) :
    Session.result (r.sweep w attempted l (d :: rest)) s =
      let a := Session.result (r.attempt name d) s
      let out := Session.result (r.sweep w true (l.record name) rest) a.2
      ((out.1.1.attempted a.1, out.1.2), out.2) := by
  rw [sweep, h]
  simp only [hm, Bool.false_eq_true, if_false]
  rfl

/-- A sweep attempts what it plans, records the planned names, and counts what is eligible after
    that. -/
theorem result_sweep (r : Reaper σ) (w : Workload) (attempted : Bool) (l : Ledger)
    (live : List Descriptor) (s : σ) :
    let ts := plan r.mode attempted w l live
    let done := Session.result (r.attemptAll ts) s
    let l' := l.recordAll (ts.map Prod.fst)
    Session.result (r.sweep w attempted l live) s =
      (({ attempts := done.1, deferred := eligibleCount w l' live }, l'), done.2) := by
  induction live generalizing attempted l s with
  | nil => cases hm : r.mode <;> cases attempted <;> rfl
  | cons d rest ih =>
    intro ts done l'
    rw [eligibleCount_cons]
    cases he : eligible? w l d with
    | none =>
      have hts : ts = plan r.mode attempted w l rest := plan_of_ineligible r.mode he
      have hd : eligible? w l' d = none :=
        eligible?_eq_none_mono he fun n hn => Ledger.mem_recordAll.2 (Or.inl hn)
      rw [sweep, he, ih, hd]
      simp only [l', done, hts]
      rfl
    | some name =>
      cases hm : r.mode == .single && attempted with
      | true =>
        -- nothing is planned any more, so the ledger stays and the row is left over
        have hts : ts = [] := plan_of_postponing r.mode hm (d :: rest)
        have hl : l' = l := by simp only [l', hts, List.map_nil, Ledger.recordAll_nil]
        rw [result_sweep_of_postponing he hm, ih, hl, he]
        simp only [done, hts, plan_of_postponing r.mode hm rest]
        rfl
      | false =>
        have hts : ts = (name, d) :: plan r.mode true w (l.record name) rest :=
          plan_of_attempting r.mode he hm
        have hd : eligible? w l' d = none := by
          refine eligible?_eq_none_of_mem (eligible?_eq_some.1 he).1 ?_
          rw [Ledger.mem_recordAll, hts]
          exact Or.inr (by simp)
        rw [result_sweep_of_attempting he hm, hd]
        simp only [ih, done, l', hts]
        rfl

/-! ### A whole pass -/

theorem result_pass (r : Reaper σ) (live : List Descriptor) (w : Workload) (l : Ledger) (s : σ) :
    Session.result (r.pass live w l) s = Session.result (r.sweep w false l live) s := by
  rw [pass, Session.result_bind]
  simp only []
  split <;> rfl

theorem ledger_pass (r : Reaper σ) (live : List Descriptor) (w : Workload) (l : Ledger) (s : σ) :
    (Session.result (r.pass live w l) s).1.2 =
      l.recordAll ((plan r.mode false w l live).map Prod.fst) := by
  rw [result_pass, result_sweep]

/-- The requests that carrying out a plan makes. -/
def requests (r : Reaper σ) (ts : List (String × Descriptor)) : List DestroyRequest :=
  ts.map fun (name, d) => r.request name d

/-- The reaper on the store that keeps its calls. -/
def traced (r : Reaper σ) : Reaper (Traced σ) where
  store := r.store.traced
  location := r.location
  mode := r.mode
  limit := r.limit

/-- Each planned cache is requested once, in the order of the plan, whatever becomes of it. -/
theorem result_attemptAll_traced (r : Reaper σ) (ts : List (String × Descriptor)) (t : Traced σ) :
    Session.result (r.traced.attemptAll ts) t =
      let out := Session.result (r.attemptAll ts) t.state
      (out.1, { t.requested (r.requests ts) with state := out.2 }) := by
  induction ts generalizing t with
  | nil => simp [attemptAll, requests, Traced.requested_nil]
  | cons p ts ih =>
    obtain ⟨name, d⟩ := p
    have hreq : r.requests ((name, d) :: ts) = [r.request name d] ++ r.requests ts := rfl
    rw [hreq, Traced.requested_append]
    simp only [attemptAll, Session.result_bind, Session.result_pure, ih, result_attempt,
      result_destroy]
    rfl

/-- A pass does to its store what it does to the store that keeps its calls, and the calls are the
    requests of its plan. -/
theorem result_pass_traced (r : Reaper σ) (live : List Descriptor) (w : Workload) (l : Ledger)
    (t : Traced σ) :
    Session.result (r.traced.pass live w l) t =
      let out := Session.result (r.pass live w l) t.state
      (out.1, { t.requested (r.requests (plan r.mode false w l live)) with state := out.2 }) := by
  simp only [result_pass, result_sweep, result_attemptAll_traced]
  rfl

end Reaper

end CacheWarden
