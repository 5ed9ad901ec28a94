import CacheWarden.Proofs.Reaper.Plan
import Mathlib

/-!
# Passes one after the other

A series of passes shares one ledger and one store. Each pass has a mode, a directory, a limit, a
snapshot and a workload of its own, and the store may answer as it likes: what it says may depend on
all that was asked before, and it may let any call run out of time. Main statement:
`runAll_requests_once_authorised`, over a whole series no name is requested twice, no request goes
beyond what its pass is entitled to, and the ledger grows by exactly the requested names.
-/

namespace CacheWarden.Reaper

/-- A pass of a series, with what it is given. -/
structure Round where
  mode : ReapMode
  location : Option String
  limit : Limit
  snapshot : List Descriptor
  workload : Workload

/-- What a pass did: the destroy requests that reached the store, and its summary. -/
structure RoundReport where
  requests : List DestroyRequest
  summary : ReapSummary

namespace Round

variable {σ : Type}

/-- The reaper of a pass. -/
def reaper (k : Round) (store : Store σ) : Reaper σ where
  store
  location := k.location
  mode := k.mode
  limit := k.limit

/-- Runs a pass and takes down the requests that reach the store. -/
def run (store : Store σ) (k : Round) (l : Ledger) : Session σ (RoundReport × Ledger) := do
  let ((summary, l), calls) ←
    Session.withCalls ((k.reaper store).traced.pass k.snapshot k.workload l)
  return ({ requests := calls.requests, summary }, l)

/-- Runs a series of passes, each with the ledger and the store that the one before left behind. -/
def runAll (store : Store σ) : List Round → Ledger → Session σ (List RoundReport × Ledger)
  | [], l => return ([], l)
  | k :: rest, l => do
      let (report, l) ← k.run store l
      let (reports, l) ← runAll store rest l
      return (report :: reports, l)

/-- Whether a pass is entitled to a request: the name is one of the workload, and the first cache
    of that name in the snapshot is of the requested kind. -/
structure Authorises (k : Round) (q : DestroyRequest) : Prop where
  named : q.name ≠ ""
  owned : q.name ∈ k.workload.names
  listed : ∃ d, k.snapshot.find? (fun d => d.name == some q.name) = some d ∧
    q.persistence = d.persistence
  located : q.location = k.location
  plain : q.reset = false

/-- The names that some passes requested, in the order of the requests. -/
def requestedNames (reports : List RoundReport) : List String :=
  reports.flatMap fun report => report.requests.map DestroyRequest.name

variable {store : Store σ}

/-- Taking down the requests changes nothing about a pass, and they are those of its plan. -/
theorem result_run (k : Round) (l : Ledger) (s : σ) :
    Session.result (k.run store l) s =
      let r := k.reaper store
      let out := Session.result (r.pass k.snapshot k.workload l) s
      (({ requests := r.requests (plan k.mode false k.workload l k.snapshot)
          summary := out.1.1 }, out.1.2), out.2) := by
  simp only [run, Session.result_bind, Session.result_withCalls, Session.result_pure,
    result_pass_traced]
  rfl

theorem names_requests (r : Reaper σ) (ts : List (String × Descriptor)) :
    (r.requests ts).map DestroyRequest.name = ts.map Prod.fst := by
  simp [Reaper.requests, Reaper.request]

/-- One pass adds the names it requests to the ledger, and no others. -/
theorem names_after_run (k : Round) (l : Ledger) (s : σ) :
    let out := (Session.result (k.run store l) s).1
    out.2.names = l.names ++ out.1.requests.map DestroyRequest.name := by
  simp only [result_run, names_requests, result_pass, result_sweep]
  exact names_recordAll_of_sublist (k.mode.permitted_sublist false _)

/-- One pass requests nothing that it is not entitled to. -/
theorem authorises_of_mem_run (k : Round) (l : Ledger) (s : σ) :
    ∀ q ∈ (Session.result (k.run store l) s).1.1.requests, k.Authorises q := by
  intro q hq
  rw [result_run] at hq
  obtain ⟨⟨n, d⟩, hd, rfl⟩ := List.mem_map.1 hq
  obtain ⟨hn, hw, -, hf⟩ := mem_plan hd
  exact ⟨hn, hw, ⟨d, hf, rfl⟩, rfl, rfl⟩

theorem result_runAll_cons (k : Round) (rest : List Round) (l : Ledger) (s : σ) :
    Session.result (runAll store (k :: rest) l) s =
      let head := Session.result (k.run store l) s
      let tail := Session.result (runAll store rest head.1.2) head.2
      ((head.1.1 :: tail.1.1, tail.1.2), tail.2) := rfl

theorem names_after_runAll (rounds : List Round) (l : Ledger) (s : σ) :
    let out := (Session.result (runAll store rounds l) s).1
    out.2.names = l.names ++ requestedNames out.1 := by
  induction rounds generalizing l s with
  | nil => simp [runAll, requestedNames]
  | cons k rest ih =>
    simp only [result_runAll_cons, requestedNames, List.flatMap_cons] at ih ⊢
    rw [ih, names_after_run, List.append_assoc]

theorem authorised_runAll (rounds : List Round) (l : Ledger) (s : σ) :
    List.Forall₂ (fun k report => ∀ q ∈ report.requests, Authorises k q) rounds
      (Session.result (runAll store rounds l) s).1.1 := by
  induction rounds generalizing l s with
  | nil => exact List.Forall₂.nil
  | cons k rest ih =>
    rw [result_runAll_cons]
    exact List.Forall₂.cons (authorises_of_mem_run k l s) (ih _ _)

/-- For every store, every ledger to start from and every series of passes. -/
theorem runAll_requests_once_authorised (store : Store σ) (rounds : List Round) (l : Ledger)
    (s : σ) :
    let out := (Session.result (runAll store rounds l) s).1
    let names := requestedNames out.1
    names.Nodup ∧ (∀ n ∈ names, n ∉ l.names) ∧
      List.Forall₂ (fun k report => ∀ q ∈ report.requests, k.Authorises q) rounds out.1 ∧
      out.2.names = l.names ++ names := by
  intro out names
  have hl : out.2.names = l.names ++ names := names_after_runAll rounds l s
  have hd := out.2.distinct
  rw [hl, List.nodup_append] at hd
  refine ⟨hd.2.1, ?_, authorised_runAll rounds l s, hl⟩
  intro n hn hm
  exact hd.2.2 n hm n hn rfl

end Round

end CacheWarden.Reaper
