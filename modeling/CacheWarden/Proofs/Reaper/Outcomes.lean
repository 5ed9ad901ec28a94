import CacheWarden.Proofs.Reaper.SinglePasses
import Mathlib

/-!
# What a store can change about a pass

A store takes part in a pass by the outcomes it gives, and by nothing else: what is requested is
settled before the first answer, so no failure and no call that runs out of time stops a pass, skips
a cache or brings a name back. Two passes over different stores therefore take the same course
(`SameCourse`), and the attempts of each are its requests with the answers of its own store put
beside them (`Store.answers`). Main statements: `result_attemptAll_answers`,
`run_isolates_failures`.
-/

namespace CacheWarden

/-- Gives a store some requests, one after the other. There is no answer to a request that takes
    longer than the limit. -/
def Store.answers {σ : Type} (store : Store σ) (limit : Limit) :
    List DestroyRequest → Session σ (List (Option DestroyOutcome))
  | [] => return []
  | q :: rest => do
      let answer ← store.destroy limit q
      let others ← store.answers limit rest
      return answer :: others

/-- The attempt that a request and its answer make. A request without an answer in time has an
    unknown outcome. -/
def DestroyRequest.attempt (q : DestroyRequest) : Option DestroyOutcome → DestroyAttempt
  | some outcome => ⟨q.name, outcome⟩
  | none => ⟨q.name, .unknown⟩

theorem DestroyRequest.attempt_eq (q : DestroyRequest) (answer : Option DestroyOutcome) :
    q.attempt answer = ⟨q.name, answer.getD .unknown⟩ := by
  cases answer <;> rfl

namespace ReapSummary

theorem isSuccess_iff_all_destroyed (s : ReapSummary) :
    s.isSuccess = true ↔ ∀ a ∈ s.attempts, a.outcome = .destroyedAll := by
  simp [isSuccess, DestroyOutcome.isSuccess]

theorem failures_eq (s : ReapSummary) :
    s.failures = s.attempts.filter (·.outcome ≠ .destroyedAll) := by
  rw [failures]
  congr 1
  funext a
  rw [Bool.eq_iff_iff]
  simp [DestroyOutcome.isSuccess]

end ReapSummary

namespace Reaper

variable {σ : Type}

theorem length_answers (store : Store σ) (limit : Limit) (qs : List DestroyRequest) (s : σ) :
    (Session.result (store.answers limit qs) s).1.length = qs.length := by
  induction qs generalizing s with
  | nil => rfl
  | cons q qs ih =>
    simp only [Store.answers, Session.result_bind, Session.result_pure, List.length_cons, ih]

/-- Carrying out a plan is giving the store its requests. -/
theorem result_attemptAll_answers (r : Reaper σ) (ts : List (String × Descriptor)) (s : σ) :
    Session.result (r.attemptAll ts) s =
      let out := Session.result (r.store.answers r.limit (r.requests ts)) s
      (List.zipWith DestroyRequest.attempt (r.requests ts) out.1, out.2) := by
  induction ts generalizing s with
  | nil => rfl
  | cons t ts ih =>
    obtain ⟨name, d⟩ := t
    have hrequests : r.requests ((name, d) :: ts) = r.request name d :: r.requests ts := rfl
    rw [result_attemptAll_cons, hrequests]
    simp only [Store.answers, Session.result_bind, Session.result_pure, List.zipWith_cons_cons, ih,
      result_attempt, result_destroy, DestroyRequest.attempt_eq]
    rfl

namespace Round

/-- Whether two passes went the same way, whatever the outcomes were. -/
structure SameCourse (a b : RoundReport × Ledger) : Prop where
  requests : b.1.requests = a.1.requests
  ledger : b.2 = a.2
  attempted : b.1.summary.attempts.map DestroyAttempt.cache =
    a.1.summary.attempts.map DestroyAttempt.cache
  deferred : b.1.summary.deferred = a.1.summary.deferred

/-- The same pass over another store, with another limit for its calls. -/
theorem sameCourse_run {τ : Type} (k : Round) (l : Ledger) (store : Store σ) (s : σ)
    (store' : Store τ) (limit' : Limit) (s' : τ) :
    SameCourse (Session.result (k.run store l) s).1
      (Session.result (({ k with limit := limit' } : Round).run store' l) s').1 := by
  rw [result_run_eq, result_run_eq]
  exact ⟨rfl, rfl, by rw [caches_attemptAll, caches_attemptAll], rfl⟩

/-- For every pass and every two stores, whatever each of them answers and whichever calls run out
    of time: both passes take the same course. The attempts are the requests in their order, each
    with the answer to it; the pass succeeds exactly if all of them destroyed their cache, and its
    failures are the others in their order. -/
theorem run_isolates_failures (k : Round) (l : Ledger) (store : Store σ) (s : σ) :
    let out := Session.result (k.run store l) s
    let report := out.1.1
    let answers := Session.result (store.answers k.limit report.requests) s
    (∀ (τ : Type) (store' : Store τ) (limit' : Limit) (s' : τ),
      SameCourse out.1
        (Session.result (({ k with limit := limit' } : Round).run store' l) s').1) ∧
      answers.1.length = report.requests.length ∧
      report.summary.attempts =
        List.zipWith DestroyRequest.attempt report.requests answers.1 ∧
      out.2 = answers.2 ∧
      (report.summary.isSuccess = true ↔
        ∀ a ∈ report.summary.attempts, a.outcome = .destroyedAll) ∧
      report.summary.failures =
        report.summary.attempts.filter (·.outcome ≠ .destroyedAll) := by
  intro out report answers
  have hout : out = _ := result_run_eq k l s
  have hanswers := result_attemptAll_answers (k.reaper store)
    (plan k.mode false k.workload l k.snapshot) s
  refine ⟨?_, length_answers store k.limit report.requests s, ?_, ?_, ?_, ?_⟩
  · intro τ store' limit' s'
    exact sameCourse_run k l store s store' limit' s'
  · simp only [report, answers, hout, hanswers]
    rfl
  · simp only [report, answers, hout, hanswers]
    rfl
  · exact report.summary.isSuccess_iff_all_destroyed
  · exact report.summary.failures_eq

end Round

end Reaper

end CacheWarden
