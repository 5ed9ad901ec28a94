import CacheWarden.Reaper.Ledger
import CacheWarden.Reaper.Mode
import CacheWarden.Store.Basic
import CacheWarden.Workload

/-!
# The reaper

Destroys caches of a workload through a store. A cache is eligible if it has a usable name that is
in the workload and not yet in the ledger. Its name goes into the ledger before the outcome is
known, so a destroy that failed is never tried again on a cache that may be half gone. In single
mode only the first eligible cache is destroyed, and the others are counted as deferred.
-/

namespace CacheWarden

/-- One attempt to destroy a cache. -/
structure DestroyAttempt where
  cache : String
  outcome : DestroyOutcome
  deriving DecidableEq, Repr

/-- What one pass did. -/
structure ReapSummary where
  attempts : List DestroyAttempt := []
  /-- How many eligible caches were left for a later pass. -/
  deferred : Nat := 0
  deriving DecidableEq, Repr

namespace ReapSummary

/-- The attempts that did not succeed. -/
def failures (s : ReapSummary) : List DestroyAttempt :=
  s.attempts.filter fun a => !a.outcome.isSuccess

/-- Whether every attempt succeeded. -/
def isSuccess (s : ReapSummary) : Bool := s.attempts.all fun a => a.outcome.isSuccess

/-- The summary with one more attempt in front. -/
def attempted (a : DestroyAttempt) (s : ReapSummary) : ReapSummary :=
  { s with attempts := a :: s.attempts }

/-- The summary with one more cache left for later. -/
def postponed (s : ReapSummary) : ReapSummary := { s with deferred := s.deferred + 1 }

end ReapSummary

/-- How caches are destroyed. -/
structure Reaper (σ : Type) where
  store : Store σ
  location : Option String
  mode : ReapMode := .single
  limit : Limit

namespace Reaper

variable {σ : Type}

/-- The name under which a cache is eligible. -/
def eligible? (w : Workload) (l : Ledger) (d : Descriptor) : Option String :=
  d.usableName.filter fun name => w.contains name && !l.contains name

/-- The request to destroy a cache. -/
def request (r : Reaper σ) (name : String) (d : Descriptor) : DestroyRequest where
  location := r.location
  persistence := d.persistence
  name

/-- Destroys a cache; taking too long is an unknown outcome. -/
def destroy (r : Reaper σ) (request : DestroyRequest) : Session σ DestroyOutcome := do
  match ← r.store.destroy r.limit request with
  | some outcome => return outcome
  | none =>
      let failure := Limit.failure r.limit "destroy"
      Session.warn s!"Destroy of {request.name} failed: {failure.message}"
      return .unknown

/-- Destroys a cache and logs what became of it. -/
def attempt (r : Reaper σ) (name : String) (d : Descriptor) : Session σ DestroyAttempt := do
  let outcome ← r.destroy (r.request name d)
  if outcome.isSuccess then Session.info s!"Destroyed cache {name}"
  else Session.warn s!"Could not destroy cache {name}: {outcome.text}"
  return ⟨name, outcome⟩

/-- Goes through caches; the flag says whether one was attempted in this pass before. -/
def sweep (r : Reaper σ) (w : Workload) :
    Bool → Ledger → List Descriptor → Session σ (ReapSummary × Ledger)
  | _, l, [] => return ({}, l)
  | attempted, l, d :: rest =>
      match eligible? w l d with
      | none => r.sweep w attempted l rest
      | some name =>
          if r.mode == .single && attempted then do
            let (s, l) ← r.sweep w attempted l rest
            return (s.postponed, l)
          else do
            let a ← r.attempt name d
            let (s, l) ← r.sweep w true (l.record name) rest
            return (s.attempted a, l)

/-- One pass over a snapshot: what was done, and the ledger afterwards. -/
def pass (r : Reaper σ) (live : List Descriptor) (w : Workload) (l : Ledger) :
    Session σ (ReapSummary × Ledger) := do
  let (s, l) ← r.sweep w false l live
  if 0 < s.deferred then
    Session.info s!"{s.deferred} eligible cache(s) left for a later pass (reap mode {r.mode.name})"
  return (s, l)

end Reaper

end CacheWarden
