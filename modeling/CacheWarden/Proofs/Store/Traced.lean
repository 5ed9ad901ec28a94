import CacheWarden.Proofs.Session.Result
import CacheWarden.Store.Memory
import Mathlib

/-!
# Stores that keep their calls

Any store can be made to keep the calls that reach it, beside the state it works on. Its answers and
its own state stay what they were, so what is stated about the calls of such a store is a statement
about the calls that the store itself receives. A call is kept when it is made: whether it is
answered, and in time, does not matter.
-/

namespace CacheWarden

variable {σ : Type}

/-- The state of a store, and the calls that reached the store so far. -/
structure Traced (σ : Type) where
  state : σ
  calls : StoreCalls := {}

namespace Traced

/-- Another query reached the store. -/
def queried (t : Traced σ) (q : Query) : Traced σ :=
  { t with calls := { t.calls with queries := t.calls.queries ++ [q] } }

/-- Other requests reached the store. -/
def requested (t : Traced σ) (qs : List DestroyRequest) : Traced σ :=
  { t with calls := { t.calls with requests := t.calls.requests ++ qs } }

theorem requested_nil (t : Traced σ) : t.requested [] = t := by
  simp [requested]

theorem requested_append (t : Traced σ) (ps qs : List DestroyRequest) :
    t.requested (ps ++ qs) = (t.requested ps).requested qs := by
  simp [requested]

end Traced

/-- Runs a session on a store that keeps its calls, and gives the calls that it made beside its
    value. -/
def Session.withCalls {α : Type} (x : Session (Traced σ) α) : Session σ (α × StoreCalls) :=
  fun s => do
    let (a, t) ← x.run { state := s }
    pure ((a, t.calls), t.state)

@[simp] theorem Session.result_withCalls {α : Type} (x : Session (Traced σ) α) (s : σ) :
    Session.result (Session.withCalls x) s =
      let out := Session.result x { state := s }
      ((out.1, out.2.calls), out.2.state) := rfl

namespace Store

/-- The store that keeps its calls. -/
def traced (store : Store σ) : Store (Traced σ) where
  name := store.name
  enumerate limit query := fun t => do
    let (answer, state) ← (store.enumerate limit query).run t.state
    pure (answer, { t.queried query with state })
  destroy limit request := fun t => do
    let (outcome, state) ← (store.destroy limit request).run t.state
    pure (outcome, { t.requested [request] with state })

end Store

end CacheWarden
