import CacheWarden.Store.Basic

/-!
# Stores in memory

A store that answers from fixed data and keeps the calls that reached it. A call counts as having
reached the store even if its answer comes too late.
-/

namespace CacheWarden

/-- The calls that reached a store, in their order. -/
structure StoreCalls where
  queries : List Query := []
  requests : List DestroyRequest := []
  deriving DecidableEq, Repr

/-- The answers of a store. -/
structure StoreAnswers where
  caches : List Descriptor := []
  /-- Why a list is refused, if it is. -/
  refusal : Option String := none
  listMs : Nat := 0
  /-- The outcome for each name; `destroyedAll` where a name is missing. -/
  outcomes : List (String × DestroyOutcome) := []
  /-- The time that a name takes; none where it is missing. -/
  destroyMs : List (String × Nat) := []
  deriving DecidableEq, Repr

/-- The store with these answers. -/
def Store.inMemory (answers : StoreAnswers) : Store StoreCalls where
  name := "memory"
  enumerate limit query := do
    modify fun calls => { calls with queries := calls.queries ++ [query] }
    let answer : Except Failure (List Descriptor) :=
      match answers.refusal with
      | some reason => .error (.storeQuery reason)
      | none => .ok answers.caches
    return if limit.admits answers.listMs then some answer else none
  destroy limit request := do
    modify fun calls => { calls with requests := calls.requests ++ [request] }
    let outcome := (answers.outcomes.lookup request.name).getD .destroyedAll
    let elapsed := (answers.destroyMs.lookup request.name).getD 0
    return if limit.admits elapsed then some outcome else none

end CacheWarden
