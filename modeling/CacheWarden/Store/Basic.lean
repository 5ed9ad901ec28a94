import CacheWarden.Cache.Descriptor
import CacheWarden.Command.Launcher

/-!
# Cache stores

A store holds the caches and does two things: it lists the caches of a directory, and it destroys
one cache by name. What it answers may depend on its state, and every call may change that. A call
that takes longer than its limit gives no answer. A destroy that fails is classified and raises
nothing; only `destroyedAll` is success.
-/

namespace CacheWarden

/-- What to list. -/
structure Query where
  /-- The directory to search; none for the one that the runtime picks. -/
  location : Option String := none
  /-- No flags are defined, so only zero is accepted. -/
  flags : Nat := 0
  /-- Whether the directory comes from the store's own launch option. -/
  fromLaunchOption : Bool := false
  deriving DecidableEq, Repr

/-- What to destroy. -/
structure DestroyRequest where
  location : Option String
  persistence : Persistence
  name : String
  /-- Whether the cache is to be made anew at the next start. -/
  reset : Bool := false
  deriving DecidableEq, Repr

/-- What became of a destroy. -/
inductive DestroyOutcome where
  | destroyedAll
  | destroyedNone
  /-- The cache of the current generation is still there. -/
  | currentGenerationKept
  /-- A cache of an older generation is still there. -/
  | olderGenerationKept
  | unknown
  deriving DecidableEq, Repr

namespace DestroyOutcome

/-- Whether the cache is gone. -/
def isSuccess (o : DestroyOutcome) : Bool := o == destroyedAll

/-- The outcome in words. -/
def text : DestroyOutcome → String
  | destroyedAll => "destroyed all caches"
  | destroyedNone => "no caches destroyed"
  | currentGenerationKept => "failed to destroy the current generation cache"
  | olderGenerationKept => "failed to destroy an older generation cache"
  | unknown => "unknown result"

/-- The name of an outcome in records. -/
def label : DestroyOutcome → String
  | destroyedAll => "destroyed_all"
  | destroyedNone => "destroyed_none"
  | currentGenerationKept => "destroy_failed_current_generation"
  | olderGenerationKept => "destroy_failed_older_generation"
  | unknown => "unknown"

/-- The outcome of a name. -/
def ofLabel? (s : String) : Option DestroyOutcome :=
  [destroyedAll, destroyedNone, currentGenerationKept, olderGenerationKept, unknown].find?
    fun o => o.label == s

@[simp] theorem ofLabel?_label (o : DestroyOutcome) : ofLabel? o.label = some o := by
  cases o <;> decide

end DestroyOutcome

/-- A store whose state is of type `σ`. -/
structure Store (σ : Type) where
  /-- What the store is called in messages. -/
  name : String
  enumerate : Limit → Query → Session σ (Option (Except Failure (List Descriptor)))
  destroy : Limit → DestroyRequest → Session σ (Option DestroyOutcome)

namespace Store

variable {σ : Type}

/-- The caches of a store; taking too long is a failure. -/
def list (store : Store σ) (limit : Limit) (query : Query) :
    Session σ (Except Failure (List Descriptor)) := do
  match ← store.enumerate limit query with
  | none => return .error (limit.failure "enumerate")
  | some answer => return answer

end Store

end CacheWarden
