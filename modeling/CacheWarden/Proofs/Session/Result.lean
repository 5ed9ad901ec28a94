import CacheWarden.Checker
import Mathlib

/-!
# What sessions leave behind

A session read without its log: the value it gives and the state it leaves behind. What a session
does is stated about this pair, one lemma for each way to build a session, so that no proof opens
the monads underneath. Main statements: `result_bind`, and `result_onStore`, by which a session on
the store of a world leaves its files alone.
-/

namespace CacheWarden.Session

variable {σ α β : Type}

/-- The value of a session and the state it leaves behind. -/
def result (x : Session σ α) (s : σ) : α × σ := (x.run s).value

@[simp] theorem result_pure (a : α) (s : σ) : result (pure a) s = (a, s) := rfl

@[simp] theorem result_bind (x : Session σ α) (f : α → Session σ β) (s : σ) :
    result (x >>= f) s = result (f (result x s).1) (result x s).2 := rfl

@[simp] theorem result_map (f : α → β) (x : Session σ α) (s : σ) :
    result (f <$> x) s = (f (result x s).1, (result x s).2) := rfl

@[simp] theorem result_lift (x : Logged α) (s : σ) :
    result (StateT.lift x : Session σ α) s = (x.value, s) := rfl

@[simp] theorem result_debug (message : String) (s : σ) :
    result (debug message) s = ((), s) := rfl

@[simp] theorem result_info (message : String) (s : σ) :
    result (info message) s = ((), s) := rfl

@[simp] theorem result_warn (message : String) (s : σ) :
    result (warn message) s = ((), s) := rfl

@[simp] theorem result_modify (f : σ → σ) (s : σ) :
    result (modify f : Session σ PUnit) s = (⟨⟩, f s) := rfl

theorem result_forIn_debug (messages : List String) (s : σ) :
    result (forIn messages PUnit.unit fun message _ => do
      debug message
      pure (ForInStep.yield PUnit.unit)) s = (PUnit.unit, s) := by
  induction messages with
  | nil => rfl
  | cons m messages ih =>
    rw [List.forIn_cons, result_bind, result_bind]
    exact ih

/-! ### Sessions on a world -/

@[simp] theorem result_onStore (x : Session σ α) (w : World σ) :
    result (onStore x) w = ((result x w.store).1, { w with store := (result x w.store).2 }) := rfl

@[simp] theorem result_onRecord (sink : RecordSink) (e : Event) (w : World σ) :
    result (onRecord sink e) w =
      ((), { w with files := (sink.emit e w.files w.emitted).value, emitted := w.emitted + 1 }) :=
  rfl

@[simp] theorem result_readFiles (f : FileTree → Logged α) (w : World σ) :
    result (readFiles f) w = ((f w.files).value, w) := rfl

end CacheWarden.Session
