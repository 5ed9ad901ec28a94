import CacheWarden.Proofs.Session.Result
import CacheWarden.Store.Runtime
import Mathlib

/-!
# Calls of the store behind the launcher

Every operation of this store gives the launcher one command, and adds that command to the calls
before it knows what becomes of it. A command with a NUL character is the only one that the launcher
does not get. Main statements: `Store.result_runtime_list` and `RuntimeStore.calls_destroy`;
`Store.runtime_list_eq_ok`, a list that was given was printed by the launcher.
-/

namespace CacheWarden

namespace Command

variable {launcher : Launcher} {limit : Limit} {c : Command}

/-- The calls that running a command makes. -/
def launched (c : Command) : Calls := if c.hasNul then [] else [c]

/-- What running a command gives. -/
def answer (launcher : Launcher) (limit : Limit) (c : Command) :
    Option (Except Failure CommandOutput) :=
  if c.hasNul then some (.error (.commandFailed c.text .nulCharacter))
  else
    match launcher c with
    | .refused cause => some (.error (.commandFailed c.text cause))
    | .ended exitCode stdout stderr elapsed =>
        if limit.admits elapsed then some (.ok (outputOf exitCode stdout stderr)) else none

@[simp] theorem result_run (launcher : Launcher) (limit : Limit) (c : Command) (calls : Calls) :
    Session.result (c.run launcher limit) calls =
      (c.answer launcher limit, calls ++ c.launched) := by
  rw [run, answer, launched]
  cases hn : c.hasNul with
  | true => simp
  | false =>
    cases launcher c with
    | refused cause => simp
    | ended exitCode stdout stderr elapsed =>
      cases ha : limit.admits elapsed <;> simp [ha]

theorem answer_eq_ok_iff {output : CommandOutput} :
    c.answer launcher limit = some (.ok output) ↔
      c.hasNul = false ∧ ∃ exitCode stdout stderr elapsed,
        launcher c = .ended exitCode stdout stderr elapsed ∧ limit.admits elapsed = true ∧
          output = outputOf exitCode stdout stderr := by
  unfold answer
  constructor
  · intro h
    split at h
    · simp at h
    · rename_i hn
      split at h
      · simp at h
      · rename_i hl
        split at h
        · rename_i ha
          cases h
          exact ⟨Bool.eq_false_iff.2 hn, _, _, _, _, hl, ha, rfl⟩
        · cases h
  · rintro ⟨hn, exitCode, stdout, stderr, elapsed, hl, ha, rfl⟩
    rw [hn, hl]
    simp only [ha, Bool.false_eq_true, if_false, if_true]

theorem answer_eq_ok {output : CommandOutput} (h : c.answer launcher limit = some (.ok output)) :
    c.hasNul = false ∧ ∃ exitCode stdout stderr elapsed,
      launcher c = .ended exitCode stdout stderr elapsed ∧
        output = outputOf exitCode stdout stderr := by
  obtain ⟨hnul, exitCode, stdout, stderr, elapsed, hended, -, houtput⟩ := answer_eq_ok_iff.1 h
  exact ⟨hnul, exitCode, stdout, stderr, elapsed, hended, houtput⟩

end Command

namespace RuntimeStore

variable {launcher : Launcher} {settings : LauncherSettings} {limit : Limit} {q : Query}

/-- The command that lists the caches a query is about. -/
def listCommand (settings : LauncherSettings) (q : Query) : Command :=
  (CacheOperation.listAll none).command settings.java (location settings q) none

/-- The command that a request stands for. -/
def destroyCommand (settings : LauncherSettings) (r : DestroyRequest) : Command :=
  r.operation.command settings.java r.location none

theorem result_announce (settings : LauncherSettings) (q : Query) (calls : Calls) :
    Session.result (announce settings q) calls = ((), calls) := by
  rw [announce]
  cases location settings q <;> split <;> rfl

/-- The caches in the output of a list, unless the list failed. -/
def listed (c : Command) (output : CommandOutput) : Except Failure (List Descriptor) :=
  if allowsExit [0, 1] output.exitCode then .ok (Listing.caches output.combined)
  else .error (.storeQuery s!"'{c.text}' exited with {CommandOutput.exitText output.exitCode}")

theorem result_readList (c : Command) (output : CommandOutput) (calls : Calls) :
    Session.result (readList c output) calls = (listed c output, calls) := by
  rw [readList, listed]
  split
  · rw [Session.result_bind, Session.result_forIn_debug]
    rfl
  · rfl

theorem result_enumerate (hq : q.flags = 0) (launcher : Launcher) (settings : LauncherSettings)
    (limit : Limit) (calls : Calls) :
    Session.result (enumerate launcher settings limit q) calls =
      (((listCommand settings q).answer launcher limit).map
          fun a => a.bind (listed (listCommand settings q)),
        calls ++ (listCommand settings q).launched) := by
  rw [enumerate, hq, ← listCommand]
  simp only [ne_eq, not_true_eq_false, if_false, Session.result_bind, result_announce,
    Command.result_run]
  rcases (listCommand settings q).answer launcher limit with _ | (e | output)
  · rfl
  · rfl
  · simp [result_readList]
    rfl

theorem expectedMessages_operation (r : DestroyRequest) :
    ∃ patterns, r.operation.expectedMessages = .ok patterns := by
  unfold DestroyRequest.operation
  split
  · exact ⟨[], rfl⟩
  · exact ⟨destroyMessages r.name, rfl⟩

theorem calls_destroy (launcher : Launcher) (settings : LauncherSettings) (limit : Limit)
    (r : DestroyRequest) (calls : Calls) :
    (Session.result (destroy launcher settings limit r) calls).2 =
      calls ++ (destroyCommand settings r).launched := by
  obtain ⟨patterns, hp⟩ := expectedMessages_operation r
  rw [destroy, hp, destroyCommand]
  simp only [Session.result_bind, Command.result_run]
  rcases (r.operation.command settings.java r.location none).answer launcher limit with
    _ | (e | output)
  · rfl
  · rfl
  · rfl

end RuntimeStore

namespace Store

variable {launcher : Launcher} {settings : LauncherSettings} {limit : Limit} {q : Query}

/-- What the launcher's answer to a list amounts to. -/
theorem result_runtime_list (hq : q.flags = 0) (launcher : Launcher) (settings : LauncherSettings)
    (limit : Limit) (calls : Calls) :
    let c := RuntimeStore.listCommand settings q
    Session.result ((runtime launcher settings).list limit q) calls =
      (match c.answer launcher limit with
        | none => .error (limit.failure "enumerate")
        | some a => a.bind (RuntimeStore.listed c), calls ++ c.launched) := by
  intro c
  have henum : (runtime launcher settings).enumerate limit q =
      RuntimeStore.enumerate launcher settings limit q := rfl
  rw [list, Session.result_bind, henum, RuntimeStore.result_enumerate hq]
  cases c.answer launcher limit <;> rfl

theorem runtime_list_eq_ok_iff (hq : q.flags = 0) {calls : Calls} {live : List Descriptor} :
    (Session.result ((runtime launcher settings).list limit q) calls).1 = .ok live ↔
      ∃ output, (RuntimeStore.listCommand settings q).answer launcher limit = some (.ok output) ∧
        RuntimeStore.listed (RuntimeStore.listCommand settings q) output = .ok live := by
  rw [result_runtime_list hq]
  dsimp only
  rcases (RuntimeStore.listCommand settings q).answer launcher limit with _ | (e | output)
  · simp
  · simp [Except.bind]
  · simp [Except.bind]

/-- A list that was given was printed by the launcher. -/
theorem runtime_list_eq_ok (hq : q.flags = 0) {calls : Calls} {live : List Descriptor}
    (h : (Session.result ((runtime launcher settings).list limit q) calls).1 = .ok live) :
    ∃ output, (RuntimeStore.listCommand settings q).answer launcher limit = some (.ok output) ∧
      live = Listing.caches output.combined := by
  obtain ⟨output, hanswer, hlisted⟩ := (runtime_list_eq_ok_iff hq).1 h
  unfold RuntimeStore.listed at hlisted
  split at hlisted
  · exact ⟨output, hanswer, (Except.ok.inj hlisted).symm⟩
  · cases hlisted

end Store

end CacheWarden
