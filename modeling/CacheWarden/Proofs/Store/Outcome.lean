import CacheWarden.Proofs.Command.Run
import CacheWarden.Proofs.Command.Streams
import Mathlib

/-!
# What becomes of a destroy

The outcome that the store behind the launcher gives to a request, said without the interpreter:
rules for what becomes of the command, and rules for what its output tells, of which exactly one
applies. Messages and complaints are looked for in each stream, so nothing counts that only both
streams together would hold. Main statement: `destroy_exact`.
-/

namespace CacheWarden

open Text

/-- Whether a line reports that a cache is gone. -/
def ReportsEnd (name : String) (line : List Char) : Prop :=
  ("shared cache \"" ++ name ++ "\" has been destroyed").toList <:+: line ∨
    ("cache \"" ++ name ++ "\" is destroyed").toList <:+: line

/-- Whether an output proves that a request was carried out: by its exit code where the cache was to
    be made anew, and by a report about the cache where not. -/
inductive DestroyRequest.Proven (r : DestroyRequest) (o : CommandOutput) : Prop where
  | remade (hreset : r.reset = true) (hexit : o.exitCode = some 0)
  | reported {line : List Char} (hreset : r.reset = false) (hexit : o.EndedWell)
      (hline : line ∈ o.streamLines) (hreport : ReportsEnd r.name line)

/-- Whether an output complains that there is no such cache. -/
def CommandOutput.TellsMissing (o : CommandOutput) : Prop :=
  o.Mentions "does not exist" ∨ o.Mentions "No shared class caches available"

/-- What is held of a request whose command left an output behind, and why. -/
inductive DestroyOutcome.Decided (r : DestroyRequest) (o : CommandOutput) :
    DestroyOutcome → Prop where
  | destroyed (hproven : r.Proven o) : Decided r o .destroyedAll
  | missing (hproven : ¬ r.Proven o) (hmissing : o.TellsMissing) : Decided r o .destroyedNone
  | older (hproven : ¬ r.Proven o) (hmissing : ¬ o.TellsMissing)
      (holder : o.Mentions "older generation") : Decided r o .olderGenerationKept
  | used (hproven : ¬ r.Proven o) (hmissing : ¬ o.TellsMissing)
      (holder : ¬ o.Mentions "older generation") (hused : o.Mentions "in use") :
      Decided r o .currentGenerationKept
  | unclear (hproven : ¬ r.Proven o) (hmissing : ¬ o.TellsMissing)
      (holder : ¬ o.Mentions "older generation") (hused : ¬ o.Mentions "in use") :
      Decided r o .unknown

variable {r : DestroyRequest} {o : CommandOutput} {name : String}

/-! ### What proves a destroy -/

/-- The messages about a cache are looked for in the lines of each stream. -/
theorem exists_reportsEnd_iff :
    (∃ line ∈ o.streamLines, ReportsEnd name line) ↔ o.Printed (ReportsEnd name) := by
  have hmessage : ∀ front back : String, back.toList.getLast? = some 'd' →
      ((∃ l ∈ o.streamLines, (front ++ name ++ back).toList <:+: l) ↔
        ∃ l ∈ lines o.combined.toList, (front ++ name ++ back).toList <:+: l) := by
    intro front back hback
    have hlast : (front ++ name ++ back).toList.getLast? = some 'd' := by
      rw [String.toList_append, List.getLast?_append, hback, Option.some_or]
    apply CommandOutput.exists_infix_streamLines_iff
    · rintro hnil
      rw [hnil] at hlast
      cases hlast
    · rw [hlast]
      decide
  simp only [CommandOutput.Printed, ReportsEnd, and_or_left, exists_or]
  exact or_congr (hmessage _ _ (by decide)) (hmessage _ _ (by decide))

theorem proven_of_reset_iff (hreset : r.reset = true) : r.Proven o ↔ o.exitCode = some 0 := by
  constructor
  · intro h
    cases h with
    | remade _ hexit => exact hexit
    | reported hkept =>
      rw [hreset] at hkept
      cases hkept
  · exact fun hexit => .remade hreset hexit

theorem proven_of_kept_iff (hreset : r.reset = false) :
    r.Proven o ↔ o.EndedWell ∧ ∃ line ∈ o.streamLines, ReportsEnd r.name line := by
  constructor
  · intro h
    cases h with
    | remade hmade =>
      rw [hreset] at hmade
      cases hmade
    | reported _ hexit hline hreport => exact ⟨hexit, _, hline, hreport⟩
  · rintro ⟨hexit, line, hline, hreport⟩
    exact .reported hreset hexit hline hreport

theorem proven_iff_worked (rule : Pattern.Regex → List Char → Bool) :
    r.Proven o ↔ r.operation.Worked rule o := by
  unfold DestroyRequest.operation
  cases hreset : r.reset with
  | true => exact proven_of_reset_iff hreset
  | false =>
    rw [proven_of_kept_iff hreset, exists_reportsEnd_iff]
    exact Iff.rfl

/-! ### What an output tells -/

namespace DestroyOutcome

open CommandOutput in
theorem ofComplaint_decided (h : ¬ r.Proven o) : Decided r o (ofComplaint o) := by
  have hmissing : (contains (lowerAscii "does not exist".toList) (lowerAscii o.combined.toList) ||
      contains (lowerAscii noCachesMessage.toList) (lowerAscii o.combined.toList)) = true ↔
        o.TellsMissing := by
    rw [Bool.or_eq_true, contains_lowerAscii_combined_iff (by decide),
      contains_lowerAscii_combined_iff (by decide)]
    rfl
  unfold ofComplaint
  dsimp only
  split
  · rename_i hm
    exact .missing h (hmissing.1 hm)
  · rename_i hm
    rw [hmissing] at hm
    split
    · rename_i ho
      exact .older h hm ((contains_lowerAscii_combined_iff (by decide)).1 ho)
    · rename_i ho
      rw [contains_lowerAscii_combined_iff (by decide)] at ho
      split
      · rename_i hu
        exact .used h hm ho ((contains_lowerAscii_combined_iff (by decide)).1 hu)
      · rename_i hu
        exact .unclear h hm ho (mt (contains_lowerAscii_combined_iff (by decide)).2 hu)

/-- Where one stream goes on with what the other began, nothing is complained about. -/
example : ofComplaint ⟨some 1, " exist\n", "Cache does not"⟩ = .unknown ∧
    ofComplaint ⟨some 1, "the cache is IN USE\n", "Cache Does Not Exist"⟩ = .destroyedNone := by
  decide +kernel

theorem ofOutput_decided {patterns : List MessagePattern}
    (h : r.operation.expectedMessages = .ok patterns) (o : CommandOutput) :
    Decided r o (ofOutput o (interpret o r.operation.allowedExits patterns .both)) := by
  have hproven : (interpret o r.operation.allowedExits patterns .both).isSuccess = true ↔
      r.Proven o := by
    rw [interpret_eq_interpretBy, CacheOperation.isSuccess_iff_worked h, ← proven_iff_worked]
  cases hv : interpret o r.operation.allowedExits patterns .both with
  | success pattern count =>
    rw [hv] at hproven
    exact .destroyed (hproven.1 rfl)
  | failure reason =>
    rw [hv] at hproven
    exact ofComplaint_decided fun h => absurd (hproven.2 h) Bool.false_ne_true

/-- Only one of the rules applies. -/
theorem Decided.unique {a b : DestroyOutcome} (ha : Decided r o a) (hb : Decided r o b) :
    a = b := by
  cases ha <;> cases hb <;> first | rfl | contradiction

end DestroyOutcome

/-! ### What becomes of the command -/

namespace RuntimeStore

/-- The answer to a request, and why: none only if the command takes longer than the limit. -/
inductive Ending (launcher : Launcher) (limit : Limit) (r : DestroyRequest) (c : Command) :
    Option DestroyOutcome → Prop where
  /-- A command with a NUL character cannot be handed to the launcher. -/
  | withNul (hnul : c.hasNul = true) : Ending launcher limit r c (some .unknown)
  | refused {cause : IoFailure} (hnul : c.hasNul = false) (hlaunch : launcher c = .refused cause) :
      Ending launcher limit r c (some .unknown)
  | late {exitCode : Option Int} {stdout stderr : ByteArray} {elapsed : Nat}
      (hnul : c.hasNul = false) (hlaunch : launcher c = .ended exitCode stdout stderr elapsed)
      (hlate : limit.admits elapsed = false) : Ending launcher limit r c none
  | judged {exitCode : Option Int} {stdout stderr : ByteArray} {elapsed : Nat}
      {outcome : DestroyOutcome} (hnul : c.hasNul = false)
      (hlaunch : launcher c = .ended exitCode stdout stderr elapsed)
      (hlimit : limit.admits elapsed = true)
      (houtcome : DestroyOutcome.Decided r (Command.outputOf exitCode stdout stderr) outcome) :
      Ending launcher limit r c (some outcome)

variable {launcher : Launcher} {settings : LauncherSettings} {limit : Limit} {c : Command}

/-- An answer is right exactly if it is right for what running the command gives. -/
theorem ending_iff {answer : Option DestroyOutcome} :
    Ending launcher limit r c answer ↔
      match c.answer launcher limit with
      | none => answer = none
      | some (.error _) => answer = some .unknown
      | some (.ok o) => ∃ outcome, DestroyOutcome.Decided r o outcome ∧ answer = some outcome := by
  constructor
  · intro h
    cases h with
    | withNul hnul => simp [Command.answer, hnul]
    | refused hnul hlaunch => simp [Command.answer, hnul, hlaunch]
    | late hnul hlaunch hlate => simp [Command.answer, hnul, hlaunch, hlate]
    | judged hnul hlaunch hlimit houtcome =>
      rw [Command.answer_eq_ok_iff.2 ⟨hnul, _, _, _, _, hlaunch, hlimit, rfl⟩]
      exact ⟨_, houtcome, rfl⟩
  · unfold Command.answer
    cases hnul : c.hasNul with
    | true =>
      rintro rfl
      exact .withNul hnul
    | false =>
      cases hlaunch : launcher c with
      | refused cause =>
        rintro rfl
        exact .refused hnul hlaunch
      | ended exitCode stdout stderr elapsed =>
        cases hlimit : limit.admits elapsed with
        | false =>
          simp only [hlimit, Bool.false_eq_true, if_false]
          rintro rfl
          exact .late hnul hlaunch hlimit
        | true =>
          simp only [hlimit, Bool.false_eq_true, if_false, if_true]
          rintro ⟨outcome, houtcome, rfl⟩
          exact .judged hnul hlaunch hlimit houtcome

/-- The answer to a request is what its output tells, and unknown where there is none. -/
theorem result_destroy {patterns : List MessagePattern}
    (h : r.operation.expectedMessages = .ok patterns) (launcher : Launcher)
    (settings : LauncherSettings) (limit : Limit) (calls : Calls) :
    (Session.result (destroy launcher settings limit r) calls).1 =
      match (destroyCommand settings r).answer launcher limit with
      | none => none
      | some (.error _) => some .unknown
      | some (.ok o) =>
          some (.ofOutput o (interpret o r.operation.allowedExits patterns .both)) := by
  rw [destroy, h, destroyCommand]
  simp only [Session.result_bind, Command.result_run]
  rcases (r.operation.command settings.java r.location none).answer launcher limit with
    _ | (e | output) <;> rfl

theorem result_destroy_eq_iff (launcher : Launcher) (settings : LauncherSettings) (limit : Limit)
    (r : DestroyRequest) (calls : Calls) (answer : Option DestroyOutcome) :
    (Session.result (destroy launcher settings limit r) calls).1 = answer ↔
      Ending launcher limit r (destroyCommand settings r) answer := by
  obtain ⟨patterns, hpatterns⟩ := expectedMessages_operation r
  rw [ending_iff, result_destroy hpatterns]
  rcases (destroyCommand settings r).answer launcher limit with _ | (e | o)
  · exact eq_comm
  · exact eq_comm
  · have hdecided := DestroyOutcome.ofOutput_decided hpatterns o
    constructor
    · rintro rfl
      exact ⟨_, hdecided, rfl⟩
    · rintro ⟨outcome, houtcome, rfl⟩
      exact congrArg some (hdecided.unique houtcome)

/-- For every launcher and every request: the answer is the one that the rules allow. Without a
    limit there always is one, whatever the launcher does. -/
theorem destroy_exact (launcher : Launcher) (settings : LauncherSettings) (limit : Limit)
    (r : DestroyRequest) (calls : Calls) :
    let given := (Session.result (destroy launcher settings limit r) calls).1
    (∀ answer, given = answer ↔ Ending launcher limit r (destroyCommand settings r) answer) ∧
      (limit = none → ∃ outcome, given = some outcome) := by
  intro given
  have hexact := result_destroy_eq_iff launcher settings limit r calls
  refine ⟨hexact, fun hlimit => ?_⟩
  -- only a command that takes too long is left without an answer
  cases hnone : given with
  | some outcome => exact ⟨outcome, rfl⟩
  | none =>
    cases (hexact none).1 hnone with
    | late _ _ hlate =>
      rw [hlimit] at hlate
      cases hlate

end RuntimeStore

end CacheWarden
