import CacheWarden.Command.Operation
import CacheWarden.Proofs.Pattern.Message
import CacheWarden.Proofs.Store.Runtime
import Mathlib

/-!
# Running an operation

An operation either has a message that is no pattern, and then nothing is started, or it gives its
one command to the launcher and is judged by what that leaves behind. What it takes to pass is said
operation by operation in `Worked`, without the interpreter and the sets of exit codes and messages
that it is given. Main statements: `isSuccess_iff_worked`, how the verdict on each operation comes
out; `run_ends`, the ends that a run can come to.
-/

namespace CacheWarden

open Text Pattern

/-- Whether a command ended with one of the two codes that its utilities end with. -/
def CommandOutput.EndedWell (o : CommandOutput) : Prop := o.exitCode = some 0 ∨ o.exitCode = some 1

/-- Whether a line with a property was printed, on whichever stream. -/
def CommandOutput.Printed (o : CommandOutput) (property : List Char → Prop) : Prop :=
  ∃ line ∈ lines o.combined.toList, property line

namespace CacheOperation

open MessagePattern

/-- The texts that an operation reads as patterns. The messages about a named cache are looked for
    as they are. -/
def patternTexts : CacheOperation → List String
  | destroyAll _ => destroyAllMessages
  | printStats _ expected => expected
  | destroy .. | listAll _ | reset _ => []

/-- Whether an operation did what it was asked to, as far as exit code and output tell, where a rule
    says how regular expressions match. -/
def Worked (rule : Regex → List Char → Bool) (o : CommandOutput) : CacheOperation → Prop
  | reset _ => o.exitCode = some 0
  | listAll none => o.EndedWell
  | listAll (some name) => o.EndedWell ∧ o.Printed fun line => name.toList <:+: line
  | destroy name _ =>
      o.EndedWell ∧ o.Printed fun line =>
        ("shared cache \"" ++ name ++ "\" has been destroyed").toList <:+: line ∨
          ("cache \"" ++ name ++ "\" is destroyed").toList <:+: line
  | destroyAll _ =>
      o.EndedWell ∧ o.Printed fun line =>
        ∃ text ∈ ["No shared class caches available", "Cache does not exist",
          "shared cache (.*) has been destroyed", "cache (.*) is destroyed"], Fits rule text line
  | printStats _ [] => o.EndedWell
  | printStats _ (first :: rest) =>
      o.EndedWell ∧ o.Printed fun line => ∃ text ∈ first :: rest, Fits rule text line

/-- How a run of an operation may end that has one command to give: the calls that the launcher gets
    and the answer. -/
inductive Ending (op : CacheOperation) (launcher : Launcher) (limit : Limit) (c : Command) :
    Calls → Except Failure Result → Prop where
  /-- A message is no pattern, and nothing is started. The first such message is reported. -/
  | broken {text reason : String} (hfirst : FirstBroken op.patternTexts text) :
      Ending op launcher limit c [] (.error (.invalidPattern text reason))
  /-- The one attempt fails before the launcher takes part in it: a command with a NUL character
      cannot be handed over. -/
  | withNul (hready : ∀ text ∈ op.patternTexts, IsPattern text) (hnul : c.hasNul = true) :
      Ending op launcher limit c [] (.error (.commandFailed c.text .nulCharacter))
  /-- The launcher does not start the command. -/
  | refused {cause : IoFailure} (hready : ∀ text ∈ op.patternTexts, IsPattern text)
      (hnul : c.hasNul = false) (hlaunch : launcher c = .refused cause) :
      Ending op launcher limit c [c] (.error (.commandFailed c.text cause))
  /-- The command is still running when the limit is over. -/
  | late {exitCode : Option Int} {stdout stderr : ByteArray} {elapsed : Nat}
      (hready : ∀ text ∈ op.patternTexts, IsPattern text) (hnul : c.hasNul = false)
      (hlaunch : launcher c = .ended exitCode stdout stderr elapsed)
      (hlate : limit.admits elapsed = false) :
      Ending op launcher limit c [c] (.error (limit.failure op.label))
  /-- The command ended in time, and passes exactly if it did what it was asked to. -/
  | judged {exitCode : Option Int} {stdout stderr : ByteArray} {elapsed : Nat} {verdict : Verdict}
      (hready : ∀ text ∈ op.patternTexts, IsPattern text) (hnul : c.hasNul = false)
      (hlaunch : launcher c = .ended exitCode stdout stderr elapsed)
      (hlimit : limit.admits elapsed = true)
      (hverdict : verdict.isSuccess = true ↔
        op.Worked Regex.isMatch (Command.outputOf exitCode stdout stderr)) :
      Ending op launcher limit c [c] (.ok ⟨Command.outputOf exitCode stdout stderr, verdict⟩)

variable {op : CacheOperation} {patterns : List MessagePattern} {e : Failure}

/-! ### What an operation expects -/

theorem expectedMessages_eq_error_iff :
    op.expectedMessages = .error e ↔
      ∃ text, FirstBroken op.patternTexts text ∧ e = MessagePattern.broken text := by
  rw [← parseAll_eq_error_iff]
  cases op with
  | destroy name persistence => exact iff_of_false (fun h => by cases h) (fun h => by cases h)
  | destroyAll persistence => rfl
  | printStats name expected => rfl
  | listAll expectedName =>
    cases expectedName <;> exact iff_of_false (fun h => by cases h) (fun h => by cases h)
  | reset name => exact iff_of_false (fun h => by cases h) (fun h => by cases h)

theorem isPattern_of_mem_destroyAllMessages : ∀ text ∈ destroyAllMessages, IsPattern text := by
  have hread : destroyAllMessages.all (fun text =>
      !text.toList.any regexSigns.contains || (Regex.read? text.toList).isSome) = true := by
    decide +kernel
  intro text htext hsign
  have hsome := List.all_eq_true.1 hread text htext
  rw [any_regexSigns_iff.2 hsign, Bool.not_true, Bool.false_or] at hsome
  exact Option.isSome_iff_exists.1 hsome

/-- Only statistics can be asked for with a message that is no pattern. -/
theorem exists_printStats_of_firstBroken {text : String} (h : FirstBroken op.patternTexts text) :
    ∃ name expected, op = printStats name expected := by
  obtain ⟨before, after, htexts, -, hbroken⟩ := h
  have hmem : text ∈ op.patternTexts := by
    rw [htexts]
    simp
  cases op with
  | destroyAll persistence => exact absurd (isPattern_of_mem_destroyAllMessages text hmem) hbroken
  | printStats name expected => exact ⟨name, expected, rfl⟩
  | destroy name persistence => cases hmem
  | listAll expectedName => cases hmem
  | reset name => cases hmem

theorem isPattern_of_expectedMessages (h : op.expectedMessages = .ok patterns) :
    ∀ text ∈ op.patternTexts, IsPattern text := by
  cases op with
  | destroyAll persistence => exact isPattern_of_parseAll h
  | printStats name expected => exact isPattern_of_parseAll h
  | destroy name persistence =>
    intro text htext
    cases htext
  | listAll expectedName =>
    intro text htext
    cases htext
  | reset name =>
    intro text htext
    cases htext

/-! ### How an operation is judged -/

theorem allowsExit_clean_iff {code : Option Int} : allowsExit [0] code = true ↔ code = some 0 := by
  rw [allowsExit_iff]
  simp

theorem allowsExit_utility_iff {o : CommandOutput} :
    allowsExit [0, 1] o.exitCode = true ↔ o.EndedWell := by
  rw [allowsExit_iff, CommandOutput.EndedWell]
  constructor
  · intro h
    obtain ⟨code, hcode, hmem⟩ := h
    rcases List.mem_pair.1 hmem with rfl | rfl
    · exact Or.inl hcode
    · exact Or.inr hcode
  · intro h
    rcases h with h | h
    · exact ⟨0, h, by simp⟩
    · exact ⟨1, h, by simp⟩

/-- The verdict on an operation is a success exactly if it did what it was asked to. -/
theorem isSuccess_iff_worked (h : op.expectedMessages = .ok patterns)
    (rule : Regex → List Char → Bool) (o : CommandOutput) :
    (interpretBy rule o op.allowedExits patterns .both).isSuccess = true ↔ op.Worked rule o := by
  rw [(judgement_interpretBy ..).isSuccess_iff]
  cases op with
  | reset name =>
    cases h
    exact (and_iff_left (Or.inl rfl)).trans allowsExit_clean_iff
  | listAll expectedName =>
    cases expectedName with
    | none =>
      cases h
      exact (and_iff_left (Or.inl rfl)).trans allowsExit_utility_iff
    | some name =>
      cases h
      refine and_congr allowsExit_utility_iff ?_
      rw [or_iff_right (List.cons_ne_nil _ _)]
      refine (exists_literal_iff [name] _).trans ?_
      simp only [List.mem_singleton, exists_eq_left]
      rfl
  | destroy name persistence =>
    cases h
    have hne : destroyMessages name ≠ [] := List.cons_ne_nil _ _
    refine and_congr allowsExit_utility_iff ?_
    rw [or_iff_right hne]
    refine (exists_literal_iff ["shared cache \"" ++ name ++ "\" has been destroyed",
      "cache \"" ++ name ++ "\" is destroyed"] _).trans ?_
    simp only [List.mem_pair, or_and_right, exists_or, exists_eq_left]
    rfl
  | destroyAll persistence =>
    have hne : patterns ≠ [] := ne_nil_of_parseAll h
    refine and_congr allowsExit_utility_iff ?_
    rw [or_iff_right hne, exists_isMatchBy_iff h]
    rfl
  | printStats name expected =>
    cases expected with
    | nil =>
      cases h
      exact (and_iff_left (Or.inl rfl)).trans allowsExit_utility_iff
    | cons first rest =>
      have hne : patterns ≠ [] := ne_nil_of_parseAll h
      refine and_congr allowsExit_utility_iff ?_
      rw [or_iff_right hne, exists_isMatchBy_iff h]
      rfl

/-! ### What a run comes to -/

/-- The answer of a run whose messages are patterns, by what became of its command. -/
def answerOf (op : CacheOperation) (limit : Limit) (patterns : List MessagePattern) :
    Option (Except Failure CommandOutput) → Except Failure Result
  | none => .error (limit.failure op.label)
  | some (.error e) => .error e
  | some (.ok output) => .ok ⟨output, interpret output op.allowedExits patterns .both⟩

variable (launcher : Launcher) (limit : Limit) (java : String) (dir template : Option String)
  (calls : Calls)

theorem result_run_of_error (h : op.expectedMessages = .error e) :
    Session.result (op.run launcher limit java dir template) calls = (.error e, calls) := by
  rw [run, h]
  rfl

theorem result_run_of_ok (h : op.expectedMessages = .ok patterns) :
    Session.result (op.run launcher limit java dir template) calls =
      let c := op.command java dir template
      (op.answerOf limit patterns (c.answer launcher limit), calls ++ c.launched) := by
  rw [run, h]
  simp only [Session.result_bind, Command.result_run]
  rcases (op.command java dir template).answer launcher limit with _ | (e | output) <;> rfl

theorem ending_of_ok (h : op.expectedMessages = .ok patterns) (c : Command) :
    Ending op launcher limit c c.launched
      (op.answerOf limit patterns (c.answer launcher limit)) := by
  have hready := isPattern_of_expectedMessages h
  unfold Command.launched Command.answer
  cases hnul : c.hasNul with
  | true => exact .withNul hready hnul
  | false =>
    cases hlaunch : launcher c with
    | refused cause => exact .refused hready hnul hlaunch
    | ended exitCode stdout stderr elapsed =>
      cases hlimit : limit.admits elapsed with
      | false =>
        simp only [hlimit, Bool.false_eq_true, if_false]
        exact .late hready hnul hlaunch hlimit
      | true =>
        simp only [hlimit, Bool.false_eq_true, if_false, if_true]
        refine .judged hready hnul hlaunch hlimit ?_
        rw [interpret_eq_interpretBy]
        exact isSuccess_iff_worked h Regex.isMatch _

/-- For every operation, directory, template and launcher: a run comes to one of its ends. It makes
    exactly one attempt to launch, with the operation's own arguments, unless a message is no
    pattern; then it makes none. Only a message that statistics are asked for can be no pattern. A
    verdict is a success exactly if the operation did what it was asked to, and that holds however
    regular expressions match. -/
theorem run_ends (op : CacheOperation) :
    (∃ made answer,
      Session.result (op.run launcher limit java dir template) calls = (answer, calls ++ made) ∧
        Ending op launcher limit ⟨java, op.arguments dir template⟩ made answer) ∧
      (∀ text, FirstBroken op.patternTexts text → ∃ name expected, op = printStats name expected) ∧
      ∀ patterns, op.expectedMessages = .ok patterns → ∀ rule o,
        (interpretBy rule o op.allowedExits patterns .both).isSuccess = true ↔
          op.Worked rule o := by
  refine ⟨?_, fun _ => exists_printStats_of_firstBroken, fun _ => isSuccess_iff_worked⟩
  cases hmessages : op.expectedMessages with
  | error e =>
    obtain ⟨text, hfirst, rfl⟩ := expectedMessages_eq_error_iff.1 hmessages
    refine ⟨[], .error (MessagePattern.broken text), ?_, .broken hfirst⟩
    rw [result_run_of_error launcher limit java dir template calls hmessages, List.append_nil]
  | ok patterns =>
    exact ⟨_, _, result_run_of_ok launcher limit java dir template calls hmessages,
      ending_of_ok launcher limit hmessages _⟩

end CacheOperation

end CacheWarden
