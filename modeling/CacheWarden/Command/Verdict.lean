import CacheWarden.Command.Basic
import CacheWarden.Pattern.Message

/-!
# Verdicts

Cache utilities report by messages and not by exit codes: they end with code 1 when all went well,
and code 0 may mean that nothing happened. A command passes if its exit code is allowed and one of
the expected messages stands in a line of its output; without expected messages the exit code alone
decides. Main statement: `interpret_isSuccess_iff` says exactly that.
-/

namespace CacheWarden

open Text

/-- The streams to look at. -/
inductive Stream where
  | stdout
  | stderr
  | both
  deriving DecidableEq, Repr

/-- The text of the chosen streams. -/
def CommandOutput.text (o : CommandOutput) : Stream → String
  | .stdout => o.stdout
  | .stderr => o.stderr
  | .both => o.combined

/-- Why a command does not pass. -/
inductive RejectReason where
  /-- The exit code is not allowed, or a signal ended the program. -/
  | unexpectedExit (code : Option Int)
  | noExpectedMessage
  deriving DecidableEq, Repr

/-- What is held of a command that has ended. -/
inductive Verdict where
  /-- The first pattern that matched and the number of lines that some pattern matched. -/
  | success (pattern : Option String) (count : Nat)
  | failure (reason : RejectReason)
  deriving DecidableEq, Repr

namespace Verdict

/-- Whether a command passes. -/
def isSuccess : Verdict → Bool
  | success .. => true
  | failure _ => false

/-- The text of a verdict. -/
def text : Verdict → String
  | success (some pattern) count => s!"success ({count} line(s) matched '{pattern}')"
  | success none _ => "success"
  | failure (.unexpectedExit (some code)) => s!"failure (unexpected exit code {code})"
  | failure (.unexpectedExit none) => "failure (terminated by signal)"
  | failure .noExpectedMessage => "failure (no expected message found)"

end Verdict

/-- Whether an exit code is one of the allowed ones. -/
def allowsExit (allowed : List Int) (code : Option Int) : Bool := code.any allowed.contains

/-- The verdict on a command. -/
def interpret (o : CommandOutput) (allowed : List Int) (patterns : List MessagePattern)
    (stream : Stream) : Verdict :=
  if !allowsExit allowed o.exitCode then .failure (.unexpectedExit o.exitCode)
  else if patterns.isEmpty then .success none 0
  else
    let text := (o.text stream).toList
    let count := MessagePattern.countMatches text patterns
    if count = 0 then .failure .noExpectedMessage
    else
      .success ((patterns.find? fun p => (lines text).any p.isMatch).map MessagePattern.text) count

theorem interpret_isSuccess_iff (o : CommandOutput) (allowed : List Int)
    (patterns : List MessagePattern) (stream : Stream) :
    (interpret o allowed patterns stream).isSuccess = true ↔
      allowsExit allowed o.exitCode = true ∧
        (patterns = [] ∨
          ∃ line ∈ lines (o.text stream).toList, ∃ p ∈ patterns, p.isMatch line = true) := by
  unfold interpret
  by_cases hx : allowsExit allowed o.exitCode = true
  · by_cases hp : patterns = []
    · simp [hx, hp, Verdict.isSuccess]
    · have he : patterns.isEmpty = false := by simpa using hp
      simp only [hx, Bool.not_true, Bool.false_eq_true, if_false, he, true_and, hp, false_or]
      by_cases hc : MessagePattern.countMatches (o.text stream).toList patterns = 0
      · simp only [hc, if_true, Verdict.isSuccess, Bool.false_eq_true, false_iff]
        rintro ⟨line, hl, p, hpm, hm⟩
        have := List.countP_eq_zero.1 hc line hl
        simp only [List.any_eq_true, not_exists, not_and] at this
        exact this p hpm hm
      · simp only [hc, if_false, Verdict.isSuccess, true_iff]
        obtain ⟨line, hl, hm⟩ := List.countP_pos_iff.1 (Nat.pos_of_ne_zero hc)
        obtain ⟨p, hpm, hm⟩ := List.any_eq_true.1 hm
        exact ⟨line, hl, p, hpm, hm⟩
  · simp [hx, Verdict.isSuccess]

end CacheWarden
