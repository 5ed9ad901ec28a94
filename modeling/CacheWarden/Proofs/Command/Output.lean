import CacheWarden.Command.Verdict
import CacheWarden.Proofs.Text.Lines
import Mathlib

/-!
# The lines of an output

Where both streams are read as one text, the last line of the error stream is ended before the other
stream begins. Main statement: `Extended.subset`, an output with more whole lines in its streams has
more lines, whichever stream is looked at.
-/

namespace CacheWarden.CommandOutput

open Text

theorem lineEnd_of_ended {s : List Char} (h : Ended s) : lineEnd s = [] := by
  unfold lineEnd
  cases hs : s.getLast? with
  | none => rfl
  | some c =>
    obtain rfl : c = '\n' := h c hs
    rfl

theorem lineEnd_of_not_ended {s : List Char} (h : ¬ Ended s) : lineEnd s = ['\n'] := by
  unfold lineEnd
  split
  · rename_i hs
    refine absurd (fun c hc => ?_) h
    rw [hs] at hc
    cases hc
  · rename_i hs
    refine absurd (fun c hc => ?_) h
    rw [hs] at hc
    exact (Option.some.inj hc).symm
  · rfl

theorem lineEnd_append {s : List Char} (h : Ended s) (t : List Char) :
    lineEnd (s ++ t) = lineEnd t := by
  cases t with
  | nil =>
    rw [List.append_nil]
    exact lineEnd_of_ended h
  | cons c t => rw [lineEnd, lineEnd, List.getLast?_append_of_ne_nil s (List.cons_ne_nil c t)]

theorem ended_append_lineEnd (s : List Char) : Ended (s ++ lineEnd s) := by
  by_cases h : Ended s
  · rwa [lineEnd_of_ended h, List.append_nil]
  · rw [lineEnd_of_not_ended h]
    exact ended_append_newline s

theorem lines_combined (o : CommandOutput) :
    lines o.combined.toList =
      lines (o.stderr.toList ++ lineEnd o.stderr.toList) ++ lines o.stdout.toList := by
  rw [combined, String.toList_ofList]
  exact lines_append_of_ended (ended_append_lineEnd _) _

/-- Whole lines may be put in before the last line is ended or after. -/
theorem lines_subset_of_moreLines {s t : List Char} (h : MoreLines s t) :
    lines (s ++ lineEnd s) ⊆ lines (t ++ lineEnd t) := by
  cases h with
  | before front more back h =>
    have hmore : Ended (front ++ unlines more) := h.append (ended_unlines more)
    rw [lineEnd_append h, ← List.append_assoc front, lineEnd_append hmore, List.append_assoc,
      List.append_assoc, List.append_assoc]
    exact (MoreLines.before front more (back ++ lineEnd back) h).subset
  | behind _ more hs hr =>
    have hends : s ++ '\n' :: unlines more = s ++ ['\n'] ++ unlines more := by simp
    rw [lineEnd_of_not_ended hs, hends, lineEnd_append (ended_append_newline s),
      lineEnd_of_ended (ended_unlines more), List.append_nil,
      lines_append_of_ended (ended_append_newline s)]
    exact List.subset_append_left _ _

/-- Puts whole lines into the streams of an output. -/
inductive Extended (o : CommandOutput) : CommandOutput → Prop where
  | same : Extended o o
  | stdout {o' : CommandOutput} {text : String} (h : Extended o o')
      (more : MoreLines o'.stdout.toList text.toList) : Extended o { o' with stdout := text }
  | stderr {o' : CommandOutput} {text : String} (h : Extended o o')
      (more : MoreLines o'.stderr.toList text.toList) : Extended o { o' with stderr := text }

theorem Extended.exitCode_eq {o o' : CommandOutput} (h : o.Extended o') :
    o'.exitCode = o.exitCode := by
  induction h with
  | same => rfl
  | stdout h more ih => exact ih
  | stderr h more ih => exact ih

theorem Extended.subset {o o' : CommandOutput} (h : o.Extended o') (stream : Stream) :
    lines (o.text stream).toList ⊆ lines (o'.text stream).toList := by
  induction h with
  | same => exact List.Subset.refl _
  | @stdout o' text h more ih =>
    refine List.Subset.trans ih ?_
    cases stream with
    | stdout => exact more.subset
    | stderr => exact List.Subset.refl _
    | both =>
      simp only [CommandOutput.text, lines_combined]
      exact List.append_subset.2 ⟨List.subset_append_left _ _,
        List.subset_append_of_subset_right _ more.subset⟩
  | @stderr o' text h more ih =>
    refine List.Subset.trans ih ?_
    cases stream with
    | stdout => exact List.Subset.refl _
    | stderr => exact more.subset
    | both =>
      simp only [CommandOutput.text, lines_combined]
      have hsub := lines_subset_of_moreLines more
      exact List.append_subset.2 ⟨List.subset_append_of_subset_left _ hsub,
        List.subset_append_right _ _⟩

end CacheWarden.CommandOutput
