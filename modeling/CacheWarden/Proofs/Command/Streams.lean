import CacheWarden.Proofs.Command.Output
import CacheWarden.Proofs.Text.Occurrence
import Mathlib

/-!
# What the streams of an output hold

Both streams are read as one text, but what fits on a line does not reach from one of them into the
other. So a message is found in a line of the whole output exactly if it stands in a line of a
stream, and a phrase that is searched for without case exactly if it stands in a stream. Main
statements: `exists_infix_streamLines_iff`, `contains_lowerAscii_combined_iff`, and
`combined_line_by_line`, by which the lines of the whole output are those of the streams.
-/

namespace CacheWarden.CommandOutput

open Text

/-- The lines of the error stream, and behind them those of the other stream. -/
def streamLines (o : CommandOutput) : List (List Char) :=
  lines o.stderr.toList ++ lines o.stdout.toList

/-- Whether a phrase stands in one of the streams, whatever the case of its ASCII letters. -/
def Mentions (o : CommandOutput) (phrase : String) : Prop :=
  ∃ stream ∈ [o.stderr, o.stdout], ∃ piece, piece <:+: stream.toList ∧
    sameIgnoringCase piece phrase.toList = true

variable {o : CommandOutput} {piece : List Char} {phrase : String}

/-- A piece that fits on a line does not reach from one stream into the other. -/
theorem infix_combined_iff (hn : '\n' ∉ piece) :
    piece <:+: o.combined.toList ↔ piece <:+: o.stderr.toList ∨ piece <:+: o.stdout.toList := by
  rw [combined, String.toList_ofList]
  by_cases hended : Ended o.stderr.toList
  · rw [lineEnd_of_ended hended, List.append_nil]
    rcases List.eq_nil_or_concat' o.stderr.toList with hnil | ⟨s, c, hs⟩
    · rw [hnil, List.nil_append, List.infix_nil]
      refine (or_iff_right_of_imp ?_).symm
      rintro rfl
      exact List.nil_infix
    · obtain rfl : c = '\n' := hended c (by rw [hs]; simp)
      have hstderr : piece <:+: s ++ ['\n'] ↔ piece <:+: s := by
        rw [infix_append_cons_iff hn, or_iff_left_of_imp]
        intro h
        rw [List.infix_nil.1 h]
        exact List.nil_infix
      rw [hs, List.append_assoc, List.singleton_append, infix_append_cons_iff hn, hstderr]
  · rw [lineEnd_of_not_ended hended, List.append_assoc, List.singleton_append,
      infix_append_cons_iff hn]

/-- A line of either stream holds a piece exactly if a line of the whole output does. -/
theorem exists_infix_streamLines_iff (hne : piece ≠ []) (hr : piece.getLast? ≠ some '\r') :
    (∃ l ∈ o.streamLines, piece <:+: l) ↔ ∃ l ∈ lines o.combined.toList, piece <:+: l := by
  by_cases hn : '\n' ∈ piece
  · have hnone : ∀ s, ¬ ∃ l ∈ lines s, piece <:+: l := by
      rintro s ⟨l, hl, h⟩
      exact newline_not_mem_of_mem_lines hl (h.subset hn)
    have hstreams : ¬ ∃ l ∈ o.streamLines, piece <:+: l := by
      rintro ⟨l, hl, h⟩
      rcases List.mem_append.1 hl with hl | hl
      · exact hnone _ ⟨l, hl, h⟩
      · exact hnone _ ⟨l, hl, h⟩
    exact iff_of_false hstreams (hnone _)
  · rw [exists_infix_line_iff hne hn hr, infix_combined_iff hn, ← exists_infix_line_iff hne hn hr,
      ← exists_infix_line_iff hne hn hr]
    simp only [streamLines, List.mem_append, or_and_right, exists_or]

theorem toLower_newline : Char.toLower '\n' = '\n' := by decide

/-- A phrase is searched for without case in the whole output exactly if it stands in a stream. -/
theorem contains_lowerAscii_combined_iff (hn : '\n' ∉ lowerAscii phrase.toList) :
    contains (lowerAscii phrase.toList) (lowerAscii o.combined.toList) = true ↔
      o.Mentions phrase := by
  have hplain : ∀ piece, lowerAscii phrase.toList = lowerAscii piece → '\n' ∉ piece := by
    intro piece hsame hmem
    rw [hsame, lowerAscii] at hn
    exact hn (toLower_newline ▸ List.mem_map_of_mem hmem)
  rw [contains_iff_isInfix, lowerAscii, lowerAscii, List.infix_map_iff]
  simp only [Mentions, List.mem_pair, exists_eq_or_imp, exists_eq_left, sameIgnoringCase,
    beq_iff_eq]
  constructor
  · rintro ⟨piece, hpiece, hsame⟩
    rcases (infix_combined_iff (hplain piece hsame)).1 hpiece with h | h
    · exact Or.inl ⟨piece, h, hsame.symm⟩
    · exact Or.inr ⟨piece, h, hsame.symm⟩
  · rintro (⟨piece, h, hsame⟩ | ⟨piece, h, hsame⟩)
    · exact ⟨piece, (infix_combined_iff (hplain piece hsame.symm)).2 (Or.inl h), hsame.symm⟩
    · exact ⟨piece, (infix_combined_iff (hplain piece hsame.symm)).2 (Or.inr h), hsame.symm⟩

/-! ### Line by line -/

/-- The streams are joined line by line, unless a carriage return is left over between them. -/
theorem lines_combined_of_not_return (h : o.stderr.toList.getLast? ≠ some '\r') :
    lines o.combined.toList = o.streamLines := by
  rw [lines_combined, streamLines]
  by_cases hended : Ended o.stderr.toList
  · rw [lineEnd_of_ended hended, List.append_nil]
  · rw [lineEnd_of_not_ended hended, lines_append_newline_of_not_ended hended h]

theorem lines_combined_of_return (h : o.stderr.toList.getLast? = some '\r') :
    ∃ before line, lines o.stderr.toList = before ++ [line ++ ['\r']] ∧
      lines o.combined.toList = before ++ [line] ++ lines o.stdout.toList := by
  obtain ⟨s, hs⟩ := List.getLast?_eq_some_iff.1 h
  obtain ⟨before, line, hopen, hended⟩ := exists_lines_append_return s
  refine ⟨before, line, hs ▸ hopen, ?_⟩
  have hnot : ¬ Ended o.stderr.toList := fun hended => absurd (hended '\r' h) (by decide)
  rw [lines_combined, lineEnd_of_not_ended hnot, hs, List.append_assoc]
  exact congrArg (· ++ lines o.stdout.toList) hended

theorem countMatches_combined (h : o.stderr.toList.getLast? ≠ some '\r')
    (patterns : List MessagePattern) :
    MessagePattern.countMatches o.combined.toList patterns =
      MessagePattern.countMatches o.stderr.toList patterns +
        MessagePattern.countMatches o.stdout.toList patterns := by
  simp only [MessagePattern.countMatches, lines_combined_of_not_return h, streamLines,
    List.countP_append]

theorem isSuccess_interpret_both_iff (h : o.stderr.toList.getLast? ≠ some '\r')
    (allowed : List Int) (patterns : List MessagePattern) :
    (interpret o allowed patterns .both).isSuccess = true ↔
      (interpret o allowed patterns .stderr).isSuccess = true ∨
        (interpret o allowed patterns .stdout).isSuccess = true := by
  rw [interpret_isSuccess_iff, interpret_isSuccess_iff, interpret_isSuccess_iff]
  simp only [CommandOutput.text, lines_combined_of_not_return h, streamLines, List.mem_append,
    or_and_right, exists_or]
  rw [← and_or_left, or_or_distrib_left]

/-- For every output whose error stream does not end in a carriage return: the lines of the whole
    output are those of the error stream and behind them those of the other, so every list of
    patterns counts as many lines in it as in both streams, and whatever is expected, a command
    passes on both streams exactly if it passes on one of them. Otherwise the carriage return is
    taken off the last line of the error stream, and nothing else is different. -/
theorem combined_line_by_line (o : CommandOutput) :
    (o.stderr.toList.getLast? ≠ some '\r' →
      lines o.combined.toList = lines o.stderr.toList ++ lines o.stdout.toList ∧
      (∀ patterns, MessagePattern.countMatches o.combined.toList patterns =
        MessagePattern.countMatches o.stderr.toList patterns +
          MessagePattern.countMatches o.stdout.toList patterns) ∧
      ∀ allowed patterns, (interpret o allowed patterns .both).isSuccess = true ↔
        (interpret o allowed patterns .stderr).isSuccess = true ∨
          (interpret o allowed patterns .stdout).isSuccess = true) ∧
    (o.stderr.toList.getLast? = some '\r' →
      ∃ before line, lines o.stderr.toList = before ++ [line ++ ['\r']] ∧
        lines o.combined.toList = before ++ [line] ++ lines o.stdout.toList) := by
  constructor
  · intro h
    exact ⟨lines_combined_of_not_return h, countMatches_combined h,
      isSuccess_interpret_both_iff h⟩
  · exact lines_combined_of_return

/-- A message in the other stream is found behind a warning whose last line is not ended. -/
theorem combined_behind_open_line :
    let o : CommandOutput := ⟨some 1, "cache \"T1\" is destroyed\n", "warning\r\nold cache"⟩
    let patterns := [MessagePattern.literal "is destroyed"]
    o.stderr.toList.getLast? ≠ some '\r' ∧
      lines o.combined.toList = ["warning".toList, "old cache".toList,
        "cache \"T1\" is destroyed".toList] ∧
      MessagePattern.countMatches o.combined.toList patterns = 0 + 1 ∧
      (interpret o [0, 1] patterns .stderr).isSuccess = false ∧
      (interpret o [0, 1] patterns .both).isSuccess = true := by
  intro o patterns
  have h : o.stderr.toList.getLast? ≠ some '\r' := by decide +kernel
  obtain ⟨hlines, hcount, hsuccess⟩ := (combined_line_by_line o).1 h
  refine ⟨h, ?_, ?_, by decide +kernel, ?_⟩
  · rw [hlines]
    decide +kernel
  · rw [hcount]
    decide +kernel
  · exact (hsuccess [0, 1] patterns).2 (Or.inr (by decide +kernel))

end CacheWarden.CommandOutput
