import CacheWarden.Proofs.Properties.Joining
import Mathlib

/-!
# Lines that are folded

A line is folded where a backslash and a line feed are put into it, and blanks in front of its
second half. Main statements: `joinLines_firstHalf` and `joinLines_secondHalf`, what the halves do
to what was carried on; `entries_fold`, no entry changes; `parse_folded`, for every line of every
text.
-/

namespace CacheWarden.Properties

open Text

variable {s x y : List Char}

/-- An even number of backslashes has no part in how the text behind them goes on. -/
theorem continues_append (hs : continues s = false) (t : List Char) :
    continues (s ++ t) = continues t := by
  induction t using List.reverseRecOn with
  | nil =>
    rw [List.append_nil, hs]
    rfl
  | append_singleton t c ih => rw [← List.append_assoc, continues_concat, continues_concat, ih]

/-- A line is a comment exactly if its start is one. -/
theorem isSkipped_append (h : s ≠ []) (t : List Char) : isSkipped (s ++ t) = isSkipped s := by
  obtain ⟨c, s, rfl⟩ := List.exists_cons_of_ne_nil h
  rfl

section

variable {carry : Option (List Char)}
  (hcount : carry.isSome = true ∨ isSkipped (trimStart (x ++ y)) = false)
  (hx : carry.isSome = true ∨ ∃ c ∈ x, isBlank c = false) (heven : continues x = false)
  (hy : ∀ c ∈ y.head?, isBlank c = false)

include hcount hx heven hy

/-- The first half of a folded line is carried on. -/
theorem joinLines_firstHalf (rest : List (List Char)) :
    joinLines carry ((x ++ ['\\']) :: rest) =
      joinLines (some (carry.getD [] ++ trimStart x)) rest := by
  have hback : ∀ c ∈ ['\\'].head?, isBlank c = false := by
    rintro c ⟨⟩
    decide
  have hhalf : carry.isSome = true ∨ isSkipped (trimStart (x ++ ['\\'])) = false := by
    rcases hx with h | h
    · exact Or.inl h
    · refine hcount.imp_right fun hskip => ?_
      have hne := trimStart_ne_nil h
      rw [trimStart_append_of_head hy, isSkipped_append hne] at hskip
      rw [trimStart_append_of_head hback, isSkipped_append hne, hskip]
  have hopen : continues (x ++ ['\\']) = true := by
    rw [continues_append heven]
    rfl
  rw [joinLines_counted hhalf, if_pos hopen, trimStart_append_of_head hback, ← List.append_assoc,
    List.dropLast_concat]

omit hx in
/-- Behind its first half the second half of a line has the effect of the whole line. -/
theorem joinLines_secondHalf (rest : List (List Char)) :
    joinLines (some (carry.getD [] ++ trimStart x)) (y :: rest) =
      joinLines carry ((x ++ y) :: rest) := by
  have htrim : trimStart y = y := dropWhile_of_head hy
  rw [joinLines_counted (Or.inl rfl), joinLines_counted hcount, htrim, trimStart_append_of_head hy,
    continues_append heven, Option.getD_some, List.append_assoc]

end

theorem joinLines_trimStart (carry : Option (List Char)) (line : List Char)
    (rest : List (List Char)) :
    joinLines carry (trimStart line :: rest) = joinLines carry (line :: rest) := by
  have htrim : trimStart (trimStart line) = trimStart line :=
    List.dropWhile_idempotent isBlank line
  rw [joinLines, joinLines, htrim]

theorem joinLines_blank_of_carried {s carried : List Char} (h : trimStart s = [])
    (rest : List (List Char)) :
    joinLines (some carried) (s :: rest) = carried :: joinLines none rest := by
  rw [← joinLines_trimStart, h, joinLines_counted (Or.inl rfl)]
  simp [continues, trimStart]

/-- The second half of a folded line is read without its indentation. -/
theorem joinLines_indented {carried gap back rest : List Char} (hplain : '\n' ∉ x ++ y)
    (hend : LineEnd (x ++ y) back rest) (hgap : ∀ c ∈ gap, isBlank c = true ∧ c ≠ '\n') :
    joinLines (some carried) (lines (gap ++ (y ++ back))) =
      joinLines (some carried) (y :: lines rest) := by
  have hblank : ∀ c ∈ gap, isBlank c = true := fun c hc => (hgap c hc).1
  have hfree : '\n' ∉ gap := fun hn => (hgap '\n' hn).2 rfl
  rw [List.mem_append, not_or] at hplain
  by_cases hy : y = []
  · subst hy
    rw [List.nil_append, joinLines_blank_of_carried rfl]
    by_cases hne : gap ++ back = []
    · -- nothing stands behind the fold
      obtain ⟨rfl, rfl⟩ := List.append_eq_nil_iff.1 hne
      cases hend
      rfl
    · obtain ⟨t, hlines, ht⟩ := hend.exists_lines_append hfree hne
      have htrim : trimStart t = [] :=
        List.dropWhile_eq_nil_iff.2 fun c hc => hblank c (ht.subset hc)
      rw [hlines, joinLines_blank_of_carried htrim]
  · have hback : LineEnd (gap ++ y) back rest := by
      cases hend with
      | last => exact .last
      | returnNewline rest => exact .returnNewline rest
      | newline rest h =>
        rw [List.getLast?_append_of_ne_nil x hy] at h
        exact .newline rest (by rwa [List.getLast?_append_of_ne_nil gap hy])
    have hline : '\n' ∉ gap ++ y := by
      rw [List.mem_append, not_or]
      exact ⟨hfree, hplain.2⟩
    have hne : gap ++ y ++ back ≠ [] := by simp [hy]
    rw [← List.append_assoc, hback.lines_append hline hne, ← joinLines_trimStart,
      trimStart_append hblank, joinLines_trimStart]

/-- A line of a text may be folded where it stands: none of the entries changes. -/
theorem entries_fold {text front back gap : List Char} {before after : List (List Char)}
    (hlines : lines text = before ++ (x ++ y) :: after)
    (hplace : StandsBetween text before (x ++ y) front back)
    (hcount : endsOpen before = true ∨ isSkipped (trimStart (x ++ y)) = false)
    (hx : endsOpen before = true ∨ ∃ c ∈ x, isBlank c = false) (heven : continues x = false)
    (hy : ∀ c ∈ y.head?, isBlank c = false) (hgap : ∀ c ∈ gap, isBlank c = true ∧ c ≠ '\n') :
    entries (front ++ (x ++ '\\' :: '\n' :: (gap ++ (y ++ back)))) = entries text := by
  obtain ⟨rest, hplain, hend, hrest⟩ := hplace.exists_lineEnd hlines
  obtain ⟨done, left, hleft, hdone⟩ := exists_joinLines_append none before
  have hopen : left.isSome = endsOpen before := hleft
  rw [← hopen] at hcount hx
  have hhalf : '\n' ∉ x ++ ['\\'] := by
    rw [List.mem_append, not_or] at hplain ⊢
    exact ⟨hplain.1, by decide⟩
  have hcut : x ++ '\\' :: '\n' :: (gap ++ (y ++ back)) =
      x ++ ['\\'] ++ '\n' :: (gap ++ (y ++ back)) := by simp
  rw [entries, entries, hlines, hcut, lines_append_of_ended hplace.ended,
    lines_append_newline hhalf (by simp), hplace.lines_front, hdone, hdone, ← hrest,
    joinLines_firstHalf hcount hx heven hy, joinLines_indented hplain hend hgap,
    joinLines_secondHalf hcount heven hy]

/-- Every line of every text that is no comment, nor blank unless it continues another one, may be
    folded at every place where the backslash is not escaped: the settings stay as they are. -/
theorem parse_folded {text : String} {before after : List (List Char)}
    (hlines : lines text.toList = before ++ (x ++ y) :: after)
    (hcount : endsOpen before = true ∨ isSkipped (trimStart (x ++ y)) = false)
    (hx : endsOpen before = true ∨ ∃ c ∈ x, isBlank c = false) (heven : continues x = false)
    (hy : ∀ c ∈ y.head?, isBlank c = false) :
    (∃ front back, StandsBetween text.toList before (x ++ y) front back) ∧
      ∀ front back gap, StandsBetween text.toList before (x ++ y) front back →
        (∀ c ∈ gap, isBlank c = true ∧ c ≠ '\n') →
        parse (String.ofList (front ++ (x ++ '\\' :: '\n' :: (gap ++ (y ++ back))))) =
          parse text := by
  refine ⟨exists_standsBetween hlines, fun front back gap hplace hgap => parse_congr ?_⟩
  rw [String.toList_ofList]
  exact entries_fold hlines hplace hcount hx heven hy hgap

/-- Inside an escape, behind a comment that ends in a backslash. -/
theorem parse_folded_in_escape :
    parse "# \\\nname=\\u00\\\n \t541\\\n  -x\r\n" = parse "# \\\nname=\\u00541\\\n  -x\r\n" := by
  have hlines : lines "# \\\nname=\\u00541\\\n  -x\r\n".toList =
      ["# \\".toList] ++ ("name=\\u00".toList ++ "541\\".toList) :: ["  -x".toList] := by
    decide +kernel
  have hplace : StandsBetween "# \\\nname=\\u00541\\\n  -x\r\n".toList ["# \\".toList]
      ("name=\\u00".toList ++ "541\\".toList) "# \\\n".toList "\n  -x\r\n".toList :=
    ⟨by decide, ended_append_newline "# \\".toList, by decide⟩
  have hstart : ∀ c ∈ "541\\".toList.head?, isBlank c = false := by
    rintro c ⟨⟩
    decide
  have hgap : ∀ c ∈ " \t".toList, isBlank c = true ∧ c ≠ '\n' := by
    simp [isBlank]
  have hfold := (parse_folded hlines (.inr (by decide)) (.inr ⟨'n', by decide, by decide⟩)
    (by decide) hstart).2 _ _ " \t".toList hplace hgap
  have htext : String.ofList ("# \\\n".toList ++ ("name=\\u00".toList ++ '\\' :: '\n' ::
      (" \t".toList ++ ("541\\".toList ++ "\n  -x\r\n".toList)))) =
        "# \\\nname=\\u00\\\n \t541\\\n  -x\r\n" := by
    decide +kernel
  rwa [htext] at hfold

end CacheWarden.Properties
