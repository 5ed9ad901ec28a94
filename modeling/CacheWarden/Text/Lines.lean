import CacheWarden.Text.Search

/-!
# Lines

A line ends at a line feed, and one carriage return right in front of that line feed belongs to
the line end. The last line needs no line feed; a carriage return at its end is part of it.
Main statement: lines that hold no line feed and do not end in a carriage return are read back
from the text that ends each of them with a line feed.
-/

namespace CacheWarden.Text

/-- The lines of a text, without their line ends. -/
def lines : List Char → List (List Char)
  | [] => []
  | '\n' :: r => [] :: lines r
  | '\r' :: '\n' :: r => [] :: lines r
  | c :: r => consHead c (lines r)

/-- Writes each line with a line feed after it. -/
def unlines (ls : List (List Char)) : List Char := ls.flatMap (· ++ ['\n'])

theorem lines_cons_of_ne {c : Char} {r : List Char} (hc : c ≠ '\n')
    (hr : c = '\r' → r.head? ≠ some '\n') : lines (c :: r) = consHead c (lines r) := by
  rw [lines.eq_4]
  · exact hc
  · rintro r' rfl rfl
    exact hr rfl rfl

theorem lines_append_newline {l r : List Char} (h : '\n' ∉ l) (hr : l.getLast? ≠ some '\r') :
    lines (l ++ '\n' :: r) = l :: lines r := by
  induction l with
  | nil => simp [lines]
  | cons c l ih =>
    have hc : c ≠ '\n' := by rintro rfl; simp at h
    have hl : '\n' ∉ l := fun hm => h (List.mem_cons_of_mem _ hm)
    cases l with
    | nil =>
      have hcr : c ≠ '\r' := by rintro rfl; simp at hr
      simp only [List.cons_append, List.nil_append]
      rw [lines_cons_of_ne hc (fun e => absurd e hcr)]
      simp [lines, consHead]
    | cons d l =>
      have hd : d ≠ '\n' := by rintro rfl; simp at hl
      simp only [List.cons_append] at ih ⊢
      rw [lines_cons_of_ne hc (fun _ => by simpa using hd), ih hl (by simpa using hr)]
      rfl

theorem lines_unlines {ls : List (List Char)} (h : ∀ l ∈ ls, '\n' ∉ l ∧ l.getLast? ≠ some '\r') :
    lines (unlines ls) = ls := by
  induction ls with
  | nil => rfl
  | cons l ls ih =>
    have hl := h l (by simp)
    have : unlines (l :: ls) = l ++ '\n' :: unlines ls := by simp [unlines]
    rw [this, lines_append_newline hl.1 hl.2, ih fun m hm => h m (by simp [hm])]

end CacheWarden.Text
