import CacheWarden.Text.Blank
import CacheWarden.Text.Search
import Mathlib

/-!
# Trimming what was indented

Runs of spaces and tabs around a text are what trimming takes away again. Main statements:
`dropWhile_around`, for any kind of element, `trim_around` for blanks, `trim_trim`, nothing is left
to trim, and `contains_trim`, a piece without blanks stands in a text exactly if it stands in the
trimmed text.
-/

namespace CacheWarden.Text

/-- A run of spaces and tabs, which may be empty. -/
structure Gap where
  chars : List Char
  plain : ∀ c ∈ chars, c = ' ' ∨ c = '\t'

namespace Gap

/-- The empty run. -/
def none : Gap := ⟨[], by simp⟩

/-- A single space. -/
def space : Gap := ⟨[' '], by simp⟩

theorem isBlank_of_mem {g : Gap} {c : Char} (h : c ∈ g.chars) : isBlank c = true := by
  rcases g.plain c h with rfl | rfl <;> decide

theorem not_mem {g : Gap} {c : Char} (hs : c ≠ ' ') (ht : c ≠ '\t') : c ∉ g.chars := by
  intro h
  rcases g.plain c h with rfl | rfl
  · exact hs rfl
  · exact ht rfl

end Gap

section

variable {α : Type} {p : α → Bool} {a s b : List α}

theorem dropWhile_of_head (h : ∀ x ∈ s.head?, p x = false) : s.dropWhile p = s := by
  cases s with
  | nil => rfl
  | cons x s => rw [List.dropWhile_cons_of_neg (by simp [h x rfl])]

/-- What satisfies the predicate in front of a text and behind it is dropped, and no more. -/
theorem dropWhile_around (ha : ∀ x ∈ a, p x = true) (hb : ∀ x ∈ b, p x = true)
    (hhead : ∀ x ∈ s.head?, p x = false) (hlast : ∀ x ∈ s.getLast?, p x = false) :
    (((a ++ (s ++ b)).dropWhile p).reverse.dropWhile p).reverse = s := by
  rw [List.dropWhile_append_of_pos ha]
  cases s with
  | nil =>
    rw [List.nil_append, List.dropWhile_eq_nil_iff.2 hb]
    rfl
  | cons x s =>
    have hfront : (x :: s ++ b).dropWhile p = x :: s ++ b := dropWhile_of_head hhead
    have hback : ∀ y ∈ (x :: s).reverse.head?, p y = false := by
      rw [List.head?_reverse]
      exact hlast
    rw [hfront, List.reverse_append, List.dropWhile_append_of_pos (by simpa using hb),
      dropWhile_of_head hback, List.reverse_reverse]

end

theorem trim_around {a s b : List Char} (ha : ∀ c ∈ a, isBlank c = true)
    (hb : ∀ c ∈ b, isBlank c = true) (hhead : ∀ c ∈ s.head?, isBlank c = false)
    (hlast : ∀ c ∈ s.getLast?, isBlank c = false) : trim (a ++ (s ++ b)) = s :=
  dropWhile_around ha hb hhead hlast

/-- There is nothing to trim from a text without blanks at its ends. -/
theorem trim_eq_self {s : List Char} (hhead : ∀ c ∈ s.head?, isBlank c = false)
    (hlast : ∀ c ∈ s.getLast?, isBlank c = false) : trim s = s := by
  have hnone : ∀ c ∈ ([] : List Char), isBlank c = true := by simp
  have htrim := trim_around hnone hnone hhead hlast
  rwa [List.nil_append, List.append_nil] at htrim

theorem not_isBlank_of_getLast?_trim (s : List Char) :
    ∀ c ∈ (trim s).getLast?, isBlank c = false := by
  intro c hc
  rw [trim, trimEnd, List.getLast?_reverse] at hc
  have hnot := List.head?_dropWhile_not isBlank (trimStart s).reverse
  rw [Option.mem_def.1 hc] at hnot
  exact hnot

theorem not_isBlank_of_head?_trim (s : List Char) : ∀ c ∈ (trim s).head?, isBlank c = false := by
  intro c hc
  obtain ⟨t, ht⟩ : trim s <+: trimStart s := List.rdropWhile_prefix isBlank _
  have hhead : (trimStart s).head? = some c := by
    rw [← ht, List.head?_append_of_ne_nil _ (List.ne_nil_of_mem (List.mem_of_mem_head? hc))]
    exact hc
  have hnot := List.head?_dropWhile_not isBlank s
  rw [show s.dropWhile isBlank = trimStart s from rfl, hhead] at hnot
  exact hnot

theorem trim_trim (s : List Char) : trim (trim s) = trim s :=
  trim_eq_self (not_isBlank_of_head?_trim s) (not_isBlank_of_getLast?_trim s)

theorem trim_eq_nil {s : List Char} (h : ∀ c ∈ s, isBlank c = true) : trim s = [] := by
  rw [trim, trimStart, List.dropWhile_eq_nil_iff.2 h]
  rfl

/-- A text is the trimmed text with blanks around it. -/
theorem eq_around_trim (s : List Char) :
    ∃ a b, (∀ c ∈ a, isBlank c = true) ∧ (∀ c ∈ b, isBlank c = true) ∧ s = a ++ (trim s ++ b) := by
  refine ⟨s.takeWhile isBlank, ((trimStart s).reverse.takeWhile isBlank).reverse,
    fun c hc => List.mem_takeWhile_imp hc,
    fun c hc => List.mem_takeWhile_imp (List.mem_reverse.1 hc), ?_⟩
  have hend : trim s ++ ((trimStart s).reverse.takeWhile isBlank).reverse = trimStart s := by
    rw [trim, trimEnd, ← List.reverse_append, List.takeWhile_append_dropWhile,
      List.reverse_reverse]
  rw [hend]
  exact List.takeWhile_append_dropWhile.symm

theorem trimStart_append {a : List Char} (ha : ∀ c ∈ a, isBlank c = true) (s : List Char) :
    trimStart (a ++ s) = trimStart s :=
  List.dropWhile_append_of_pos ha

/-- Trimming stops at the latest where a text starts with no blank. -/
theorem trimStart_append_of_head {y : List Char} (hy : ∀ c ∈ y.head?, isBlank c = false)
    (x : List Char) :
    trimStart (x ++ y) = trimStart x ++ y := by
  unfold trimStart
  rw [List.dropWhile_append]
  split
  · rename_i hx
    rw [dropWhile_of_head hy, List.isEmpty_iff.1 hx, List.nil_append]
  · rfl

theorem trimStart_ne_nil {x : List Char} (h : ∃ c ∈ x, isBlank c = false) : trimStart x ≠ [] := by
  obtain ⟨c, hc, hplain⟩ := h
  intro hnil
  rw [List.dropWhile_eq_nil_iff.1 hnil c hc] at hplain
  cases hplain

theorem trimEnd_append {s : List Char} (hlast : ∀ c ∈ s.getLast?, isBlank c = false)
    (b : List Char) : trimEnd (s ++ b) = s ++ trimEnd b := by
  have hs : s.reverse.dropWhile isBlank = s.reverse := by
    apply dropWhile_of_head
    rw [List.head?_reverse]
    exact hlast
  rw [trimEnd, List.reverse_append, List.dropWhile_append]
  split
  · rename_i hb
    rw [hs, List.reverse_reverse, trimEnd, List.isEmpty_iff.1 hb, List.reverse_nil, List.append_nil]
  · rw [List.reverse_append, List.reverse_reverse, trimEnd]

/-- Trimming leaves the front of a text as it is. -/
theorem trim_front {a s : List Char} (ha : ∀ c ∈ a, isBlank c = true) (hne : s ≠ [])
    (hhead : ∀ c ∈ s.head?, isBlank c = false) (hlast : ∀ c ∈ s.getLast?, isBlank c = false)
    (b : List Char) : trim (a ++ (s ++ b)) = s ++ trimEnd b := by
  obtain ⟨c, s, rfl⟩ := List.exists_cons_of_ne_nil hne
  rw [trim, trimStart_append ha, List.cons_append, trimStart_of_head (hhead c rfl),
    ← List.cons_append, trimEnd_append hlast]

/-! ### Searching a trimmed text -/

theorem contains_iff_isInfix {piece s : List Char} : contains piece s = true ↔ piece <:+: s := by
  induction s with
  | nil => rw [contains, List.isEmpty_iff, List.infix_nil]
  | cons c s ih =>
    rw [contains, Bool.or_eq_true, List.isPrefixOf_iff_prefix, ih, List.infix_cons_iff]

section

variable {piece : List Char} (hne : piece ≠ []) (hplain : ∀ c ∈ piece, isBlank c = false)
include hne hplain

theorem infix_trimStart {s : List Char} : piece <:+: trimStart s ↔ piece <:+: s := by
  induction s with
  | nil => rfl
  | cons c s ih =>
    by_cases hc : isBlank c = true
    · have hpre : ¬ piece <+: c :: s := by
        intro h
        obtain ⟨d, ds, rfl⟩ := List.exists_cons_of_ne_nil hne
        have hd : d = c := (List.cons_prefix_cons.1 h).1
        rw [← hd, hplain d List.mem_cons_self] at hc
        cases hc
      rw [trimStart, List.dropWhile_cons_of_pos hc, List.infix_cons_iff, or_iff_right hpre]
      exact ih
    · rw [trimStart_of_head (Bool.not_eq_true _ ▸ hc)]

theorem infix_trimEnd {s : List Char} : piece <:+: trimEnd s ↔ piece <:+: s := by
  have hback : piece.reverse <:+: trimStart s.reverse ↔ piece.reverse <:+: s.reverse :=
    infix_trimStart (fun h => hne (List.reverse_eq_nil_iff.1 h))
      fun c hc => hplain c (List.mem_reverse.1 hc)
  rw [List.reverse_infix] at hback
  rw [← hback, ← List.reverse_infix, trimEnd, List.reverse_reverse, trimStart]

theorem contains_trim (s : List Char) : contains piece (trim s) = contains piece s := by
  rw [Bool.eq_iff_iff, contains_iff_isInfix, contains_iff_isInfix, trim, infix_trimEnd hne hplain,
    infix_trimStart hne hplain]

end

end CacheWarden.Text
