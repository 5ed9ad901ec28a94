import CacheWarden.Text.Search
import Mathlib

/-!
# Cutting a joined text

A text is cut at a delimiter from the left, so pieces that were joined come back if no occurrence
of the delimiter begins within a piece. It is enough that the delimiter does not stand in the piece
followed by the delimiter without its last character. Main statements:
`splitAt_append_delimiter` and `splitAt_intercalate`; `pair_infix_append`, where two characters
stand next to each other.
-/

namespace CacheWarden.Text

open List (singleton_prefix_iff_head?_eq_some singleton_suffix_iff_getLast?_eq_some)

variable {delimiter p s : List Char}

theorem splitSkipping_eq_splitAt_drop (delimiter : List Char) (n : Nat) (s : List Char) :
    splitSkipping delimiter n s = splitAt delimiter (s.drop n) := by
  induction s generalizing n with
  | nil => simp [splitAt, splitSkipping]
  | cons c r ih =>
    cases n with
    | zero => rfl
    | succ n => rw [splitSkipping, ih, List.drop_succ_cons]

theorem splitAt_delimiter_append (hd : delimiter ≠ []) (s : List Char) :
    splitAt delimiter (delimiter ++ s) = [] :: splitAt delimiter s := by
  obtain ⟨c, t, rfl⟩ := List.exists_cons_of_ne_nil hd
  have hpre : (c :: t).isPrefixOf (c :: (t ++ s)) = true :=
    List.isPrefixOf_iff_prefix.2 ⟨s, rfl⟩
  rw [List.cons_append, splitAt, splitSkipping, hpre, splitSkipping_eq_splitAt_drop]
  simp

theorem splitAt_cons_of_not_isPrefix {c : Char} {r : List Char} (h : ¬ delimiter <+: c :: r) :
    splitAt delimiter (c :: r) = consHead c (splitAt delimiter r) := by
  have hpre : delimiter.isPrefixOf (c :: r) = false := by
    rw [← Bool.not_eq_true, List.isPrefixOf_iff_prefix]
    exact h
  rw [splitAt, splitSkipping, hpre, Bool.and_false]
  rfl

theorem splitAt_of_not_infix (h : ¬ delimiter <:+: s) : splitAt delimiter s = [s] := by
  induction s with
  | nil => rfl
  | cons c r ih =>
    rw [List.infix_cons_iff, not_or] at h
    rw [splitAt_cons_of_not_isPrefix h.1, ih h.2]
    rfl

/-- The first occurrence of the delimiter is the one behind the piece. -/
theorem splitAt_append_delimiter (hd : delimiter ≠ [])
    (h : ¬ delimiter <:+: p ++ delimiter.dropLast) (rest : List Char) :
    splitAt delimiter (p ++ (delimiter ++ rest)) = p :: splitAt delimiter rest := by
  induction p with
  | nil => exact splitAt_delimiter_append hd rest
  | cons c p ih =>
    rw [List.cons_append, List.infix_cons_iff, not_or] at h
    have hpre : ¬ delimiter <+: c :: (p ++ (delimiter ++ rest)) := by
      intro hcut
      have hfront : c :: (p ++ delimiter.dropLast) <+: c :: (p ++ (delimiter ++ rest)) := by
        rw [List.cons_prefix_cons, List.prefix_append_right_inj]
        exact ⟨rfl, (List.dropLast_prefix delimiter).trans (List.prefix_append delimiter rest)⟩
      have hlen : delimiter.length ≤ (c :: (p ++ delimiter.dropLast)).length := by
        simp only [List.length_cons, List.length_append, List.length_dropLast]
        omega
      exact h.1 (List.prefix_of_prefix_length_le hcut hfront hlen)
    rw [List.cons_append, splitAt_cons_of_not_isPrefix hpre, ih h.2]
    rfl

theorem splitAt_intercalate (hd : delimiter ≠ []) {pieces : List (List Char)} (hne : pieces ≠ [])
    (h : ∀ p ∈ pieces, ¬ delimiter <:+: p ++ delimiter.dropLast) :
    splitAt delimiter (delimiter.intercalate pieces) = pieces := by
  induction pieces with
  | nil => exact absurd rfl hne
  | cons p pieces ih =>
    have hp := h p List.mem_cons_self
    cases pieces with
    | nil =>
      rw [List.intercalate_singleton]
      apply splitAt_of_not_infix
      intro hi
      exact hp (hi.trans (List.prefix_append p delimiter.dropLast).isInfix)
    | cons q rest =>
      rw [List.intercalate_cons_cons, List.append_assoc, splitAt_append_delimiter hd hp,
        ih (List.cons_ne_nil q rest) fun r hr => h r (List.mem_cons_of_mem p hr)]

/-- Two characters stand next to each other in one of two texts, or across the cut. -/
theorem pair_infix_append {a b : Char} {s t : List Char} :
    [a, b] <:+: s ++ t ↔
      [a, b] <:+: s ∨ [a, b] <:+: t ∨ s.getLast? = some a ∧ t.head? = some b := by
  rw [List.infix_append_iff]
  constructor
  · intro h
    rcases h with h | h | ⟨front, back, hpair, hs, ht⟩
    · exact Or.inl h
    · exact Or.inr (Or.inl h)
    · match front, hpair with
      | [], hpair =>
        rw [List.nil_append] at hpair
        exact Or.inr (Or.inl (hpair ▸ ht.isInfix))
      | [_], hpair =>
        cases hpair
        exact Or.inr (Or.inr ⟨singleton_suffix_iff_getLast?_eq_some.1 hs,
          singleton_prefix_iff_head?_eq_some.1 ht⟩)
      | [_, _], hpair =>
        cases hpair
        exact Or.inl hs.isInfix
  · intro h
    rcases h with h | h | ⟨hs, ht⟩
    · exact Or.inl h
    · exact Or.inr (Or.inl h)
    · exact Or.inr (Or.inr ⟨[a], [b], rfl, singleton_suffix_iff_getLast?_eq_some.2 hs,
        singleton_prefix_iff_head?_eq_some.2 ht⟩)

end CacheWarden.Text
