import CacheWarden.Proofs.Text.Lines
import CacheWarden.Proofs.Text.Replace
import CacheWarden.Proofs.Text.Words
import Mathlib

/-!
# Where a piece of text may occur

A piece without some character does not reach over that character, so it occurs on one side of it.
In particular a piece that fits on a line occurs in a text exactly if it occurs in one of its lines.
Main statements: `infix_append_cons_iff` and `exists_infix_line_iff`; `eq_of_quoted`, a text with
two quotes has one quoted part; `infix_of_mem_words`.
-/

namespace CacheWarden.Text

variable {piece s t : List Char} {c : Char}

/-! ### Cutting at a character -/

theorem infix_append_cons_iff (hc : c ∉ piece) :
    piece <:+: s ++ c :: t ↔ piece <:+: s ∨ piece <:+: t := by
  constructor
  · intro h
    induction s with
    | nil =>
      rw [List.nil_append, List.infix_cons_iff] at h
      refine h.imp_left fun hfront => ?_
      cases piece with
      | nil => exact List.infix_rfl
      | cons d piece =>
        obtain ⟨rfl, -⟩ := List.cons_prefix_cons.1 hfront
        exact absurd List.mem_cons_self hc
    | cons d s ih =>
      rw [List.cons_append, List.infix_cons_iff] at h
      rcases h with hfront | hrest
      · have hplain : ∀ e ∈ (c :: t).head?, e ∉ piece.tail := by
          rintro e ⟨⟩
          exact fun he => hc (List.mem_of_mem_tail he)
        exact Or.inl (prefix_of_prefix_append (List.cons_ne_nil d s) hplain hfront).isInfix
      · exact (ih hrest).imp_left fun hs => List.infix_cons_iff.2 (Or.inr hs)
  · intro h
    rcases h with h | h
    · exact h.trans (List.prefix_append s (c :: t)).isInfix
    · exact h.trans ((List.suffix_cons c t).trans (List.suffix_append s (c :: t))).isInfix

/-- Where a piece stands on one side of a character, this is what stands around it. -/
theorem eq_append_or_of_not_mem {a b before after : List Char} (hne : piece ≠ [])
    (hpiece : c ∉ piece) (h : a ++ c :: b = before ++ (piece ++ after)) :
    (∃ u, a = before ++ (piece ++ u) ∧ after = u ++ c :: b) ∨
      ∃ u, before = a ++ c :: u ∧ b = u ++ (piece ++ after) := by
  rcases List.append_eq_append_iff.1 h with ⟨u, hbefore, hrest⟩ | ⟨u, ha, hrest⟩
  · right
    cases u with
    | nil =>
      obtain ⟨d, piece, rfl⟩ := List.exists_cons_of_ne_nil hne
      obtain ⟨rfl, -⟩ := List.cons.inj hrest
      exact absurd List.mem_cons_self hpiece
    | cons d u =>
      obtain ⟨rfl, hb⟩ := List.cons.inj hrest
      exact ⟨u, hbefore, hb⟩
  · left
    rcases List.append_eq_append_iff.1 hrest with ⟨v, hu, hafter⟩ | ⟨v, hpiece', hcut⟩
    · exact ⟨v, by rw [ha, hu], hafter⟩
    · cases v with
      | nil =>
        rw [List.append_nil] at hpiece'
        exact ⟨[], by rw [ha, hpiece', List.append_nil], hcut.symm⟩
      | cons d v =>
        obtain ⟨rfl, -⟩ := List.cons.inj hcut
        rw [hpiece'] at hpiece
        exact absurd (List.mem_append_right u List.mem_cons_self) hpiece

theorem splitOnce_append (hc : c ∉ s) (t : List Char) :
    splitOnce c (s ++ c :: t) = some (s, t) := by
  induction s with
  | nil => exact if_pos rfl
  | cons d s ih =>
    rw [List.mem_cons, not_or] at hc
    rw [List.cons_append, splitOnce, if_neg (Ne.symm hc.1), ih hc.2]
    rfl

/-- Between the only two quotes of a text stands one text. -/
theorem eq_of_quoted {a b m a' b' n : List Char} (ha : c ∉ a) (hm : c ∉ m) (hb : c ∉ b)
    (h : a ++ c :: (m ++ c :: b) = a' ++ c :: (n ++ c :: b')) : m = n := by
  have hcount := congrArg (List.count c) h
  simp only [List.count_append, List.count_cons_self, List.count_eq_zero.2 ha,
    List.count_eq_zero.2 hm, List.count_eq_zero.2 hb] at hcount
  have ha' : c ∉ a' := List.count_eq_zero.1 (by omega)
  have hn : c ∉ n := List.count_eq_zero.1 (by omega)
  have hfirst := congrArg (splitOnce c) h
  rw [splitOnce_append ha, splitOnce_append ha', Option.some_inj] at hfirst
  have hsecond := congrArg (splitOnce c) (Prod.mk.inj hfirst).2
  rw [splitOnce_append hm, splitOnce_append hn, Option.some_inj] at hsecond
  exact (Prod.mk.inj hsecond).1

theorem infix_of_mem_words {w : List Char} (h : w ∈ words s) : w <:+: s := by
  induction hn : s.length using Nat.strong_induction_on generalizing s with
  | _ n ih =>
    by_cases hblank : ∃ b ∈ s, isBlank b = true
    · obtain ⟨b, hmem, hb⟩ := hblank
      obtain ⟨front, back, rfl⟩ := List.append_of_mem hmem
      rw [List.length_append, List.length_cons] at hn
      rw [words_append_blank hb, List.mem_append] at h
      rcases h with h | h
      · exact (ih front.length (by omega) h rfl).trans (List.prefix_append front _).isInfix
      · have hback : back <:+ front ++ b :: back :=
          (List.suffix_cons b back).trans (List.suffix_append front _)
        exact (ih back.length (by omega) h rfl).trans hback.isInfix
    · have hword : IsWord s := by
        refine ⟨?_, fun c hc => Bool.eq_false_of_not_eq_true fun hb => hblank ⟨c, hc, hb⟩⟩
        rintro rfl
        rw [words_nil] at h
        cases h
      rw [words_of_isWord hword, List.mem_singleton] at h
      rw [h]

/-! ### Pieces in the lines of a text -/

/-- To show something of every text, it is enough to show it of the empty text and of a line with
    its end in front of a text. -/
theorem line_induction {motive : List Char → Prop} (nil : motive [])
    (line : ∀ line back rest, '\n' ∉ line → LineEnd line back rest → line ++ back ≠ [] →
      motive rest → motive (line ++ back)) (s : List Char) : motive s := by
  induction hn : s.length using Nat.strong_induction_on generalizing s with
  | _ n ih =>
    by_cases hs : s = []
    · exact hs ▸ nil
    · obtain ⟨first, back, rest, rfl, hplain, hend⟩ := exists_lineEnd hs
      refine line first back rest hplain hend hs (ih rest.length ?_ rest rfl)
      have hpos := List.length_pos_iff.2 hs
      rw [← hn]
      cases hend with
      | last => exact hpos
      | newline rest _ =>
        rw [List.length_append, List.length_cons]
        omega
      | returnNewline rest =>
        rw [List.length_append, List.length_cons, List.length_cons]
        omega

theorem newline_not_mem_of_mem_lines {l : List Char} (h : l ∈ lines s) : '\n' ∉ l := by
  induction s using line_induction with
  | nil => cases h
  | line first back rest hplain hend hne ih =>
    rw [hend.lines_append hplain hne] at h
    rcases List.mem_cons.1 h with rfl | h
    · exact hplain
    · exact ih h

theorem LineEnd.infix_append_iff {line back rest : List Char} (h : LineEnd line back rest)
    (hne : piece ≠ []) (hn : '\n' ∉ piece) (hr : piece.getLast? ≠ some '\r') :
    piece <:+: line ++ back ↔ piece <:+: line ∨ piece <:+: rest := by
  cases h with
  | last => simp [hne]
  | newline rest _ => exact infix_append_cons_iff hn
  | returnNewline rest =>
    have hcut : line ++ '\r' :: '\n' :: rest = (line ++ ['\r']) ++ '\n' :: rest := by simp
    have hlast : ¬ piece <:+ line ++ ['\r'] := by
      rw [List.suffix_concat_iff]
      rintro (hnil | ⟨u, rfl, -⟩)
      · exact hne hnil
      · exact hr (by simp)
    rw [hcut, infix_append_cons_iff hn, List.infix_concat_iff, or_iff_right hlast]

/-- A piece that has no line end occurs in a text exactly if it occurs in one of its lines. -/
theorem exists_infix_line_iff (hne : piece ≠ []) (hn : '\n' ∉ piece)
    (hr : piece.getLast? ≠ some '\r') : (∃ l ∈ lines s, piece <:+: l) ↔ piece <:+: s := by
  induction s using line_induction with
  | nil => simp [lines, hne]
  | line first back rest hplain hend hnil ih =>
    rw [hend.lines_append hplain hnil, List.exists_mem_cons_iff, ih,
      hend.infix_append_iff hne hn hr]

end CacheWarden.Text
