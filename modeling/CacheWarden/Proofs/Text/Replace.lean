import CacheWarden.Text.Search
import Mathlib

/-!
# Replacing a piece of text

What replacing every occurrence of a piece does to a text. Main statements: `replace_append` and
`replace_append_of_not_mem`, where a text may be cut so that its parts can be replaced apart;
`weigh_replace`, how an additive measure of a text changes; `eq_piece_of_replace_eq_self`, a text in
which the piece occurs stays as it is only if the piece is replaced by itself.
-/

namespace CacheWarden.Text

variable {piece new a b s : List Char}

theorem replaceSkipping_eq_replace_drop (piece new : List Char) (n : Nat) (s : List Char) :
    replaceSkipping piece new n s = replace piece new (s.drop n) := by
  induction s generalizing n with
  | nil => simp [replace, replaceSkipping]
  | cons c r ih =>
    cases n with
    | zero => rfl
    | succ n => rw [replaceSkipping, ih, List.drop_succ_cons]

@[simp] theorem replace_nil (piece new : List Char) : replace piece new [] = [] := rfl

theorem replace_piece_append (hp : piece ≠ []) (new s : List Char) :
    replace piece new (piece ++ s) = new ++ replace piece new s := by
  obtain ⟨c, t, rfl⟩ := List.exists_cons_of_ne_nil hp
  have hpre : (c :: t).isPrefixOf (c :: (t ++ s)) = true :=
    List.isPrefixOf_iff_prefix.2 ⟨s, rfl⟩
  rw [List.cons_append, replace, replaceSkipping, hpre, replaceSkipping_eq_replace_drop]
  simp

theorem replace_cons_of_not_isPrefix {c : Char} {r : List Char} (h : ¬ piece <+: c :: r) :
    replace piece new (c :: r) = c :: replace piece new r := by
  have hpre : piece.isPrefixOf (c :: r) = false := by
    rw [← Bool.not_eq_true, List.isPrefixOf_iff_prefix]
    exact h
  rw [replace, replaceSkipping, hpre, Bool.and_false]
  rfl

/-- To show something of every text, it is enough to show it of the empty text, of a text that
    starts with the piece, and of any other text. -/
theorem piece_induction (hp : piece ≠ []) {motive : List Char → Prop} (nil : motive [])
    (found : ∀ s, motive s → motive (piece ++ s))
    (passed : ∀ c r, ¬ piece <+: c :: r → motive r → motive (c :: r)) (s : List Char) :
    motive s := by
  induction hn : s.length using Nat.strong_induction_on generalizing s with
  | _ n ih =>
    cases s with
    | nil => exact nil
    | cons c r =>
      by_cases h : piece <+: c :: r
      · obtain ⟨t, ht⟩ := h
        have hlen : piece.length + t.length = n := by rw [← hn, ← ht, List.length_append]
        have hpos : 0 < piece.length := List.length_pos_iff.2 hp
        rw [← ht]
        exact found t (ih t.length (by omega) t rfl)
      · exact passed c r h (ih r.length (by simp at hn; omega) r rfl)

theorem replace_of_not_isInfix (h : ¬ piece <:+: s) : replace piece new s = s := by
  induction s with
  | nil => rfl
  | cons c r ih =>
    rw [List.infix_cons_iff, not_or] at h
    rw [replace_cons_of_not_isPrefix h.1, ih h.2]

theorem replace_self (hp : piece ≠ []) (s : List Char) : replace piece piece s = s := by
  induction s using piece_induction hp with
  | nil => rfl
  | found s ih => rw [replace_piece_append hp, ih]
  | passed c r h ih => rw [replace_cons_of_not_isPrefix h, ih]

/-! ### Cutting a text -/

theorem replace_append_of_not_mem {c : Char} (hc : piece.head? = some c) (h : c ∉ a)
    (new b : List Char) : replace piece new (a ++ b) = a ++ replace piece new b := by
  obtain ⟨t, rfl⟩ := List.head?_eq_some_iff.1 hc
  induction a with
  | nil => rfl
  | cons d a ih =>
    rw [List.mem_cons, not_or] at h
    have hpre : ¬ (c :: t) <+: d :: (a ++ b) := by
      rw [List.cons_prefix_cons]
      exact fun hd => h.1 hd.1
    rw [List.cons_append, replace_cons_of_not_isPrefix hpre, ih h.2, List.cons_append]

/-- No occurrence reaches over a cut if it could not go on with the character behind the cut. -/
theorem prefix_of_prefix_append (ha : a ≠ []) (hb : ∀ c ∈ b.head?, c ∉ piece.tail)
    (h : piece <+: a ++ b) : piece <+: a := by
  by_cases hlen : piece.length ≤ a.length
  · exact List.prefix_of_prefix_length_le h (List.prefix_append a b) hlen
  · exfalso
    obtain ⟨u, rfl⟩ : a <+: piece :=
      List.prefix_of_prefix_length_le (List.prefix_append a b) h (by omega)
    rw [List.prefix_append_right_inj] at h
    cases u with
    | nil => simp at hlen
    | cons c u =>
      obtain ⟨v, rfl⟩ := h
      obtain ⟨d, a, rfl⟩ := List.exists_cons_of_ne_nil ha
      exact hb c (by simp) (by simp)

theorem replace_append (hp : piece ≠ []) (hb : ∀ c ∈ b.head?, c ∉ piece.tail)
    (new a : List Char) :
    replace piece new (a ++ b) = replace piece new a ++ replace piece new b := by
  induction a using piece_induction hp with
  | nil => rfl
  | found s ih =>
    rw [List.append_assoc, replace_piece_append hp, replace_piece_append hp, ih, List.append_assoc]
  | passed c r h ih =>
    have hpre : ¬ piece <+: c :: (r ++ b) :=
      fun hc => h (prefix_of_prefix_append (List.cons_ne_nil c r) hb hc)
    rw [List.cons_append, replace_cons_of_not_isPrefix hpre, replace_cons_of_not_isPrefix h, ih,
      List.cons_append]

/-! ### Measures -/

/-- Whether a measure of texts adds up. -/
def AddsUp (f : List Char → Nat) : Prop := ∀ a b, f (a ++ b) = f a + f b

theorem addsUp_length : AddsUp List.length := fun _ _ => List.length_append

theorem addsUp_count (c : Char) : AddsUp (List.count c) := fun _ _ => List.count_append

/-- There is a number of occurrences, which is not zero where the piece occurs: each of them takes
    the measure of the piece away and brings that of the new text. -/
theorem weigh_replace (hp : piece ≠ []) (s : List Char) :
    ∃ k, (piece <:+: s → 0 < k) ∧ ∀ f, AddsUp f → ∀ new,
      f (replace piece new s) + k * f piece = f s + k * f new := by
  induction s using piece_induction hp with
  | nil => exact ⟨0, fun h => absurd (List.infix_nil.1 h) hp, fun f hf new => by simp⟩
  | found s ih =>
    obtain ⟨k, -, hk⟩ := ih
    refine ⟨k + 1, fun _ => Nat.succ_pos k, ?_⟩
    intro f hf new
    rw [replace_piece_append hp, hf, hf, Nat.add_mul, Nat.add_mul]
    have := hk f hf new
    omega
  | passed c r h ih =>
    obtain ⟨k, hpos, hk⟩ := ih
    refine ⟨k, fun hi => hpos ((List.infix_cons_iff.1 hi).resolve_left h), ?_⟩
    intro f hf new
    have hcons : ∀ u, f (c :: u) = f [c] + f u := hf [c]
    rw [replace_cons_of_not_isPrefix h, hcons, hcons r]
    have := hk f hf new
    omega

theorem count_le_count_replace {c : Char} (hp : piece ≠ []) (hc : c ∉ piece) (new s : List Char) :
    s.count c ≤ (replace piece new s).count c := by
  obtain ⟨k, -, hk⟩ := weigh_replace hp s
  have hcount := hk (List.count c) (addsUp_count c) new
  rw [List.count_eq_zero.2 hc] at hcount
  omega

/-- A new text with a character that the piece does not have cannot come in unseen. -/
theorem not_infix_of_count_replace_le {c : Char} (hp : piece ≠ []) (hc : c ∉ piece) (hn : c ∈ new)
    (h : (replace piece new s).count c ≤ s.count c) : ¬ piece <:+: s := by
  intro hi
  obtain ⟨k, hpos, hk⟩ := weigh_replace hp s
  have hcount := hk (List.count c) (addsUp_count c) new
  rw [List.count_eq_zero.2 hc] at hcount
  have hone : 0 < k * new.count c := Nat.mul_pos (hpos hi) (List.count_pos_iff.2 hn)
  omega

theorem length_eq_of_replace_eq_self (hp : piece ≠ []) (hi : piece <:+: s)
    (h : replace piece new s = s) : new.length = piece.length := by
  obtain ⟨k, hpos, hk⟩ := weigh_replace hp s
  have hlen := hk List.length addsUp_length new
  rw [h, Nat.add_left_cancel_iff] at hlen
  exact (Nat.eq_of_mul_eq_mul_left (hpos hi) hlen).symm

theorem eq_piece_of_replace_eq_self (hp : piece ≠ []) (hi : piece <:+: s)
    (h : replace piece new s = s) : new = piece := by
  have hlen := length_eq_of_replace_eq_self hp hi h
  induction s using piece_induction hp with
  | nil => exact absurd (List.infix_nil.1 hi) hp
  | found s ih =>
    rw [replace_piece_append hp] at h
    exact List.append_inj_left h hlen
  | passed c r hc ih =>
    rw [replace_cons_of_not_isPrefix hc, List.cons_inj_right] at h
    exact ih ((List.infix_cons_iff.1 hi).resolve_left hc) h

end CacheWarden.Text
