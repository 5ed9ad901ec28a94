import CacheWarden.Pattern.Regex
import Mathlib

/-!
# What a regular expression matches

The texts of an expression depend on what stands around them, because of its conditions on places.
`Accepts` says what they are, by the form of the expression and without places and marks; marking
places finds exactly these. Each step of the matcher is described by the stretches that lead from a
marked place to one that the step marks, and steps that follow each other by stretches in a row.
Main statements: `follows_reach`, and from it `isMatch_iff`.
-/

namespace CacheWarden.Pattern

open CacheWarden.Text

/-- A form that stretches of a text may have, by what stands before a stretch, the stretch itself,
    and what stands after it. -/
abbrev Form : Type := List Char → List Char → List Char → Prop

namespace Form

/-- A stretch of one form and behind it one of another. -/
def andThen (T U : Form) : Form := fun before s after =>
  ∃ u v, s = u ++ v ∧ T before u (v ++ after) ∧ U (before ++ u) v after

/-- A number of stretches of a form in a row. -/
def times (T : Form) : Nat → Form
  | 0 => fun _ s _ => s = []
  | n + 1 => andThen T (times T n)

/-- At most a number of stretches of a form in a row. -/
def upTo (T : Form) (n : Nat) : Form := fun before s after => ∃ m ≤ n, T.times m before s after

variable {T : Form} {before s after : List Char}

theorem times_add (m n : Nat) : T.times (m + n) before s after ↔
    andThen (T.times m) (T.times n) before s after := by
  induction m generalizing before s with
  | zero =>
    rw [Nat.zero_add]
    constructor
    · intro h
      refine ⟨[], s, rfl, rfl, ?_⟩
      rwa [List.append_nil]
    · intro h
      obtain ⟨u, v, rfl, rfl, hv⟩ := h
      rwa [List.append_nil] at hv
  | succ m ih =>
    rw [Nat.succ_add]
    constructor
    · intro h
      obtain ⟨u, r, rfl, hu, hr⟩ := h
      obtain ⟨v, w, rfl, hv, hw⟩ := ih.1 hr
      rw [List.append_assoc] at hu
      refine ⟨u ++ v, w, (List.append_assoc u v w).symm, ⟨u, v, rfl, hu, hv⟩, ?_⟩
      rwa [← List.append_assoc]
    · intro h
      obtain ⟨_, w, rfl, ⟨u, v, rfl, hu, hv⟩, hw⟩ := h
      rw [← List.append_assoc] at hw
      refine ⟨u, v ++ w, List.append_assoc u v w, ?_, ih.2 ⟨v, w, rfl, hv, hw⟩⟩
      rwa [List.append_assoc]

/-- An empty stretch in a row makes no difference, so a row need not have more stretches than
    characters. -/
theorem exists_fewer_times {n : Nat} (h : T.times n before s after) :
    ∃ m ≤ n, m ≤ s.length ∧ T.times m before s after := by
  induction n generalizing before s with
  | zero => exact ⟨0, le_rfl, Nat.zero_le _, h⟩
  | succ n ih =>
    obtain ⟨u, v, rfl, hu, hv⟩ := h
    obtain ⟨m, hmn, hmv, hm⟩ := ih hv
    by_cases hnil : u = []
    · subst hnil
      rw [List.append_nil] at hm
      exact ⟨m, by omega, hmv, hm⟩
    · have hpos := List.length_pos_iff.2 hnil
      refine ⟨m + 1, by omega, ?_, u, v, rfl, hu, hm⟩
      rw [List.length_append]
      omega

theorem upTo_zero : T.upTo 0 before s after ↔ s = [] := by
  constructor
  · intro h
    obtain ⟨m, hm, h⟩ := h
    rwa [Nat.le_zero.1 hm] at h
  · intro h
    exact ⟨0, le_rfl, h⟩

theorem upTo_succ (n : Nat) : T.upTo (n + 1) before s after ↔
    s = [] ∨ andThen T (T.upTo n) before s after := by
  constructor
  · intro h
    obtain ⟨m, hm, h⟩ := h
    cases m with
    | zero => exact Or.inl h
    | succ m =>
      obtain ⟨u, v, hs, hu, hv⟩ := h
      exact Or.inr ⟨u, v, hs, hu, m, by omega, hv⟩
  · intro h
    rcases h with h | h
    · exact ⟨0, Nat.zero_le _, h⟩
    · obtain ⟨u, v, hs, hu, m, hm, hv⟩ := h
      exact ⟨m + 1, by omega, u, v, hs, hu, hv⟩

end Form

namespace Regex

open Form

/-- Whether a stretch of a text is one of the texts of an expression, where it stands. -/
def Accepts : Regex → Form
  | .empty => fun _ s _ => s = []
  | .chars set => fun _ s _ => ∃ c, s = [c] ∧ set.has c.toNat = true
  | .assert a => fun before s after => s = [] ∧ a.holds before.getLast? after.head? = true
  | .seq a b => andThen a.Accepts b.Accepts
  | .alt a b => fun before s after => a.Accepts before s after ∨ b.Accepts before s after
  | .repeated e least most => fun before s after =>
      ∃ n, least ≤ n ∧ (∀ m ∈ most, n ≤ max least m) ∧ times e.Accepts n before s after
  | .capture e => e.Accepts

/-! ### What some expressions accept -/

section

variable {before s after : List Char}

theorem accepts_assert_seq (a : Assertion) (e : Regex) :
    (seq (.assert a) e).Accepts before s after ↔
      a.holds before.getLast? (s ++ after).head? = true ∧ e.Accepts before s after := by
  constructor
  · intro h
    obtain ⟨u, v, rfl, ⟨rfl, ha⟩, he⟩ := h
    rw [List.append_nil] at he
    exact ⟨ha, he⟩
  · intro h
    refine ⟨[], s, rfl, ⟨rfl, h.1⟩, ?_⟩
    rw [List.append_nil]
    exact h.2

theorem has_single_iff {c d : Char} : (CharSet.single c).has d.toNat = true ↔ d = c := by
  rw [CharSet.single, CharSet.has_cons]
  simp only [CharSet.has, List.any_nil, Bool.or_false, Bool.and_eq_true, decide_eq_true_eq]
  constructor
  · intro h
    exact Char.toNat_inj.1 (Nat.le_antisymm h.2 h.1)
  · intro h
    exact ⟨h ▸ le_rfl, h ▸ le_rfl⟩

theorem accepts_single_seq (c : Char) (e : Regex) :
    (seq (.chars (CharSet.single c)) e).Accepts before s after ↔
      ∃ r, s = c :: r ∧ e.Accepts (before ++ [c]) r after := by
  constructor
  · intro h
    obtain ⟨u, v, rfl, ⟨d, rfl, hd⟩, he⟩ := h
    obtain rfl := has_single_iff.1 hd
    exact ⟨v, rfl, he⟩
  · intro h
    obtain ⟨r, rfl, he⟩ := h
    exact ⟨[c], r, rfl, ⟨c, rfl, has_single_iff.2 rfl⟩, he⟩

theorem times_chars_iff (set : CharSet) (n : Nat) :
    times (Accepts (.chars set)) n before s after ↔
      s.length = n ∧ ∀ c ∈ s, set.has c.toNat = true := by
  induction n generalizing before s with
  | zero =>
    rw [List.length_eq_zero_iff]
    constructor
    · intro h
      rw [show s = [] from h]
      exact ⟨rfl, List.forall_mem_nil _⟩
    · exact And.left
  | succ n ih =>
    constructor
    · intro h
      obtain ⟨u, v, rfl, ⟨c, rfl, hc⟩, hv⟩ := h
      obtain ⟨hlength, hall⟩ := ih.1 hv
      exact ⟨congrArg Nat.succ hlength, List.forall_mem_cons.2 ⟨hc, hall⟩⟩
    · intro h
      cases s with
      | nil => cases h.1
      | cons c s =>
        obtain ⟨hc, hall⟩ := List.forall_mem_cons.1 h.2
        exact ⟨[c], s, rfl, ⟨c, rfl, hc⟩, ih.2 ⟨Nat.succ.inj h.1, hall⟩⟩

/-- Characters of a set in a row, one or more. -/
theorem accepts_some_chars (set : CharSet) :
    (repeated (.chars set) 1 none).Accepts before s after ↔
      s ≠ [] ∧ ∀ c ∈ s, set.has c.toNat = true := by
  rw [← List.length_pos_iff]
  constructor
  · intro h
    obtain ⟨n, hn, -, hs⟩ := h
    obtain ⟨rfl, hall⟩ := (times_chars_iff set n).1 hs
    exact ⟨hn, hall⟩
  · intro h
    refine ⟨s.length, h.1, ?_, (times_chars_iff set _).2 ⟨rfl, h.2⟩⟩
    rintro m ⟨⟩

end

/-! ### Marks -/

/-- Whether a place is marked. -/
def Marked (marks : List Bool) (i : Nat) : Prop := marks[i]? = some true

/-- Whether a step marks the places behind the stretches of some form that begin at a marked
    place. -/
structure Follows (text : List Char) (step : List Bool → List Bool) (T : Form) : Prop where
  length : ∀ {marks}, marks.length = text.length + 1 → (step marks).length = text.length + 1
  marked : ∀ {marks}, marks.length = text.length + 1 → ∀ {before after}, text = before ++ after →
    (Marked (step marks) before.length ↔
      ∃ front s, before = front ++ s ∧ Marked marks front.length ∧ T front s after)

/-- A step that keeps or takes away each mark by what is at its place. -/
theorem marked_zipWith {α : Type} {keep : α → Bool} {l : List α} {i : Nat} {a : α}
    (ha : l[i]? = some a) (marks : List Bool) :
    Marked (List.zipWith (fun a marked => marked && keep a) l marks) i ↔
      Marked marks i ∧ keep a = true := by
  rw [Marked, Marked, List.getElem?_zipWith, ha]
  cases marks[i]? with
  | none => simp
  | some b => simp

theorem marked_either {a b : List Bool} (h : a.length = b.length) (i : Nat) :
    Marked (either a b) i ↔ Marked a i ∨ Marked b i := by
  rw [Marked, Marked, Marked, either, List.getElem?_zipWith]
  by_cases hi : i < a.length
  · rw [List.getElem?_eq_getElem hi, List.getElem?_eq_getElem (h ▸ hi)]
    simp
  · rw [List.getElem?_eq_none (by omega), List.getElem?_eq_none (by omega)]
    simp

/-- What stands at a place between two parts of a text. -/
theorem places_append (before after : List Char) :
    (places (before ++ after))[before.length]? = some (before.getLast?, after.head?) := by
  have hleft : (none :: (before ++ after).map some)[before.length]? = some before.getLast? := by
    induction before using List.reverseRecOn with
    | nil => rfl
    | append_singleton before c _ =>
      rw [List.length_append, List.length_singleton, List.getElem?_cons_succ, List.getElem?_map]
      simp
  have hright : ((before ++ after).map some ++ [none])[before.length]? = some after.head? := by
    rw [List.map_append, List.append_assoc, List.getElem?_append_right (by simp)]
    cases after <;> simp
  rw [places, List.getElem?_zip_eq_some]
  exact ⟨hleft, hright⟩

namespace Follows

variable {text : List Char} {step next : List Bool → List Bool} {T U : Form}

theorem congr (h : Follows text step T) (hT : ∀ before s after, text = before ++ s ++ after →
    (T before s after ↔ U before s after)) : Follows text step U where
  length := h.length
  marked := by
    intro marks hmarks before after htext
    rw [h.marked hmarks htext]
    constructor
    · intro hfront
      obtain ⟨front, s, rfl, hmark, hs⟩ := hfront
      exact ⟨front, s, rfl, hmark, (hT front s after htext).1 hs⟩
    · intro hfront
      obtain ⟨front, s, rfl, hmark, hs⟩ := hfront
      exact ⟨front, s, rfl, hmark, (hT front s after htext).2 hs⟩

theorem stay (text : List Char) : Follows text (fun marks => marks) fun _ s _ => s = [] where
  length := fun h => h
  marked := by
    intro marks _ before after _
    constructor
    · intro h
      exact ⟨before, [], (List.append_nil before).symm, h, rfl⟩
    · intro h
      obtain ⟨front, s, rfl, hmark, rfl⟩ := h
      rwa [List.append_nil]

theorem advance (text : List Char) (set : CharSet) :
    Follows text (advance set text) (Accepts (.chars set)) where
  length := fun h => length_advance set h
  marked := by
    intro marks hmarks before after htext
    rcases List.eq_nil_or_concat' before with rfl | ⟨front, c, rfl⟩
    · constructor
      · intro h
        cases h
      · intro h
        obtain ⟨front, s, hnil, -, c, rfl, -⟩ := h
        cases front <;> cases hnil
    · have hc : text[front.length]? = some c := by
        rw [htext]
        simp
      rw [List.length_append, List.length_singleton, Regex.advance, Marked,
        List.getElem?_cons_succ, ← Marked, marked_zipWith hc]
      constructor
      · intro h
        exact ⟨front, [c], rfl, h.1, c, rfl, h.2⟩
      · intro h
        obtain ⟨other, s, hcut, hmark, d, rfl, hd⟩ := h
        obtain ⟨rfl, hsame⟩ := List.append_inj' hcut rfl
        obtain rfl := List.singleton_inj.1 hsame
        exact ⟨hmark, hd⟩

theorem assert (text : List Char) (a : Assertion) :
    Follows text (reach text (.assert a)) (Accepts (.assert a)) where
  length := by
    intro marks hmarks
    simp [reach, places, hmarks]
  marked := by
    intro marks hmarks before after htext
    have hplace := places_append before after
    rw [← htext] at hplace
    rw [reach, marked_zipWith hplace]
    constructor
    · intro h
      exact ⟨before, [], (List.append_nil before).symm, h.1, rfl, h.2⟩
    · intro h
      obtain ⟨front, s, rfl, hmark, rfl, ha⟩ := h
      rw [List.append_nil]
      exact ⟨hmark, ha⟩

theorem comp (hstep : Follows text step T) (hnext : Follows text next U) :
    Follows text (fun marks => next (step marks)) (andThen T U) where
  length := fun h => hnext.length (hstep.length h)
  marked := by
    intro marks hmarks before after htext
    rw [hnext.marked (hstep.length hmarks) htext]
    constructor
    · intro h
      obtain ⟨front, v, rfl, hmark, hv⟩ := h
      rw [List.append_assoc] at htext
      obtain ⟨first, u, rfl, hfirst, hu⟩ := (hstep.marked hmarks htext).1 hmark
      exact ⟨first, u ++ v, List.append_assoc first u v, hfirst, u, v, rfl, hu, hv⟩
    · intro h
      obtain ⟨first, _, rfl, hfirst, u, v, rfl, hu, hv⟩ := h
      rw [← List.append_assoc, List.append_assoc] at htext
      refine ⟨first ++ u, v, (List.append_assoc first u v).symm, ?_, hv⟩
      exact (hstep.marked hmarks htext).2 ⟨first, u, rfl, hfirst, hu⟩

theorem either (hstep : Follows text step T) (hnext : Follows text next U) :
    Follows text (fun marks => either (step marks) (next marks))
      fun before s after => T before s after ∨ U before s after where
  length := by
    intro marks hmarks
    rw [length_either, hstep.length hmarks, hnext.length hmarks, Nat.min_self]
  marked := by
    intro marks hmarks before after htext
    have hlength := (hstep.length hmarks).trans (hnext.length hmarks).symm
    rw [marked_either hlength, hstep.marked hmarks htext, hnext.marked hmarks htext]
    constructor
    · intro h
      rcases h with ⟨front, s, hs, hmark, hT⟩ | ⟨front, s, hs, hmark, hU⟩
      · exact ⟨front, s, hs, hmark, Or.inl hT⟩
      · exact ⟨front, s, hs, hmark, Or.inr hU⟩
    · intro h
      obtain ⟨front, s, hs, hmark, hT | hU⟩ := h
      · exact Or.inl ⟨front, s, hs, hmark, hT⟩
      · exact Or.inr ⟨front, s, hs, hmark, hU⟩

theorem exactly (h : Follows text step T) (n : Nat) :
    Follows text (stepExactly step n) (T.times n) := by
  induction n with
  | zero => exact stay text
  | succ n ih => exact h.comp ih

theorem upTo (h : Follows text step T) (n : Nat) :
    Follows text (stepUpTo step n) (T.upTo n) := by
  induction n with
  | zero => exact (stay text).congr fun _ _ _ _ => upTo_zero.symm
  | succ n ih => exact ((stay text).either (h.comp ih)).congr fun _ _ _ _ => (upTo_succ n).symm

end Follows

/-- A repetition without an upper bound comes to an end with the text. -/
theorem repeated_iff (T : Form) (least : Nat) (most : Option Nat) {before s after : List Char}
    {bound : Nat} (hs : s.length ≤ bound) :
    andThen (T.times least) (T.upTo (match most with
      | some most => min (most - least) bound
      | none => bound)) before s after ↔
      ∃ n, least ≤ n ∧ (∀ m ∈ most, n ≤ max least m) ∧ T.times n before s after := by
  constructor
  · intro h
    obtain ⟨u, v, rfl, hu, m, hm, hv⟩ := h
    refine ⟨least + m, Nat.le_add_right _ _, ?_, (times_add least m).2 ⟨u, v, rfl, hu, hv⟩⟩
    rintro most ⟨⟩
    have hmost : m ≤ min (most - least) bound := hm
    omega
  · intro h
    obtain ⟨n, hleast, hmost, hn⟩ := h
    obtain ⟨m, rfl⟩ := Nat.exists_eq_add_of_le hleast
    obtain ⟨u, v, rfl, hu, hv⟩ := (times_add least m).1 hn
    obtain ⟨k, hkm, hkv, hk⟩ := exists_fewer_times hv
    rw [List.length_append] at hs
    have hbound : k ≤ bound := by omega
    refine ⟨u, v, rfl, hu, k, ?_, hk⟩
    cases most with
    | none => exact hbound
    | some most =>
      have hrounds := hmost most rfl
      exact Nat.le_min.2 ⟨by omega, hbound⟩

/-- Matching marks the places where the texts of an expression end that begin at a marked place. -/
theorem follows_reach (text : List Char) (e : Regex) : Follows text (reach text e) e.Accepts := by
  induction e with
  | empty => exact Follows.stay text
  | chars set => exact Follows.advance text set
  | assert a => exact Follows.assert text a
  | seq a b iha ihb => exact iha.comp ihb
  | alt a b iha ihb => exact iha.either ihb
  | repeated e least most ih =>
    refine ((ih.exactly least).comp (ih.upTo _)).congr fun before s after htext => ?_
    apply repeated_iff
    rw [htext, List.length_append, List.length_append]
    omega
  | capture e ih => exact ih

/-- An expression matches a line if some stretch of the line is one of its texts. -/
theorem isMatch_iff (e : Regex) (line : List Char) :
    e.isMatch line = true ↔
      ∃ before s after, line = before ++ s ++ after ∧ e.Accepts before s after := by
  have hall : (List.replicate (line.length + 1) true).length = line.length + 1 :=
    List.length_replicate
  have hfollows := follows_reach line e
  have hmark : e.isMatch line = true ↔
      ∃ i, Marked (reach line e (List.replicate (line.length + 1) true)) i := by
    rw [isMatch, List.any_eq_true]
    simp [Marked, List.mem_iff_getElem?]
  rw [hmark]
  constructor
  · intro h
    obtain ⟨i, hi⟩ := h
    have hlt : i < line.length + 1 := by
      have := (List.getElem?_eq_some_iff.1 hi).1
      rwa [hfollows.length hall] at this
    have htake : (line.take i).length = i := by
      rw [List.length_take]
      omega
    have hcut := (List.take_append_drop i line).symm
    rw [← htake] at hi
    obtain ⟨front, s, hfront, -, hs⟩ := (hfollows.marked hall hcut).1 hi
    refine ⟨front, s, line.drop i, ?_, hs⟩
    rw [← hfront]
    exact hcut
  · intro h
    obtain ⟨before, s, after, hline, hs⟩ := h
    refine ⟨(before ++ s).length, (hfollows.marked hall hline).2 ⟨before, s, rfl, ?_, hs⟩⟩
    have hlt : before.length < line.length + 1 := by
      rw [hline, List.length_append, List.length_append]
      omega
    exact List.getElem?_replicate_of_lt hlt

end Regex

end CacheWarden.Pattern
