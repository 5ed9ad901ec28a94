import CacheWarden.Proofs.Text.Numeral
import CacheWarden.Text.CharProperty
import Mathlib

/-!
# Words and digits

A code point has one category, so one run of the assignment tells for every set of categories
whether a code point is in it. Nothing here takes a set apart, or works out its ranges: the sets are
large. Main statements: `word_of_digit`, every digit belongs to a word; `length_digit_le`, how many
ranges of digits there are at most.
-/

namespace CacheWarden.Text

namespace Run

variable {α : Type} {runs : List (Run α)} {start n : Nat} {r q : Run α}

/-- Whether a run has a value for all code points of a range. -/
def covers [BEq α] (r : Run α) (value : α) (lo hi : Nat) : Bool :=
  r.value == value && (decide (r.first ≤ lo) && decide (hi ≤ r.last))

theorem Consecutive.eq_of_mem (h : Consecutive start runs) (hr : r ∈ runs) (hq : q ∈ runs)
    (hnr : r.first ≤ n ∧ n ≤ r.last) (hnq : q.first ≤ n ∧ n ≤ q.last) : r = q := by
  induction runs generalizing start with
  | nil => cases hr
  | cons first rest ih =>
    obtain ⟨-, -, hrest⟩ := h
    have hlater := hrest.le_first
    rw [List.mem_cons] at hr hq
    rcases hr with rfl | hr
    · rcases hq with rfl | hq
      · rfl
      · have := hlater q hq
        omega
    · rcases hq with rfl | hq
      · have := hlater r hr
        omega
      · exact ih hrest hr hq

/-- A run tells for each set of values whether its code points belong to it. -/
theorem has_toSet_of_mem (p : α → Bool) (h : Consecutive start runs) (hr : r ∈ runs)
    (hn : r.first ≤ n ∧ n ≤ r.last) : (toSet p runs).has n = p r.value := by
  rw [has_toSet p h, Bool.eq_iff_iff, List.any_eq_true]
  simp only [Bool.and_eq_true, decide_eq_true_eq]
  constructor
  · intro hany
    obtain ⟨q, hq, hp, hnq⟩ := hany
    rwa [h.eq_of_mem hr hq hn hnq]
  · intro hp
    exact ⟨r, hr, hp, hn⟩

theorem length_decode_le (values : List α) (s : List Char) (start : Nat)
    (open? : Option (α × Nat)) : (decode values start open? s).length ≤ s.length + 1 := by
  induction s generalizing start open? with
  | nil =>
    cases open? with
    | none => exact Nat.zero_le 1
    | some p => exact le_rfl
  | cons c s ih =>
    unfold decode
    split
    · exact (ih _ _).trans (Nat.le_succ _)
    · exact Nat.succ_le_succ (ih _ _)
    · exact (ih _ _).trans (Nat.le_succ _)

end Run

theorem CharSet.length_merge_le (s : CharSet) : (merge s).length ≤ s.length := by
  fun_induction merge s with
  | case1 => exact le_rfl
  | case2 => exact le_rfl
  | case3 a b c d rest _ ih => exact ih.trans (Nat.le_succ _)
  | case4 a b c d rest _ ih => exact Nat.succ_le_succ ih

theorem Run.length_toSet_le {α : Type} (p : α → Bool) (runs : List (Run α)) :
    (toSet p runs).length ≤ runs.length := by
  have hfilter := runs.length_filter_le fun r => p r.value
  have hmerge := CharSet.length_merge_le
    ((runs.filter fun r => p r.value).map fun r => (r.first, r.last))
  rw [List.length_map] at hmerge
  exact hmerge.trans hfilter

namespace Category

theorem toSet_eq (p : Category → Bool) : toSet p = Run.toSet p (Run.ofTexts all assignment) := by
  rw [toSet, runs, List.toList_toArray]

/-- A run that covers a range tells for each set of categories whether the range belongs to it. -/
theorem has_toSet_of_covers {c : Category} {lo hi n : Nat}
    (h : (Run.ofTexts all assignment).any (fun r => r.covers c lo hi) = true) (hlo : lo ≤ n)
    (hhi : n ≤ hi) (p : Category → Bool) : (toSet p).has n = p c := by
  obtain ⟨r, hr, hcovers⟩ := List.any_eq_true.1 h
  simp only [Run.covers, Bool.and_eq_true, beq_iff_eq, decide_eq_true_eq] at hcovers
  obtain ⟨rfl, hfirst, hlast⟩ := hcovers
  rw [toSet_eq]
  exact Run.has_toSet_of_mem p (Run.consecutive_ofTexts all assignment) hr
    ⟨hfirst.trans hlo, hhi.trans hlast⟩

theorem length_ofList_le {l : List Char} (h : l.length ≤ 100) :
    (String.ofList l).toList.length ≤ 100 := by
  rwa [String.toList_ofList]

theorem length_le_of_mem_assignment : ∀ s ∈ assignment, s.toList.length ≤ 100 := by
  unfold assignment
  -- each text is taken as a list at once: its bytes are far slower to count
  repeat' refine List.forall_mem_cons.2 ⟨length_ofList_le (by decide +kernel), ?_⟩
  exact List.forall_mem_nil _

/-- A bound that does not need the runs, only how many characters they are written with. -/
theorem length_toSet_le (p : Category → Bool) : (toSet p).length ≤ 10001 := by
  have hcount : assignment.length ≤ 100 := by decide
  have hchars : (assignment.flatMap String.toList).length ≤ assignment.length * 100 := by
    rw [List.length_flatMap, ← smul_eq_mul, ← List.length_map (fun s : String => s.toList.length)]
    apply List.sum_le_card_nsmul
    intro n hn
    obtain ⟨s, hs, rfl⟩ := List.mem_map.1 hn
    exact length_le_of_mem_assignment s hs
  have hruns := Run.length_decode_le all (assignment.flatMap String.toList) 0 none
  rw [toSet_eq]
  exact (Run.length_toSet_le p _).trans (hruns.trans (by omega))

end Category

namespace CharProperty

/-- The categories of the characters of words. -/
def isOfWords (c : Category) : Bool :=
  c.isLetter || c.isMark || c == .decimal || c == .letterNumber || c == .connector

theorem length_digit_le : digit.length ≤ 10001 := by
  rw [digit]
  exact Category.length_toSet_le _

theorem has_word (n : Nat) : word.has n =
    ((Category.toSet isOfWords).has n || (CharSet.ofText otherWord).has n) :=
  CharSet.mem_union _ _ n

/-- Further characters of words stand far behind those of ASCII. -/
theorem has_otherWord_of_lt {n : Nat} (h : n < 0x200C) :
    (CharSet.ofText otherWord).has n = false := by
  have hall : ((otherWord.toList.splitOnP (· == ' ')).filterMap CharSet.range?).all
      (fun r => decide (0x200C ≤ r.1)) = true := by
    decide +kernel
  rw [CharSet.ofText, CharSet.mem_ofRanges, CharSet.has, List.any_eq_false]
  intro r hr
  have hfirst := List.all_eq_true.1 hall r hr
  rw [decide_eq_true_eq] at hfirst
  simp only [Bool.and_eq_true, decide_eq_true_eq]
  omega

/-- Every digit is a character of a word. -/
theorem word_of_digit {n : Nat} (h : digit.has n = true) : word.has n = true := by
  have hruns := Run.consecutive_ofTexts Category.all Category.assignment
  rw [digit, Category.toSet_eq, Run.has_toSet _ hruns, List.any_eq_true] at h
  obtain ⟨r, hr, hn⟩ := h
  simp only [Bool.and_eq_true, beq_iff_eq, decide_eq_true_eq] at hn
  have hset : (Category.toSet isOfWords).has n = true := by
    rw [Category.toSet_eq, Run.has_toSet_of_mem isOfWords hruns hr hn.2, hn.1]
    rfl
  rw [has_word, hset, Bool.true_or]

theorem digit_of_isDigit {c : Char} (h : isDigit c = true) : digit.has c.toNat = true := by
  have hdecimal : (Run.ofTexts Category.all Category.assignment).any
      (fun r => r.covers .decimal 0x30 0x39) = true := by
    decide +kernel
  obtain ⟨hlo, hhi⟩ := bounds_of_isDigit h
  rw [digit, Category.has_toSet_of_covers hdecimal hlo hhi]
  rfl

theorem word_of_covers {c : Category} {lo hi n : Nat}
    (h : (Run.ofTexts Category.all Category.assignment).any (fun r => r.covers c lo hi) = true)
    (hlo : lo ≤ n) (hhi : n ≤ hi) (hc : isOfWords c = true) : word.has n = true := by
  rw [has_word, Category.has_toSet_of_covers h hlo hhi, hc, Bool.true_or]

theorem not_word_of_covers {c : Category} {lo hi n : Nat}
    (h : (Run.ofTexts Category.all Category.assignment).any (fun r => r.covers c lo hi) = true)
    (hlo : lo ≤ n) (hhi : n ≤ hi) (hc : isOfWords c = false) (hn : n < 0x200C) :
    word.has n = false := by
  rw [has_word, Category.has_toSet_of_covers h hlo hhi, hc, has_otherWord_of_lt hn, Bool.or_self]

theorem word_capital {n : Nat} (hlo : 0x41 ≤ n) (hhi : n ≤ 0x5A) : word.has n = true := by
  have hupper : (Run.ofTexts Category.all Category.assignment).any
      (fun r => r.covers .upper 0x41 0x5A) = true := by
    decide +kernel
  exact word_of_covers hupper hlo hhi rfl

theorem word_small {n : Nat} (hlo : 0x61 ≤ n) (hhi : n ≤ 0x7A) : word.has n = true := by
  have hlower : (Run.ofTexts Category.all Category.assignment).any
      (fun r => r.covers .lower 0x61 0x7A) = true := by
    decide +kernel
  exact word_of_covers hlower hlo hhi rfl

theorem word_space : word.has ' '.toNat = false := by
  have hspace : (Run.ofTexts Category.all Category.assignment).any
      (fun r => r.covers .space 0x20 0x20) = true := by
    decide +kernel
  exact not_word_of_covers hspace le_rfl le_rfl rfl (by decide)

theorem word_slash : word.has '/'.toNat = false := by
  have hpunctuation : (Run.ofTexts Category.all Category.assignment).any
      (fun r => r.covers .otherPunctuation 0x2E 0x2F) = true := by
    decide +kernel
  exact not_word_of_covers hpunctuation (by decide) (by decide) rfl (by decide)

theorem word_tab : word.has '\t'.toNat = false := by
  have hcontrol : (Run.ofTexts Category.all Category.assignment).any
      (fun r => r.covers .control 0x0 0x1F) = true := by
    decide +kernel
  exact not_word_of_covers hcontrol (by decide) (by decide) rfl (by decide)

end CharProperty

end CacheWarden.Text
